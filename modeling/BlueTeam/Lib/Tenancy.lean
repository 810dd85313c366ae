/- GID: BlueTeam/Lib/Tenancy
   generality: G
   digest: What one tenant has of a shared database, and that writing its rows depends on nothing
     else as long as no other tenant holds their keys. -/

import BlueTeam.Lib.Store

set_option autoImplicit false
set_option relaxedAutoImplicit false

namespace BlueTeam.Lib

variable {S : Schema} {a : String}

namespace Database

def own (a : String) (db : Database S) (t : S.Table) : List (S.Row t) :=
  (db t).filter fun r => S.tenant r = a

def others (a : String) (db : Database S) (t : S.Table) : List (S.Row t) :=
  (db t).filter fun r => S.tenant r ≠ a

theorem mem_own {db : Database S} {t : S.Table} {r : S.Row t} :
    r ∈ db.own a t ↔ r ∈ db t ∧ S.tenant r = a := by
  simp [own]

theorem mem_others {db : Database S} {t : S.Table} {r : S.Row t} :
    r ∈ db.others a t ↔ r ∈ db t ∧ S.tenant r ≠ a := by
  simp [others]

/-- The rows of one of the others are among those of the others. -/
theorem own_of_others {b : String} (hne : b ≠ a) (db : Database S) (t : S.Table) :
    db.own b t = (db.others a t).filter fun r => S.tenant r = b := by
  unfold own others
  rw [List.filter_filter]
  refine List.filter_congr fun r _ => ?_
  by_cases hb : S.tenant r = b
  · simp [hb, hne]
  · simp [hb]

/-- No other tenant holds the key. -/
def Free (a : String) (db : Database S) (t : S.Table) (key : String) : Prop :=
  ∀ r ∈ db.others a t, S.key r ≠ key

/-- A test that only rows of the tenant can pass. -/
theorem any_own {db : Database S} {t : S.Table} {p : S.Row t → Bool}
    (h : ∀ r ∈ db t, p r = true → S.tenant r = a) : (db t).any p = (db.own a t).any p := by
  rw [Bool.eq_iff_iff, List.any_eq_true, List.any_eq_true]
  constructor
  · rintro ⟨r, hr, hp⟩
    exact ⟨r, mem_own.mpr ⟨hr, h r hr hp⟩, hp⟩
  · rintro ⟨r, hr, hp⟩
    exact ⟨r, (mem_own.mp hr).1, hp⟩

theorem find_own {db : Database S} {t : S.Table} {p : S.Row t → Bool}
    (h : ∀ r ∈ db t, p r = true → S.tenant r = a) :
    (db t).find? p = (db.own a t).find? p := by
  unfold own
  generalize db t = rows at h
  induction rows with
  | nil => rfl
  | cons r rows ih =>
      have hrest := ih fun r' hr' => h r' (List.mem_cons_of_mem _ hr')
      by_cases hp : p r = true
      · have htenant := h r List.mem_cons_self hp
        rw [List.find?_cons_of_pos hp, List.filter_cons_of_pos (by simpa using htenant),
          List.find?_cons_of_pos hp]
      · rw [List.find?_cons_of_neg hp, hrest]
        by_cases htenant : S.tenant r = a
        · rw [List.filter_cons_of_pos (by simpa using htenant), List.find?_cons_of_neg hp]
        · rw [List.filter_cons_of_neg (by simpa using htenant)]

/-- What is written for the tenant is added to its own rows. -/
theorem own_insertAll {db db' : Database S} {es : List S.Entry} (h : db.insertAll es = .ok db')
    (t : S.Table) :
    db'.own a t = db.own a t ++ (es.filterMap (S.ofTable t)).filter fun r => S.tenant r = a := by
  unfold own
  rw [insertAll_ok h t, List.filter_append]

/-- Nothing is added to the rows of the others. -/
theorem others_insertAll {db db' : Database S} {es : List S.Entry}
    (hes : ∀ e ∈ es, S.tenant e.2 = a) (h : db.insertAll es = .ok db') (t : S.Table) :
    db'.others a t = db.others a t := by
  have hnone : ((es.filterMap (S.ofTable t)).filter fun r => S.tenant r ≠ a) = [] := by
    refine List.filter_eq_nil_iff.mpr fun r hr => ?_
    obtain ⟨e, he, her⟩ := List.mem_filterMap.mp hr
    obtain rfl := Schema.ofTable_eq_some.mp her
    simpa using hes _ he
  unfold others
  rw [insertAll_ok h t, List.filter_append, hnone, List.append_nil]

section

variable {db₁ db₂ : Database S}

/-- An `INSERT` for the tenant has one outcome in databases that agree on the tenant's rows. -/
theorem insert_agree {e : S.Entry} (htenant : S.tenant e.2 = a)
    (hfree₁ : db₁.Free a e.1 (S.key e.2)) (hfree₂ : db₂.Free a e.1 (S.key e.2))
    (hagree : ∀ t, db₁.own a t = db₂.own a t) :
    (∃ c, db₁.insert e = .error c ∧ db₂.insert e = .error c) ∨
      ∃ db₁' db₂', db₁.insert e = .ok db₁' ∧ db₂.insert e = .ok db₂' := by
  have hkey : ∀ {db : Database S}, db.Free a e.1 (S.key e.2) →
      (db e.1).any (fun r => S.key r == S.key e.2) =
        (db.own a e.1).any fun r => S.key r == S.key e.2 := by
    intro db hfree
    refine any_own fun r hr hkey => ?_
    by_contra hother
    exact hfree r (mem_others.mpr ⟨hr, hother⟩) (beq_iff_eq.mp hkey)
  have hclash : ∀ {db : Database S}, (db e.1).any (fun r => S.Clash r e.2) =
      (db.own a e.1).any fun r => S.Clash r e.2 := by
    intro db
    refine any_own fun r hr hclash => ?_
    exact (of_decide_eq_true hclash).1.trans htenant
  unfold insert
  rw [hkey hfree₁, hkey hfree₂, hclash, hclash, hagree e.1]
  split
  · exact .inl ⟨_, rfl, rfl⟩
  · split
    · exact .inl ⟨_, rfl, rfl⟩
    · exact .inr ⟨_, _, rfl, rfl⟩

theorem insertAll_agree {es : List S.Entry} (htenant : ∀ e ∈ es, S.tenant e.2 = a)
    (hfree₁ : ∀ e ∈ es, db₁.Free a e.1 (S.key e.2))
    (hfree₂ : ∀ e ∈ es, db₂.Free a e.1 (S.key e.2)) (hagree : ∀ t, db₁.own a t = db₂.own a t) :
    (∃ c, db₁.insertAll es = .error c ∧ db₂.insertAll es = .error c) ∨
      ∃ db₁' db₂', db₁.insertAll es = .ok db₁' ∧ db₂.insertAll es = .ok db₂' := by
  induction es generalizing db₁ db₂ with
  | nil => exact .inr ⟨db₁, db₂, rfl, rfl⟩
  | cons e es ih =>
      obtain ⟨hte, htes⟩ := List.forall_mem_cons.mp htenant
      obtain ⟨hfe₁, hfes₁⟩ := List.forall_mem_cons.mp hfree₁
      obtain ⟨hfe₂, hfes₂⟩ := List.forall_mem_cons.mp hfree₂
      unfold insertAll
      rcases insert_agree hte hfe₁ hfe₂ hagree with ⟨c, h₁, h₂⟩ | ⟨db₁', db₂', h₁, h₂⟩
      · rw [h₁, h₂]
        exact .inl ⟨c, rfl, rfl⟩
      · rw [h₁, h₂]
        -- One row more for the tenant on both sides, and none for the others.
        have hone : ∀ {db db' : Database S}, db.insert e = .ok db' →
            db.insertAll [e] = .ok db' := by
          intro db db' h
          unfold insertAll
          rw [h]
          rfl
        have hkeep : ∀ {db db' : Database S}, db.insert e = .ok db' →
            (∀ e' ∈ es, db.Free a e'.1 (S.key e'.2)) →
              ∀ e' ∈ es, db'.Free a e'.1 (S.key e'.2) := by
          intro db db' h hfree e' he' r hr
          rw [others_insertAll (by simpa using hte) (hone h)] at hr
          exact hfree e' he' r hr
        refine ih htes (hkeep h₁ hfes₁) (hkeep h₂ hfes₂) fun t => ?_
        rw [own_insertAll (hone h₁), own_insertAll (hone h₂), hagree t]

end

end Database

/-! ### Two sessions -/

/-- What is asked of a tenant's rows: `Good`, and keys that no other tenant holds in either
database. -/
structure Tenancy (S : Schema) where
  tenant : String
  left : Database S
  right : Database S
  Good : (t : S.Table) → S.Row t → Prop
  free : ∀ t r, Good t r → ∀ r', r' ∈ left t ∨ r' ∈ right t → S.key r' ≠ S.key r

/-- Two sessions that agree on all rows of the tenant; what the other tenants have in them is fixed,
and need not agree. -/
structure Tenancy.Agree (T : Tenancy S) (s₁ s₂ : Session S) : Prop where
  pending : s₁.pending = s₂.pending
  own : ∀ t, s₁.stored.own T.tenant t = s₂.stored.own T.tenant t
  left : ∀ t, s₁.stored.others T.tenant t = T.left t
  right : ∀ t, s₂.stored.others T.tenant t = T.right t
  good : ∀ t, ∀ r ∈ s₁.stored.own T.tenant t, T.Good t r
  waiting : ∀ e ∈ s₁.pending, S.tenant e.2 = T.tenant ∧ T.Good e.1 e.2

namespace Tenancy

variable {T : Tenancy S} {s₁ s₂ : Session S} {t : S.Table}

theorem Agree.add (h : T.Agree s₁ s₂) {t : S.Table} {r : S.Row t} (htenant : S.tenant r = T.tenant)
    (hr : T.Good t r) : T.Agree (s₁.add r) (s₂.add r) := by
  refine ⟨?_, h.own, h.left, h.right, h.good, ?_⟩
  · show s₁.pending ++ _ = s₂.pending ++ _
    rw [h.pending]
  · intro e he
    rcases List.mem_append.mp he with he | he
    · exact h.waiting e he
    · obtain rfl := List.mem_singleton.mp he
      exact ⟨htenant, hr⟩

/-- A flush has one outcome in both sessions. -/
theorem Agree.flush (h : T.Agree s₁ s₂) :
    (∃ c, s₁.flush = .error c ∧ s₂.flush = .error c) ∨
      ∃ s₁' s₂', s₁.flush = .ok s₁' ∧ s₂.flush = .ok s₂' ∧ T.Agree s₁' s₂' := by
  have htenant : ∀ e ∈ s₁.pending, S.tenant e.2 = T.tenant := fun e he => (h.waiting e he).1
  have hfree₁ : ∀ e ∈ s₁.pending, s₁.stored.Free T.tenant e.1 (S.key e.2) := by
    intro e he r hr
    rw [h.left] at hr
    exact T.free e.1 e.2 (h.waiting e he).2 r (.inl hr)
  have hfree₂ : ∀ e ∈ s₁.pending, s₂.stored.Free T.tenant e.1 (S.key e.2) := by
    intro e he r hr
    rw [h.right] at hr
    exact T.free e.1 e.2 (h.waiting e he).2 r (.inr hr)
  unfold Session.flush
  rw [← h.pending]
  rcases Database.insertAll_agree htenant hfree₁ hfree₂ h.own with
    ⟨c, h₁, h₂⟩ | ⟨db₁, db₂, h₁, h₂⟩
  · rw [h₁, h₂]
    exact .inl ⟨c, rfl, rfl⟩
  · rw [h₁, h₂]
    refine .inr ⟨_, _, rfl, rfl, rfl, ?_, ?_, ?_, ?_, ?_⟩
    · intro t
      rw [Database.own_insertAll h₁, Database.own_insertAll h₂, h.own]
    · intro t
      rw [Database.others_insertAll htenant h₁]
      exact h.left t
    · intro t
      rw [Database.others_insertAll htenant h₂]
      exact h.right t
    · intro t r hr
      rw [Database.own_insertAll h₁] at hr
      rcases List.mem_append.mp hr with hr | hr
      · exact h.good t r hr
      · obtain ⟨e, he, her⟩ := List.mem_filterMap.mp (List.mem_filter.mp hr).1
        obtain rfl := Schema.ofTable_eq_some.mp her
        exact (h.waiting _ he).2
    · intro e he
      cases he

/-- A change of one table that leaves the rows of the others alone. -/
theorem Agree.onTable (h : T.Agree s₁ s₂) {s₁' s₂' : Session S} (t : S.Table)
    (hpending₁ : s₁'.pending = s₁.pending) (hpending₂ : s₂'.pending = s₂.pending)
    (helse₁ : ∀ u, t ≠ u → s₁'.stored u = s₁.stored u)
    (helse₂ : ∀ u, t ≠ u → s₂'.stored u = s₂.stored u)
    (hown : s₁'.stored.own T.tenant t = s₂'.stored.own T.tenant t)
    (hleft : s₁'.stored.others T.tenant t = s₁.stored.others T.tenant t)
    (hright : s₂'.stored.others T.tenant t = s₂.stored.others T.tenant t)
    (hgood : ∀ r ∈ s₁'.stored.own T.tenant t, T.Good t r) : T.Agree s₁' s₂' := by
  refine ⟨?_, fun u => ?_, fun u => ?_, fun u => ?_, fun u r hr => ?_, ?_⟩
  · rw [hpending₁, hpending₂, h.pending]
  · by_cases hu : t = u
    · subst hu
      exact hown
    · unfold Database.own
      rw [helse₁ u hu, helse₂ u hu]
      exact h.own u
  · by_cases hu : t = u
    · subst hu
      exact hleft.trans (h.left t)
    · unfold Database.others
      rw [helse₁ u hu]
      exact h.left u
  · by_cases hu : t = u
    · subst hu
      exact hright.trans (h.right t)
    · unfold Database.others
      rw [helse₂ u hu]
      exact h.right u
  · by_cases hu : t = u
    · subst hu
      exact hgood r hr
    · unfold Database.own at hr
      rw [helse₁ u hu] at hr
      exact h.good u r hr
  · rw [hpending₁]
    exact h.waiting

/-- A change that keeps rows with their tenants. -/
theorem own_map {rows : List (S.Row t)} {f : S.Row t → S.Row t}
    (h : ∀ r ∈ rows, S.tenant (f r) = a ↔ S.tenant r = a) :
    ((rows.map f).filter fun r => S.tenant r = a) =
      (rows.filter fun r => S.tenant r = a).map f := by
  rw [List.filter_map]
  refine congrArg (List.map f) (List.filter_congr fun r hr => ?_)
  simp only [Function.comp_apply, h r hr]

theorem others_map {rows : List (S.Row t)} {f : S.Row t → S.Row t}
    (h : ∀ r ∈ rows, S.tenant (f r) = a ↔ S.tenant r = a)
    (hothers : ∀ r, S.tenant r ≠ a → f r = r) :
    ((rows.map f).filter fun r => S.tenant r ≠ a) = rows.filter fun r => S.tenant r ≠ a := by
  have hsame : rows.filter ((fun r => decide (S.tenant r ≠ a)) ∘ f) =
      rows.filter fun r => S.tenant r ≠ a := by
    refine List.filter_congr fun r hr => ?_
    simp only [Function.comp_apply, ne_eq, h r hr]
  rw [List.filter_map, hsame]
  have hid : ∀ r ∈ rows.filter fun r => decide (S.tenant r ≠ a), f r = r := by
    intro r hr
    exact hothers r (by simpa using (List.mem_filter.mp hr).2)
  rw [List.map_congr_left hid, List.map_id']

/-- A change of the tenant's rows alone. -/
theorem Agree.update (h : T.Agree s₁ s₂) {f : S.Row t → S.Row t}
    (hown : ∀ r, T.Good t r → S.tenant r = T.tenant → S.tenant (f r) = T.tenant ∧ T.Good t (f r))
    (hothers : ∀ r, S.tenant r ≠ T.tenant → f r = r) : T.Agree (s₁.update t f) (s₂.update t f) := by
  have hgood₂ : ∀ r ∈ s₂.stored.own T.tenant t, T.Good t r := by
    intro r hr
    rw [← h.own] at hr
    exact h.good t r hr
  have hkeep : ∀ {s : Session S}, (∀ r ∈ s.stored.own T.tenant t, T.Good t r) →
      ∀ r ∈ s.stored t, S.tenant (f r) = T.tenant ↔ S.tenant r = T.tenant := by
    intro s hgood r hr
    by_cases htenant : S.tenant r = T.tenant
    · have hgoodr := hgood r (Database.mem_own.mpr ⟨hr, htenant⟩)
      exact ⟨fun _ => htenant, fun _ => (hown r hgoodr htenant).1⟩
    · rw [hothers r htenant]
  have hown' : ∀ {s : Session S}, (∀ r ∈ s.stored.own T.tenant t, T.Good t r) →
      (s.update t f).stored.own T.tenant t = (s.stored.own T.tenant t).map f := by
    intro s hgood
    unfold Database.own
    rw [Session.update_stored_self]
    exact own_map (hkeep hgood)
  have hothers' : ∀ {s : Session S}, (∀ r ∈ s.stored.own T.tenant t, T.Good t r) →
      (s.update t f).stored.others T.tenant t = s.stored.others T.tenant t := by
    intro s hgood
    unfold Database.others
    rw [Session.update_stored_self]
    exact others_map (hkeep hgood) hothers
  refine h.onTable t rfl rfl (fun _ hu => Session.update_stored_of_ne _ hu f)
    (fun _ hu => Session.update_stored_of_ne _ hu f) ?_ (hothers' (h.good t)) (hothers' hgood₂) ?_
  · rw [hown' (h.good t), hown' hgood₂, h.own]
  · intro r hr
    rw [hown' (h.good t)] at hr
    obtain ⟨r', hr', rfl⟩ := List.mem_map.mp hr
    exact (hown r' (h.good t r' hr') (Database.mem_own.mp hr').2).2

/-- The tenant's rows of a table are deleted. -/
theorem Agree.delete (h : T.Agree s₁ s₂) (t : S.Table) :
    T.Agree (s₁.delete t fun r => S.tenant r = T.tenant)
      (s₂.delete t fun r => S.tenant r = T.tenant) := by
  have hown : ∀ {s : Session S}, (s.delete t fun r => S.tenant r = T.tenant).stored.own T.tenant t =
      [] := by
    intro s
    unfold Database.own
    rw [Session.delete_stored_self]
    simp
  have hothers : ∀ {s : Session S}, (s.delete t fun r => S.tenant r = T.tenant).stored.others
      T.tenant t = s.stored.others T.tenant t := by
    intro s
    unfold Database.others
    rw [Session.delete_stored_self]
    simp
  refine h.onTable t rfl rfl (fun _ hu => Session.delete_stored_of_ne _ hu _)
    (fun _ hu => Session.delete_stored_of_ne _ hu _) ?_ hothers hothers ?_
  · rw [hown, hown]
  · intro r hr
    rw [hown] at hr
    cases hr

end Tenancy

end BlueTeam.Lib
