/- GID: BlueTeam/Services/Rules
   generality: I
   source: services/api/app/core/db.py
   digest: What the session's operations do, as rules for pre- and postconditions. -/

import BlueTeam.Services.World

set_option autoImplicit false
set_option relaxedAutoImplicit false

namespace BlueTeam.Services

open BlueTeam.Python BlueTeam.Schema BlueTeam.Lib BlueTeam.Lib.Exec

/-- The rows of one tenant that a `SELECT` sees. -/
def World.rowsOf (w : World) (t : Table) (tenantId : String) : List t.Row :=
  (w.session.stored t).filter fun r => Table.tenantId r = tenantId

theorem World.mem_rowsOf {w : World} {t : Table} {tenantId : String} {r : t.Row} :
    r ∈ w.rowsOf t tenantId ↔ r ∈ w.session.stored t ∧ Table.tenantId r = tenantId := by
  simp [World.rowsOf]

section Primitives

variable {α : Type} {P : World → Prop} {Q : α → World → Prop} {E : Failure → World → Prop}

theorem triple_draw {m : Draw α}
    (hok : ∀ w a t, P w → m w.ticks = (.ok a, t) → Q a { w with ticks := t })
    (herr : ∀ w e t, P w → m w.ticks = (.error e, t) → E (.python e) { w with ticks := t }) :
    Triple P (draw m) Q E :=
  triple_zoom hok herr

theorem triple_compute {r : Except Exn α} (hok : ∀ a w, r = .ok a → P w → Q a w)
    (herr : ∀ e w, r = .error e → P w → E (.python e) w) : Triple P (compute r) Q E := by
  unfold compute
  rcases r with e | a
  · exact triple_lift (fun _ _ h => by cases h)
      (fun e' w h hP => by cases h; exact herr e w rfl hP)
  · exact triple_lift (fun a' w h hP => by cases h; exact hok a w rfl hP)
      (fun _ _ h => by cases h)

theorem triple_select {t : Table} {tenantId : String} {p : t.Row → Bool}
    {Q : List t.Row → World → Prop}
    (h : ∀ w, P w → Q ((w.session.stored t).filter fun r => Table.tenantId r = tenantId && p r) w) :
    Triple P (select t tenantId p) Q E :=
  triple_gets h

/-- What a lookup says about the rows: nothing matches, or the row it returns. -/
theorem triple_selectOne {t : Table} {tenantId : String} {p : t.Row → Bool}
    {Q : Option t.Row → World → Prop}
    (hnone : ∀ w, P w → (∀ r ∈ w.session.stored t, Table.tenantId r = tenantId → p r = false) →
      Q none w)
    (hsome : ∀ w r, P w → r ∈ w.session.stored t → Table.tenantId r = tenantId → p r = true →
      Q (some r) w)
    (hmany : ∀ w, P w →
      2 ≤ ((w.session.stored t).filter fun r => Table.tenantId r = tenantId && p r).length →
      E (.multipleResultsFound t) w) :
    Triple P (selectOne t tenantId p) Q E := by
  unfold selectOne
  refine triple_bind (Q := fun rows w => P w ∧
    rows = (w.session.stored t).filter fun r => Table.tenantId r = tenantId && p r)
    (triple_select fun w hw => ⟨hw, rfl⟩) ?_
  intro rows
  refine triple_lift ?_ ?_
  · rintro a w ha ⟨hw, hrows⟩
    match rows, hrows with
    | [], hrows =>
        obtain rfl := Except.ok.inj ha
        refine hnone w hw fun r hr ht => ?_
        have hnot := (List.filter_eq_nil_iff.mp hrows.symm) r hr
        simpa [ht] using hnot
    | [r], hrows =>
        obtain rfl := Except.ok.inj ha
        have hr : r ∈ (w.session.stored t).filter fun r => Table.tenantId r = tenantId && p r := by
          rw [← hrows]
          simp
        simp only [List.mem_filter, Bool.and_eq_true, decide_eq_true_eq] at hr
        exact hsome w r hw hr.1 hr.2.1 hr.2.2
    | _ :: _ :: _, _ => cases ha
  · rintro e w he ⟨hw, hrows⟩
    match rows, hrows with
    | [], _ => cases he
    | [_], _ => cases he
    | _ :: _ :: _, hrows =>
        obtain rfl := Except.error.inj he
        refine hmany w hw ?_
        rw [← hrows]
        simp

theorem triple_get {t : Table} {id : String} {Q : Option t.Row → World → Prop}
    (h : ∀ w, P w → Q ((w.session.stored t).find? fun r => Table.id r = id) w) :
    Triple P (get t id) Q E :=
  triple_gets h

theorem triple_add {t : Table} {r : t.Row} {Q : Unit → World → Prop}
    (h : ∀ w, P w → Q () { w with session := w.session.add (S := schema) r }) :
    Triple P (add r) Q E :=
  triple_modify h

theorem triple_flush {Q : Unit → World → Prop}
    (hok : ∀ w s, P w → w.session.flush = .ok s → Q () { w with session := s })
    (herr : ∀ w c, P w → w.session.flush = .error c → E (.integrityError c) w) :
    Triple P flush Q E := by
  refine ⟨fun w hw => ?_⟩
  unfold flush
  split
  · rename_i r a w' heq
    split at heq
    · rename_i s hs
      cases heq
      exact hok w s hw hs
    · cases heq
  · rename_i r e w' heq
    split at heq
    · cases heq
    · rename_i c hc
      cases heq
      exact herr w c hw hc

theorem flush_run_of_pending_nil {w : World} (h : w.session.pending = []) :
    flush w = (.ok (), w) := by
  unfold flush
  rw [Session.flush_of_pending_nil h]

/-- A row is added and written at once. -/
theorem triple_addFlush {t : Table} {r : t.Row} {a : α}
    (hok : ∀ w s, P w → (w.session.add (S := schema) r).flush = .ok s →
      Q a { w with session := s })
    (herr : ∀ w c, P w → (w.session.add (S := schema) r).flush = .error c →
      E (.integrityError c) { w with session := w.session.add (S := schema) r }) :
    Triple P (add r >>= fun _ => flush >>= fun _ => (pure a : Service α)) Q E := by
  refine triple_from fun w₀ hw₀ => ?_
  refine triple_bind (Q := fun _ w => w = { w₀ with session := w₀.session.add (S := schema) r })
    (triple_add ?_) fun _ => ?_
  · rintro w rfl
    rfl
  · refine triple_bind (Q := fun _ => Q a) (triple_flush ?_ ?_) fun _ => triple_pure fun _ hw => hw
    · rintro w s rfl hflush
      exact hok w₀ s hw₀ hflush
    · rintro w c rfl hflush
      exact herr w₀ c hw₀ hflush

theorem triple_update {t : Table} {f : t.Row → t.Row} {Q : Unit → World → Prop}
    (h : ∀ w, P w → Q () { w with session := w.session.update t f }) :
    Triple P (update t f) Q E :=
  triple_modify h

theorem triple_deleteAll {t : Table} {tenantId : String} {Q : Unit → World → Prop}
    (h : ∀ w, P w → Q ()
      { w with session := w.session.delete t fun r => Table.tenantId r = tenantId }) :
    Triple P (deleteAll t tenantId) Q E :=
  triple_modify h

end Primitives

/-! ### Invariants of the session -/

section Keeps

variable {α β : Type} {I : Session schema → Prop} {E : Failure → World → Prop} {F : Failure → Prop}

/-- The program keeps an invariant of the session; where it raises, `E` holds. -/
def Keeps (I : Session schema → Prop) (E : Failure → World → Prop) (m : Service α) : Prop :=
  Triple (fun w => I w.session) m (fun _ w => I w.session) E

theorem keeps_pure (a : α) : Keeps I E (pure a : Service α) :=
  triple_pure fun _ h => h

theorem keeps_bind {m : Service α} {f : α → Service β} (hm : Keeps I E m)
    (hf : ∀ a, Keeps I E (f a)) : Keeps I E (m >>= f) :=
  triple_bind hm hf

theorem keeps_raise {e : Failure} (h : ∀ w : World, I w.session → E e w) :
    Keeps I E (raise e : Service α) :=
  triple_raise h

theorem keeps_draw {m : Draw α} (h : ∀ e (w : World), I w.session → E (.python e) w) :
    Keeps I E (draw m) :=
  triple_draw (fun _ _ _ hw _ => hw) (fun _ e _ hw _ => h e _ hw)

theorem keeps_compute {r : Except Exn α} (h : ∀ e (w : World), I w.session → E (.python e) w) :
    Keeps I E (compute r) :=
  triple_compute (fun _ _ _ hw => hw) (fun e w _ hw => h e w hw)

theorem keeps_select {t : Table} {tenantId : String} {p : t.Row → Bool} :
    Keeps I E (select t tenantId p) :=
  triple_select fun _ hw => hw

theorem keeps_selectOne {t : Table} {tenantId : String} {p : t.Row → Bool}
    (h : ∀ w : World, I w.session → E (.multipleResultsFound t) w) :
    Keeps I E (selectOne t tenantId p) :=
  triple_selectOne (fun _ hw _ => hw) (fun _ _ hw _ _ _ => hw) (fun w hw _ => h w hw)

theorem keeps_get {t : Table} {id : String} : Keeps I E (get t id) :=
  triple_get fun _ hw => hw

theorem keeps_add {t : Table} {r : t.Row} (h : ∀ s, I s → I (s.add (S := schema) r)) :
    Keeps I E (add r) :=
  triple_add fun w hw => h w.session hw

theorem keeps_flush (hok : ∀ s s', I s → s.flush = .ok s' → I s')
    (herr : ∀ (w : World) c, I w.session → w.session.flush = .error c → E (.integrityError c) w) :
    Keeps I E flush :=
  triple_flush (fun w s hw hs => hok w.session s hw hs) herr

theorem keeps_update {t : Table} {f : t.Row → t.Row} (h : ∀ s, I s → I (s.update t f)) :
    Keeps I E (update t f) :=
  triple_update fun w hw => h w.session hw

theorem keeps_deleteAll {t : Table} {tenantId : String}
    (h : ∀ s, I s → I (s.delete t fun r => Table.tenantId r = tenantId)) :
    Keeps I E (deleteAll t tenantId) :=
  triple_deleteAll fun w hw => h w.session hw

theorem keeps_loop {f : β → α → Service β} {as : List α} (hf : ∀ b, ∀ a ∈ as, Keeps I E (f b a))
    (b : β) : Keeps I E (loop f b as) := by
  induction as generalizing b with
  | nil => exact keeps_pure b
  | cons a as ih =>
      refine keeps_bind (hf b a (by simp)) fun b' => ih ?_ b'
      intro c x hx
      exact hf c x (by simp [hx])

/-- A `try`: the handler starts from the state the exception was raised in. -/
theorem keeps_try {G : α → Prop} {m : Service α} {f : Except Failure α → Service β}
    (hm : Triple (fun w => I w.session) m (fun a w => I w.session ∧ G a)
      (fun e w => I w.session ∧ F e))
    (hok : ∀ a, G a → Keeps I E (f (.ok a))) (herr : ∀ e, F e → Keeps I E (f (.error e))) :
    Keeps I E (attempt m >>= f) := by
  refine triple_bind (Q := fun r w => I w.session ∧ (∀ a, r = .ok a → G a) ∧
    ∀ e, r = .error e → F e) ?_ ?_
  · refine triple_attempt (hm.conseq (fun _ hw => hw) ?_ ?_)
    · rintro a w ⟨hw, ha⟩
      refine ⟨hw, ?_, fun e he => by cases he⟩
      rintro _ ⟨⟩
      exact ha
    · rintro e w ⟨hw, he⟩
      refine ⟨hw, fun a ha => (by cases ha), ?_⟩
      rintro _ ⟨⟩
      exact he
  · rintro (e | a)
    · refine ⟨fun w hw => ?_⟩
      exact (herr e (hw.2.2 e rfl)).run w hw.1
    · refine ⟨fun w hw => ?_⟩
      exact (hok a (hw.2.1 a rfl)).run w hw.1

/-- A request keeps an invariant of committed sessions: either its own work and the commit keep
it, or nothing happened. -/
theorem request_run {m : Service α} {w : World}
    (hm : Triple (fun w' => w' = w) m (fun _ w' => I w'.session) (fun e _ => F e))
    (hflush : Keeps I (fun e _ => F e) flush) (hw : I w.session) :
    I (request m w).2.session ∧ ∀ e, (request m w).1 = .error e → F e := by
  have hall : Triple (fun w' => w' = w) (m >>= fun a => flush >>= fun _ => pure a)
      (fun _ w' => I w'.session) (fun e _ => F e) :=
    triple_bind hm fun a => keeps_bind hflush fun _ => keeps_pure a
  have h := hall.run w rfl
  unfold request
  rcases hr : (m >>= fun a => flush >>= fun _ => pure a) w with ⟨⟨e⟩ | ⟨a⟩, w'⟩
  · rw [hr] at h
    refine ⟨hw, ?_⟩
    rintro _ ⟨⟩
    exact h
  · rw [hr] at h
    exact ⟨h, fun e he => by cases he⟩

/-- A request that returns has done its work and has written it. -/
theorem request_ok {m : Service α} {w : World} {a : α} (h : (request m w).1 = .ok a) :
    ∃ w' s, m w = (.ok a, w') ∧ w'.session.flush = .ok s ∧
      (request m w).2 = { w' with session := s } := by
  unfold request at h ⊢
  rw [bind_run] at h ⊢
  rcases hm : m w with ⟨⟨e⟩ | ⟨a'⟩, w'⟩
  · rw [hm] at h
    cases h
  · rw [hm] at h
    simp only [andThen, bind_run, flush] at h ⊢
    cases hflush : w'.session.flush with
    | error c =>
        rw [hflush] at h
        cases h
    | ok s =>
        rw [hflush] at h
        obtain rfl : a' = a := Except.ok.inj h
        exact ⟨w', s, rfl, hflush, rfl⟩

/-- What a request returns plays no part in what it writes. -/
theorem request_forget (m : Service α) (w : World) :
    (request (m >>= fun _ => (pure () : Service Unit)) w).2 = (request m w).2 := by
  unfold request
  rw [bind_run, bind_run, bind_run]
  rcases m w with ⟨⟨e⟩ | ⟨a⟩, w'⟩
  · rfl
  · simp only [andThen, bind_run, pure_run]
    rcases flush w' with ⟨⟨e⟩ | ⟨a⟩, w''⟩ <;> rfl

/-- With nothing left to write, a request ends where its work does. -/
theorem request_run_of_pending_nil {m : Service α} {w w' : World} {a : α}
    (hm : m w = (.ok a, w')) (hpending : w'.session.pending = []) :
    request m w = (.ok a, w') := by
  unfold request
  rw [bind_run, hm]
  simp only [andThen, bind_run, flush_run_of_pending_nil hpending, pure_run]

theorem request_keeps {m : Service α} (hm : Keeps I (fun e _ => F e) m)
    (hflush : Keeps I (fun e _ => F e) flush) {w : World} (hw : I w.session) :
    I (request m w).2.session ∧ ∀ e, (request m w).1 = .error e → F e := by
  refine request_run (hm.pre ?_) hflush hw
  rintro _ rfl
  exact hw

/-- After a request nothing is pending, if nothing was before it. -/
theorem request_pending {m : Service α} {w : World} (hw : w.session.pending = []) :
    (request m w).2.session.pending = [] := by
  have hflush : Triple (fun _ => True) (m >>= fun a => flush >>= fun _ => pure a)
      (fun _ w => w.session.pending = []) (fun _ _ => True) := by
    refine triple_bind (Q := fun _ _ => True) ?_ ?_
    · refine ⟨fun w _ => ?_⟩
      rcases m w with ⟨⟨e⟩ | ⟨a⟩, w'⟩ <;> trivial
    · intro a
      refine triple_bind (Q := fun _ w => w.session.pending = []) ?_ ?_
      · exact triple_flush (fun w s _ hs => (Session.flush_ok hs).1) (fun _ _ _ _ => trivial)
      · intro _
        exact triple_pure fun _ h => h
  have h := hflush.run w trivial
  unfold request
  rcases hr : (m >>= fun a => flush >>= fun _ => pure a) w with ⟨⟨e⟩ | ⟨a⟩, w'⟩
  · exact hw
  · rw [hr] at h
    exact h

end Keeps

end BlueTeam.Services
