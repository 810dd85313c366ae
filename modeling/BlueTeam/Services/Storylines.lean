/- GID: BlueTeam/Services/Storylines
   generality: I
   source: services/api/app/services/incidents.py
   digest: When storylines stay unique by fingerprint although lookups do not see unflushed rows. -/

import BlueTeam.Services.Footprint

set_option autoImplicit false
set_option relaxedAutoImplicit false

namespace BlueTeam.Services

open BlueTeam.Python BlueTeam.Schema BlueTeam.Lib BlueTeam.Lib.Exec BlueTeam.Detection

/-- Of the storylines of one correlation, given by their fingerprints: between the first two with a
fingerprint that no stored storyline has, there is one whose fingerprint is new, so that its
incident is created and flushed. -/
def Separated (known incidents fingerprints : List String) : Prop :=
  ∀ pre f mid post, fingerprints = pre ++ f :: (mid ++ f :: post) →
    f ∉ known → f ∉ pre → f ∉ mid →
    ∃ mid₁ g mid₂, mid = mid₁ ++ g :: mid₂ ∧ g ∉ known ∧ g ∉ incidents ∧ g ∉ pre ++ f :: mid₁

theorem separated_of_nodup {known incidents fingerprints : List String}
    (h : fingerprints.Nodup) : Separated known incidents fingerprints := by
  rintro pre f mid post rfl - - -
  have hf := (List.nodup_append.mp h).2.1
  simp at hf

/-! ### Fingerprints in a session -/

section

variable (tenantId : String) (s : Session schema)

/-- The fingerprints of the tenant's storylines that a lookup sees. -/
def storyFingerprints : List String :=
  ((s.stored .storylines).filter fun r : StorylineRecord => r.tenantId = tenantId).map
    StorylineRecord.fingerprint

/-- Those of the storylines that are added but not flushed. -/
def waitingFingerprints : List String :=
  ((s.pendingOf .storylines).filter fun r : StorylineRecord => r.tenantId = tenantId).map
    StorylineRecord.fingerprint

def incidentFingerprints : List String :=
  ((s.stored .incidents).filter fun r : IncidentRecord => r.tenantId = tenantId).map
    IncidentRecord.fingerprint

end

theorem waitingFingerprints_add {tenantId f : String} (s : Session schema) {r : StorylineRecord}
    (hr : r.tenantId = tenantId) (hfp : r.fingerprint = f) :
    waitingFingerprints tenantId (s.add (S := schema) (t := .storylines) r) =
      waitingFingerprints tenantId s ++ [f] := by
  unfold waitingFingerprints
  rw [Session.add_pendingOf_self (S := schema), List.filter_append, List.map_append]
  simp [hr, hfp]

theorem storyFingerprints_update (tenantId : String) (s : Session schema)
    (change : IncidentRecord → IncidentRecord) :
    storyFingerprints tenantId (s.update .incidents change) = storyFingerprints tenantId s := by
  unfold storyFingerprints
  rw [Session.update_stored_of_ne (S := schema) s (by decide)]

/-- The state of the loop over the storylines of one correlation, with those in `done` looked up:
a storyline that waits for a flush came up once, and no incident was created since. -/
structure Persisting (tenantId : String) (known incidents done : List String)
    (s : Session schema) : Prop where
  settled : s.pendingOf .incidents = []
  unique : (storyFingerprints tenantId s ++ waitingFingerprints tenantId s).Nodup
  old : known ⊆ storyFingerprints tenantId s
  stored : storyFingerprints tenantId s ⊆ known ++ done
  grouped : incidentFingerprints tenantId s ⊆ incidents ++ done
  waiting : ∀ f ∈ waitingFingerprints tenantId s, ∃ pre mid,
    done = pre ++ f :: mid ∧ f ∉ known ∧ f ∉ pre ∧ f ∉ mid ∧
      ∀ mid₁ g mid₂, mid = mid₁ ++ g :: mid₂ →
        g ∈ known ∨ g ∈ incidents ∨ g ∈ pre ++ f :: mid₁

section

variable {tenantId : String} {known incidents done : List String} {s s' : Session schema}
  {f : String}

/-- A storyline that comes up next is not one that waits for a flush. -/
theorem Persisting.fresh (h : Persisting tenantId known incidents done s) {rest : List String}
    (hsep : Separated known incidents (done ++ f :: rest)) :
    f ∉ waitingFingerprints tenantId s := by
  intro hwait
  obtain ⟨pre, mid, rfl, hknown, hpre, hmid, hquiet⟩ := h.waiting f hwait
  obtain ⟨mid₁, g, mid₂, rfl, hg, hg', hg''⟩ :=
    hsep pre f mid rest (by rw [List.append_assoc, List.cons_append]) hknown hpre hmid
  rcases hquiet mid₁ g mid₂ rfl with h | h | h
  · exact hg h
  · exact hg' h
  · exact hg'' h

/-- A storyline is looked up, and no incident is created for it. -/
theorem Persisting.advance (h : Persisting tenantId known incidents done s)
    (hwait : f ∉ waitingFingerprints tenantId s)
    (hseen : f ∈ known ∨ f ∈ incidents ∨ f ∈ done) :
    Persisting tenantId known incidents (done ++ [f]) s where
  settled := h.settled
  unique := h.unique
  old := h.old
  stored := by
    rw [← List.append_assoc]
    exact List.subset_append_of_subset_left _ h.stored
  grouped := by
    rw [← List.append_assoc]
    exact List.subset_append_of_subset_left _ h.grouped
  waiting g hg := by
    obtain ⟨pre, mid, hdone, hknown, hpre, hmid, hquiet⟩ := h.waiting g hg
    have hne : g ≠ f := by
      rintro rfl
      exact hwait hg
    refine ⟨pre, mid ++ [f], by simp [hdone], hknown, hpre, by simp [hmid, hne], ?_⟩
    intro mid₁ x mid₂ hsplit
    rcases List.eq_nil_or_concat mid₂ with rfl | ⟨mid₂, y, rfl⟩
    · obtain ⟨rfl, hx⟩ := List.append_inj' hsplit rfl
      obtain rfl : f = x := by simpa using hx
      rw [hdone] at hseen
      exact hseen
    · have hsplit' : mid ++ [f] = (mid₁ ++ x :: mid₂) ++ [y] := by simpa using hsplit
      exact hquiet mid₁ x mid₂ (List.append_inj' hsplit' rfl).1

/-- An incident is created for the storyline, and the flush writes what waited. -/
theorem Persisting.create (h : Persisting tenantId known incidents done s) {r : IncidentRecord}
    (hr : r.tenantId = tenantId) (hfp : r.fingerprint = f)
    (hflush : (s.add (S := schema) (t := .incidents) r).flush = .ok s') :
    Persisting tenantId known incidents (done ++ [f]) s' ∧
      waitingFingerprints tenantId s' = [] ∧
      storyFingerprints tenantId s' =
        storyFingerprints tenantId s ++ waitingFingerprints tenantId s := by
  obtain ⟨hnone, hrows⟩ := Session.flush_ok hflush
  have hwaiting : waitingFingerprints tenantId s' = [] := by
    unfold waitingFingerprints Session.pendingOf
    rw [hnone]
    rfl
  have hstory : storyFingerprints tenantId s' =
      storyFingerprints tenantId s ++ waitingFingerprints tenantId s := by
    unfold storyFingerprints waitingFingerprints
    rw [hrows, Session.add_all_of_ne (S := schema) s (by decide)]
    unfold Session.all
    rw [List.filter_append, List.map_append]
  have hincident : incidentFingerprints tenantId s' = incidentFingerprints tenantId s ++ [f] := by
    unfold incidentFingerprints
    rw [hrows, Session.add_all_self (S := schema)]
    unfold Session.all
    rw [h.settled, List.append_nil, List.filter_append, List.map_append]
    simp [hr, hfp]
  refine ⟨⟨?_, ?_, ?_, ?_, ?_, ?_⟩, hwaiting, hstory⟩
  · simp [Session.pendingOf, hnone]
  · rw [hwaiting, hstory, List.append_nil]
    exact h.unique
  · rw [hstory]
    exact List.subset_append_of_subset_left _ h.old
  · rw [hstory, ← List.append_assoc]
    refine List.subset_append_of_subset_left _ (List.append_subset.mpr ⟨h.stored, ?_⟩)
    intro g hg
    obtain ⟨pre, mid, hdone, -⟩ := h.waiting g hg
    simp [hdone]
  · rw [hincident, ← List.append_assoc]
    exact List.append_subset.mpr ⟨List.subset_append_of_subset_left _ h.grouped,
      List.subset_append_right _ _⟩
  · rw [hwaiting]
    simp

theorem Persisting.add_story (h : Persisting tenantId known incidents (done ++ [f]) s)
    {r : StorylineRecord} (hr : r.tenantId = tenantId) (hfp : r.fingerprint = f)
    (hstory : f ∉ storyFingerprints tenantId s) (hwait : f ∉ waitingFingerprints tenantId s)
    (hdone : f ∉ done) :
    Persisting tenantId known incidents (done ++ [f])
      (s.add (S := schema) (t := .storylines) r) := by
  have hwaiting := waitingFingerprints_add s hr hfp
  refine ⟨?_, ?_, h.old, h.stored, h.grouped, ?_⟩
  · rw [Session.add_pendingOf_of_ne (S := schema) s (by decide)]
    exact h.settled
  · rw [hwaiting, ← List.append_assoc, List.nodup_append]
    refine ⟨h.unique, by simp, ?_⟩
    intro g hg x hx
    obtain rfl : x = f := by simpa using hx
    rintro rfl
    rcases List.mem_append.mp hg with hg | hg
    · exact hstory hg
    · exact hwait hg
  · intro g hg
    rw [hwaiting] at hg
    rcases List.mem_append.mp hg with hg | hg
    · exact h.waiting g hg
    · obtain rfl : g = f := by simpa using hg
      exact ⟨done, [], rfl, fun hk => hstory (h.old hk), hdone, by simp, by simp⟩

/-- Changes of incidents that keep tenant and fingerprint change nothing here. -/
theorem Persisting.update_incidents (h : Persisting tenantId known incidents done s)
    {change : IncidentRecord → IncidentRecord}
    (hchange : ∀ r, (change r).tenantId = r.tenantId ∧ (change r).fingerprint = r.fingerprint) :
    Persisting tenantId known incidents done (s.update .incidents change) := by
  have hstory := storyFingerprints_update tenantId s change
  have hincident : incidentFingerprints tenantId (s.update .incidents change) =
      incidentFingerprints tenantId s := by
    unfold incidentFingerprints
    rw [Session.update_stored_self (S := schema), List.filter_map, List.map_map]
    have htenant : (fun r : IncidentRecord => decide (r.tenantId = tenantId)) ∘ change =
        fun r => decide (r.tenantId = tenantId) := by
      funext r
      simp [(hchange r).1]
    have hfp : IncidentRecord.fingerprint ∘ change = IncidentRecord.fingerprint := by
      funext r
      exact (hchange r).2
    rw [htenant, hfp]
  refine ⟨h.settled, ?_, ?_, ?_, ?_, h.waiting⟩
  · rw [hstory]
    exact h.unique
  · rw [hstory]
    exact h.old
  · rw [hstory]
    exact h.stored
  · rw [hincident]
    exact h.grouped

end

/-! ### The services keep storylines apart -/

/-- What may be raised: anything but a lookup that finds two storylines. -/
def NoDuplicateStory (e : Failure) : Prop :=
  e ≠ .multipleResultsFound .storylines

theorem two_le_count_of_filter {rows : List StorylineRecord} {tenantId f : String}
    (h : 2 ≤ (rows.filter fun r => r.tenantId = tenantId && r.fingerprint = f).length) :
    2 ≤ ((rows.filter fun r => r.tenantId = tenantId).map StorylineRecord.fingerprint).count f := by
  rw [List.count_eq_countP, List.countP_map, List.countP_filter, List.countP_eq_length_filter]
  refine h.trans_eq ?_
  congr 2
  funext r
  rw [Bool.and_comm, Function.comp_apply, beq_eq_decide]

section

variable (rt : Runtime) (tenantId : String) {known incidents done : List String}

/-- Every storyline that came up is there, flushed or not. -/
def Placed (done : List String) (s : Session schema) : Prop :=
  done ⊆ storyFingerprints tenantId s ++ waitingFingerprints tenantId s

/-- The state after the lookup of a storyline with fingerprint `f`; `reached` is `done`, or `done`
and `f` once there is an incident for it. -/
structure LookedUp (known incidents done reached : List String) (f : String)
    (existing : Option StorylineRecord) (s : Session schema) : Prop where
  persisting : Persisting tenantId known incidents reached s
  placed : Placed tenantId done s
  fresh : f ∉ waitingFingerprints tenantId s
  absent : existing = none → f ∉ storyFingerprints tenantId s
  present : existing ≠ none → f ∈ storyFingerprints tenantId s

/-- A storyline that the lookup found is in its place. -/
theorem LookedUp.skip {f : String} {existing : Option StorylineRecord} {s : Session schema}
    (h : LookedUp tenantId known incidents done (done ++ [f]) f existing s)
    (hex : existing ≠ none) :
    Persisting tenantId known incidents (done ++ [f]) s ∧ Placed tenantId (done ++ [f]) s := by
  refine ⟨h.persisting, List.append_subset.mpr ⟨h.placed, ?_⟩⟩
  have hf := h.present hex
  simp [hf]

/-- One that it did not find is added. -/
theorem LookedUp.add_story {f : String} {s : Session schema}
    (h : LookedUp tenantId known incidents done (done ++ [f]) f none s) {r : StorylineRecord}
    (hr : r.tenantId = tenantId) (hfp : r.fingerprint = f) :
    Persisting tenantId known incidents (done ++ [f])
        (s.add (S := schema) (t := .storylines) r) ∧
      Placed tenantId (done ++ [f]) (s.add (S := schema) (t := .storylines) r) := by
  have hstory := h.absent rfl
  have hdone : f ∉ done := by
    intro hf
    rcases List.mem_append.mp (h.placed hf) with hf | hf
    · exact hstory hf
    · exact h.fresh hf
  refine ⟨h.persisting.add_story hr hfp hstory h.fresh hdone, ?_⟩
  unfold Placed
  rw [waitingFingerprints_add s hr hfp, ← List.append_assoc]
  exact List.append_subset.mpr ⟨List.subset_append_of_subset_left _ h.placed,
    List.subset_append_right _ _⟩

/-- The incident is found by the fingerprint, or made and flushed. -/
theorem groupedIncident_spec (story : Storyline) {f : String} (now : DateTime)
    (found : Option IncidentRecord) (existing : Option StorylineRecord) :
    Triple
      (fun w => LookedUp tenantId known incidents done done f existing w.session ∧
        (found ≠ none → f ∈ incidentFingerprints tenantId w.session))
      (groupedIncident rt tenantId f story now found)
      (fun _ w => LookedUp tenantId known incidents done (done ++ [f]) f existing w.session)
      (fun e _ => NoDuplicateStory e) := by
  cases found with
  | some incident =>
      refine triple_pure ?_
      rintro w ⟨hw, hfound⟩
      have hseen := List.mem_append.mp (hw.persisting.grouped (hfound (by simp)))
      exact { hw with persisting := hw.persisting.advance hw.fresh (.inr hseen) }
  | none =>
      have hdraw : ∀ {α : Type} {m : Draw α},
          Keeps (LookedUp tenantId known incidents done done f existing)
            (fun e _ => NoDuplicateStory e) (draw m) :=
        keeps_draw fun _ _ _ hc => by cases hc
      refine Triple.pre ?_ fun w (hw : _ ∧ _) => hw.1
      refine triple_bind hdraw fun id => ?_
      refine triple_bind hdraw fun created => ?_
      refine triple_addFlush ?_ (fun _ _ _ _ hc => by cases hc)
      intro w s hw hflush
      obtain ⟨hp, hwaiting, hstory⟩ := hw.persisting.create rfl rfl hflush
      refine ⟨hp, ?_, by simp [hwaiting], ?_, ?_⟩
      · unfold Placed
        rw [hwaiting, hstory, List.append_nil]
        exact hw.placed
      · intro hex
        rw [hstory, List.mem_append]
        exact not_or.mpr ⟨hw.absent hex, hw.fresh⟩
      · intro hex
        rw [hstory]
        exact List.mem_append_left _ (hw.present hex)

/-- The lookup of a storyline by its fingerprint finds one at most. -/
theorem lookupStory_spec {f : String} {rest : List String}
    (hsep : Separated known incidents (done ++ f :: rest)) :
    Triple
      (fun w => Persisting tenantId known incidents done w.session ∧
        Placed tenantId done w.session)
      (selectOne .storylines tenantId fun r => StorylineRecord.fingerprint r = f)
      (fun existing w => LookedUp tenantId known incidents done done f existing w.session)
      (fun e _ => NoDuplicateStory e) := by
  refine triple_selectOne ?_ ?_ ?_
  · rintro w ⟨hp, hplaced⟩ hnone
    refine ⟨hp, hplaced, hp.fresh hsep, fun _ hf => ?_, fun h => absurd rfl h⟩
    obtain ⟨r, hr, hfp⟩ := List.mem_map.mp hf
    obtain ⟨hmem, ht⟩ := List.mem_filter.mp hr
    have hne := hnone r hmem (of_decide_eq_true ht)
    exact absurd hfp (by simpa using hne)
  · rintro w r ⟨hp, hplaced⟩ hmem ht hfp
    refine ⟨hp, hplaced, hp.fresh hsep, (fun h => nomatch h), fun _ => ?_⟩
    exact List.mem_map.mpr
      ⟨r, List.mem_filter.mpr ⟨hmem, decide_eq_true ht⟩, of_decide_eq_true hfp⟩
  · rintro w ⟨hp, -⟩ hmany
    have htwo := two_le_count_of_filter (f := f) hmany
    have hone := List.nodup_iff_count_le_one.mp (List.nodup_append.mp hp.unique).1 f
    exact absurd (htwo.trans hone) (by decide)

/-- Only a storyline that is there has an incident. -/
theorem incidentOf_spec {f : String} (existing : Option StorylineRecord) :
    Triple (fun w => LookedUp tenantId known incidents done done f existing w.session)
      (incidentOf existing)
      (fun linked w => LookedUp tenantId known incidents done done f existing w.session ∧
        (linked ≠ none → existing ≠ none))
      (fun e _ => NoDuplicateStory e) := by
  unfold incidentOf
  cases existing with
  | none => exact triple_pure fun w hw => ⟨hw, fun h => absurd rfl h⟩
  | some r =>
      have hsome : some r ≠ none := by simp
      split
      · split
        · exact triple_pure fun w hw => ⟨hw, fun _ => hsome⟩
        · exact triple_get fun w hw => ⟨hw, fun _ => hsome⟩
      · exact triple_pure fun w hw => ⟨hw, fun _ => hsome⟩

/-- An incident that is found has the fingerprint. -/
theorem lookupIncident_spec {f : String} (existing : Option StorylineRecord) :
    Triple (fun w => LookedUp tenantId known incidents done done f existing w.session)
      (selectOne .incidents tenantId fun r => IncidentRecord.fingerprint r = f)
      (fun found w => LookedUp tenantId known incidents done done f existing w.session ∧
        (found ≠ none → f ∈ incidentFingerprints tenantId w.session))
      (fun e _ => NoDuplicateStory e) := by
  refine triple_selectOne ?_ ?_ (fun _ _ _ hc => by cases hc)
  · intro w hw _
    exact ⟨hw, fun h => absurd rfl h⟩
  · intro w r hw hmem ht hfp
    refine ⟨hw, fun _ => ?_⟩
    exact List.mem_map.mpr
      ⟨r, List.mem_filter.mpr ⟨hmem, decide_eq_true ht⟩, of_decide_eq_true hfp⟩

theorem persistStory_spec (story : Storyline) {rest : List String}
    (hsep : Separated known incidents (done ++ Correlation.incidentFingerprint story :: rest)) :
    Triple
      (fun w => Persisting tenantId known incidents done w.session ∧
        Placed tenantId done w.session)
      (persistStory rt tenantId story)
      (fun _ w =>
        Persisting tenantId known incidents (done ++ [Correlation.incidentFingerprint story])
          w.session ∧
        Placed tenantId (done ++ [Correlation.incidentFingerprint story]) w.session)
      (fun e _ => NoDuplicateStory e) := by
  unfold persistStory
  generalize Correlation.incidentFingerprint story = f at hsep ⊢
  dsimp only
  refine triple_bind (lookupStory_spec tenantId hsep) fun existing => ?_
  refine triple_bind (incidentOf_spec tenantId existing) fun linked => ?_
  cases linked with
  | some _ =>
      refine triple_pure ?_
      rintro w ⟨hw, hex⟩
      have hex := hex (by simp)
      have hseen : f ∈ known ∨ f ∈ incidents ∨ f ∈ done := by
        rcases List.mem_append.mp (hw.persisting.stored (hw.present hex)) with h | h
        · exact .inl h
        · exact .inr (.inr h)
      have hw' : LookedUp tenantId known incidents done (done ++ [f]) f existing w.session :=
        { hw with persisting := hw.persisting.advance hw.fresh hseen }
      exact hw'.skip tenantId hex
  | none =>
      refine Triple.pre ?_ fun w (hw : _ ∧ _) => hw.1
      refine triple_bind (lookupIncident_spec tenantId existing) fun found => ?_
      refine triple_bind (keeps_draw (I := fun s =>
          LookedUp tenantId known incidents done done f existing s ∧
            (found ≠ none → f ∈ incidentFingerprints tenantId s))
          fun _ _ _ hc => by cases hc) fun now => ?_
      refine triple_bind (groupedIncident_spec rt tenantId story now found existing)
        fun incident => ?_
      cases existing with
      | some r => exact triple_pure fun w hw => hw.skip tenantId (by simp)
      | none =>
          refine triple_bind (Q := fun _ w =>
              Persisting tenantId known incidents (done ++ [f]) w.session ∧
                Placed tenantId (done ++ [f]) w.session)
            (triple_add fun w hw => hw.add_story tenantId rfl rfl) fun _ => ?_
          refine triple_update ?_
          rintro w ⟨hp, hplaced⟩
          refine ⟨hp.update_incidents ?_, ?_⟩
          · intro r
            split <;> exact ⟨rfl, rfl⟩
          · unfold Placed
            rw [storyFingerprints_update]
            exact hplaced

end

/-! ### One correlation -/

/-- The tenant's storylines differ in their fingerprints, and nothing of them waits. -/
structure Single (tenantId : String) (s : Session schema) : Prop where
  storylines : s.pendingOf .storylines = []
  incidents : s.pendingOf .incidents = []
  unique : (storyFingerprints tenantId s).Nodup

/-- The tables that storylines and incidents are not in. -/
def besideStories : List Table :=
  [.events, .deadLetters, .findings, .alerts, .evidence, .indicators, .entities, .relationships]

theorem ne_of_mem_besideStories {t : Table} (h : t ∈ besideStories) :
    t ≠ .storylines ∧ t ≠ .incidents := by
  revert h
  cases t <;> decide

theorem Single.flush {tenantId : String} {s s' : Session schema} (h : Single tenantId s)
    (hflush : s.flush = .ok s') : Single tenantId s' := by
  obtain ⟨hnone, hrows⟩ := Session.flush_ok hflush
  refine ⟨by simp [Session.pendingOf, hnone], by simp [Session.pendingOf, hnone], ?_⟩
  unfold storyFingerprints
  rw [hrows]
  unfold Session.all
  rw [h.storylines, List.append_nil]
  exact h.unique

theorem single_stable (tenantId : String) :
    Stable (Single tenantId) (fun e _ => NoDuplicateStory e) besideStories where
  add r s ht hs := by
    have hne := ne_of_mem_besideStories ht
    refine ⟨?_, ?_, hs.unique⟩
    · rw [Session.add_pendingOf_of_ne (S := schema) s hne.1]
      exact hs.storylines
    · rw [Session.add_pendingOf_of_ne (S := schema) s hne.2]
      exact hs.incidents
  update f s ht _ hs := by
    refine ⟨hs.storylines, hs.incidents, ?_⟩
    unfold storyFingerprints
    rw [Session.update_stored_of_ne (S := schema) s (ne_of_mem_besideStories ht).1]
    exact hs.unique
  delete p s ht _ hs := by
    refine ⟨hs.storylines, hs.incidents, ?_⟩
    unfold storyFingerprints
    rw [Session.delete_stored_of_ne (S := schema) s (ne_of_mem_besideStories ht).1]
    exact hs.unique
  flush := keeps_flush (fun _ _ hs hflush => hs.flush hflush) (fun _ _ _ _ hc => by cases hc)
  python _ _ _ hc := by cases hc
  multiple t ht _ _ hc := by
    cases hc
    exact ht rfl
  missing _ _ _ _ _ hc := by cases hc

section

variable (rt : Runtime) (tenantId : String)

/-- The storylines that a correlation in this state gives are separated from those stored. -/
def SeparatedAt (w : World) : Prop :=
  ∀ stories ticks,
    Correlation.correlate rt (w.window tenantId) (w.latestFindings tenantId) w.ticks =
      (.ok stories, ticks) →
    Separated (storyFingerprints tenantId w.session) (incidentFingerprints tenantId w.session)
      (stories.map Correlation.incidentFingerprint)

theorem Single.persisting {tenantId : String} {s : Session schema} (h : Single tenantId s) :
    Persisting tenantId (storyFingerprints tenantId s) (incidentFingerprints tenantId s) [] s := by
  have hwaiting : waitingFingerprints tenantId s = [] := by
    unfold waitingFingerprints
    rw [h.storylines]
    rfl
  refine ⟨h.incidents, ?_, List.Subset.refl _, ?_, ?_, ?_⟩
  · rw [hwaiting, List.append_nil]
    exact h.unique
  · rw [List.append_nil]
    exact List.Subset.refl _
  · rw [List.append_nil]
    exact List.Subset.refl _
  · rw [hwaiting]
    simp

/-- What is done with the storylines of a correlation. -/
def persistAll (stories : List Storyline) : Service Unit :=
  Exec.loop (fun _ story => persistStory rt tenantId story) () stories >>= fun _ => flush

/-- The storylines of a correlation are written one by one and then flushed. -/
theorem persistAll_spec {known incidents : List String} (stories : List Storyline)
    (hsep : Separated known incidents (stories.map Correlation.incidentFingerprint)) :
    Triple (fun w => Persisting tenantId known incidents [] w.session)
      (persistAll rt tenantId stories) (fun _ w => Single tenantId w.session) (fun e _ => NoDuplicateStory e) := by
  let I : Unit → List Storyline → World → Prop := fun _ rest w => ∃ done,
    done ++ rest.map Correlation.incidentFingerprint =
        stories.map Correlation.incidentFingerprint ∧
      Persisting tenantId known incidents done w.session ∧ Placed tenantId done w.session
  refine triple_bind (((triple_loop I ?_ () stories).pre ?_)) fun _ => ?_
  · intro _ story rest
    refine triple_from fun w hw => ?_
    obtain ⟨done, hdone, hw⟩ := hw
    rw [List.map_cons] at hdone
    refine ((persistStory_spec rt tenantId story (hdone ▸ hsep)).pre ?_).post ?_
    · rintro _ rfl
      exact hw
    · intro _ w' hw'
      refine ⟨done ++ [Correlation.incidentFingerprint story], ?_, hw'⟩
      rw [List.append_assoc]
      exact hdone
  · intro w hw
    exact ⟨[], rfl, hw, List.nil_subset _⟩
  · refine triple_flush ?_ (fun _ _ _ _ hc => by cases hc)
    rintro w s ⟨done, -, hp, -⟩ hflush
    obtain ⟨hnone, hrows⟩ := Session.flush_ok hflush
    refine ⟨by simp [Session.pendingOf, hnone], by simp [Session.pendingOf, hnone], ?_⟩
    have hunique := hp.unique
    unfold storyFingerprints waitingFingerprints at hunique
    unfold storyFingerprints
    rw [hrows]
    unfold Session.all
    rw [List.filter_append, List.map_append]
    exact hunique

/-- Once the storylines are there, the rest is their loop. -/
theorem persist_run {w : World} {stories : List Storyline} {ticks : Ticks}
    (h : Correlation.correlate rt (w.window tenantId) (w.latestFindings tenantId) w.ticks =
      (.ok stories, ticks)) :
    persistStorylinesAndIncidents rt tenantId w =
      persistAll rt tenantId stories { w with ticks := ticks } := by
  obtain ⟨rows, hrun, hrows⟩ := listFindings_run tenantId w
  unfold persistStorylinesAndIncidents
  simp only [bind_run, loadWindow_run, andThen, hrun, draw, zoom, hrows, h, Except.mapError]
  rfl

/-- A correlation is its storylines, persisted, or what it raises. -/
theorem triple_persist {P : World → Prop} {Q : Unit → World → Prop} {E : Failure → World → Prop}
    (hok : ∀ w stories ticks, P w →
      Correlation.correlate rt (w.window tenantId) (w.latestFindings tenantId) w.ticks =
        (.ok stories, ticks) →
      Triple (fun w' => w' = { w with ticks := ticks }) (persistAll rt tenantId stories) Q E)
    (herr : ∀ w e ticks, P w → E (.python e) { w with ticks := ticks }) :
    Triple P (persistStorylinesAndIncidents rt tenantId) Q E := by
  constructor
  intro w hw
  rcases hrun : Correlation.correlate rt (w.window tenantId) (w.latestFindings tenantId) w.ticks with
    ⟨⟨e⟩ | ⟨stories⟩, ticks⟩
  · obtain ⟨rows, hlist, hrows⟩ := listFindings_run tenantId w
    have hraise : persistStorylinesAndIncidents rt tenantId w =
        (.error (.python e), { w with ticks := ticks }) := by
      unfold persistStorylinesAndIncidents
      simp only [bind_run, loadWindow_run, andThen, hlist, draw, zoom, hrows, hrun, Except.mapError]
    rw [hraise]
    exact herr w e ticks hw
  · rw [persist_run rt tenantId hrun]
    exact (hok w stories ticks hw hrun).run _ rfl

theorem persistStorylinesAndIncidents_spec :
    Triple (fun w => Single tenantId w.session ∧ SeparatedAt rt tenantId w)
      (persistStorylinesAndIncidents rt tenantId) (fun _ w => Single tenantId w.session)
      (fun e _ => NoDuplicateStory e) := by
  apply triple_persist
  · rintro w stories ticks ⟨hsingle, hsep⟩ hrun
    refine (persistAll_spec rt tenantId stories (hsep stories ticks hrun)).pre ?_
    rintro _ rfl
    exact hsingle.persisting
  · intro _ _ _ _ hc
    cases hc

end

/-! ### Runs -/

/-- A call up to the point where it correlates: whether it does, in which state. -/
def Call.untilPersist (rt : Runtime) (tenantId : String) : Call → Service Bool
  | .ingest actorId payloads => do
      let result ← Exec.loop (ingestPayload rt tenantId actorId) {} payloads
      if result.accepted.isEmpty then pure false
      else do
        let window ← loadWindow tenantId
        projectGraph rt tenantId window
        pure true
  | .scheduled actorId => do
      let _ ← runScheduled rt tenantId actorId
      pure false
  | .persist => pure true

def persistIf (rt : Runtime) (tenantId : String) (next : Bool) : Service Unit :=
  if next then persistStorylinesAndIncidents rt tenantId else pure ()

theorem call_body_eq (rt : Runtime) (tenantId : String) (call : Call) :
    call.body rt tenantId = call.untilPersist rt tenantId >>= persistIf rt tenantId := by
  cases call with
  | ingest actorId payloads =>
      simp only [Call.body, Call.untilPersist, ingestPayloads, bind_assoc]
      congr 1
      funext result
      unfold projectBatch
      split
      · rfl
      · simp only [bind_assoc, pure_bind, persistIf, if_true, bind_pure_unit]
  | scheduled actorId =>
      simp only [Call.body, Call.untilPersist, bind_assoc]
      rfl
  | persist => rfl

/-- Up to there, evidence is only added. -/
theorem untilPersist_adds {I : Session schema → Prop} {F : Failure → Prop} {tables : List Table}
    (hstable : Stable I (fun e _ => F e) tables)
    (htables : [Table.events, .deadLetters, .findings, .alerts, .indicators, .entities,
      .relationships] ⊆ tables)
    (hev : ∀ (r : Evidence) (s : Session schema), I s → I (s.add (S := schema) (t := .evidence) r))
    (rt : Runtime) (tenantId : String) (call : Call) :
    Keeps I (fun e _ => F e) (call.untilPersist rt tenantId) := by
  have hstore : ∀ actorId context event, Keeps I (fun e _ => F e)
      (evaluateAndStoreFindings rt tenantId actorId context event) := fun actorId context event =>
    evaluateAndStoreFindings_adds rt tenantId hstable hev (htables (by decide)) actorId context event
      fun _ _ _ s hs => hstable.add _ s (htables (by decide)) hs
  cases call with
  | ingest actorId payloads =>
      refine keeps_bind (ingestLoop_keeps rt tenantId actorId hstable (htables (by decide))
        (htables (by decide)) payloads
        (fun _ _ row _ s hs => hstable.add (t := .events) row s (htables (by decide)) hs)
        (hstore actorId)) fun result => ?_
      split
      · exact keeps_pure _
      · refine keeps_bind (loadWindow_keeps tenantId) fun window => ?_
        refine keeps_bind ?_ fun _ => keeps_pure _
        exact projectGraph_keeps rt tenantId hstable (htables (by decide)) (htables (by decide))
          window
  | scheduled actorId =>
      exact keeps_bind (runScheduled_keeps rt tenantId actorId (hstore actorId)) fun _ =>
        keeps_pure _
  | persist => exact keeps_pure _

theorem untilPersist_keeps {I : Session schema → Prop} {F : Failure → Prop}
    (hstable : Stable I (fun e _ => F e) besideStories) (rt : Runtime) (tenantId : String)
    (call : Call) : Keeps I (fun e _ => F e) (call.untilPersist rt tenantId) :=
  untilPersist_adds hstable (by decide)
    (fun r s hs => hstable.add (t := .evidence) r s (by decide) hs) rt tenantId call

/-- One request: if the storylines it would write are separated, it leaves them unique and its
lookups find at most one. -/
theorem request_single (rt : Runtime) (tenantId : String) (call : Call) {w : World}
    (hw : Single tenantId w.session)
    (hsep : ∀ w', call.untilPersist rt tenantId w = (.ok true, w') → SeparatedAt rt tenantId w') :
    Single tenantId (request (call.body rt tenantId) w).2.session ∧
      ∀ e, (request (call.body rt tenantId) w).1 = .error e → NoDuplicateStory e := by
  refine request_run ?_ (single_stable tenantId).flush hw
  rw [call_body_eq]
  refine triple_bind ((untilPersist_keeps (single_stable tenantId) rt tenantId call).traced hw) fun next => ?_
  unfold persistIf
  split
  · rename_i hnext
    subst hnext
    refine (persistStorylinesAndIncidents_spec rt tenantId).pre ?_
    rintro w' ⟨hw', hrun⟩
    exact ⟨hw', hsep w' hrun⟩
  · exact triple_pure fun _ hw' => hw'.1

/-- Every call of the run that correlates does so in a state in which the storylines are
separated. -/
def SeparatedRun (rt : Runtime) (tenantId : String) (w : World) (calls : List Call) : Prop :=
  ∀ done call rest, calls = done ++ call :: rest →
    ∀ w', call.untilPersist rt tenantId (runCalls rt tenantId w done) = (.ok true, w') →
      SeparatedAt rt tenantId w'

theorem runCalls_append (rt : Runtime) (tenantId : String) (w : World) (calls more : List Call) :
    runCalls rt tenantId w (calls ++ more) =
      runCalls rt tenantId (runCalls rt tenantId w calls) more :=
  List.foldl_append

theorem runCalls_single (rt : Runtime) (tenantId : String) {w : World}
    (hw : Single tenantId w.session) {calls : List Call}
    (hsep : SeparatedRun rt tenantId w calls) {done rest : List Call}
    (hcalls : calls = done ++ rest) : Single tenantId (runCalls rt tenantId w done).session := by
  induction done using List.reverseRecOn generalizing rest with
  | nil => exact hw
  | append_singleton done call ih =>
      have hsplit : calls = done ++ call :: rest := by simpa using hcalls
      rw [runCalls_append]
      exact (request_single rt tenantId call (ih hsplit) (hsep done call rest hsplit)).1

/-- In every run whose correlations all start with separated storylines, every committed state has
at most one storyline of the tenant under a fingerprint, and no call finds two. -/
theorem storylines_unique_of_separated (rt : Runtime) (tenantId : String) (w : World)
    (hcommitted : w.session.pending = [])
    (hunique : (w.rowsOf .storylines tenantId).Pairwise fun r r' => r.fingerprint ≠ r'.fingerprint)
    (calls : List Call) (hsep : SeparatedRun rt tenantId w calls) :
    (∀ done, done <+: calls →
      ((runCalls rt tenantId w done).rowsOf .storylines tenantId).Pairwise
        fun r r' => r.fingerprint ≠ r'.fingerprint) ∧
    ∀ done call rest, calls = done ++ call :: rest →
      (request (call.body rt tenantId) (runCalls rt tenantId w done)).1 ≠
        .error (.multipleResultsFound .storylines) := by
  have hw : Single tenantId w.session := by
    refine ⟨?_, ?_, List.pairwise_map.mpr hunique⟩
    · simp [Session.pendingOf, hcommitted]
    · simp [Session.pendingOf, hcommitted]
  refine ⟨?_, ?_⟩
  · rintro done ⟨rest, hcalls⟩
    exact List.pairwise_map.mp (runCalls_single rt tenantId hw hsep hcalls.symm).unique
  · intro done call rest hcalls hraise
    have hsingle := runCalls_single rt tenantId hw hsep hcalls
    exact (request_single rt tenantId call hsingle (hsep done call rest hcalls)).2 _ hraise rfl

/-- One batch of two events leaves two storylines under one fingerprint, and from then on the
tenant's correlations fail. -/
theorem storylines_duplicated_by_one_batch :
    (¬ ((runCalls sampleRuntime "ten_a" emptyWorld
        [.ingest "usr_1" [officePayload, beaconPayload]]).rowsOf .storylines "ten_a").Pairwise
          fun r r' => r.fingerprint ≠ r'.fingerprint) ∧
      (request (Call.persist.body sampleRuntime "ten_a") (runCalls sampleRuntime "ten_a" emptyWorld
        [.ingest "usr_1" [officePayload, beaconPayload]])).1 =
          .error (.multipleResultsFound .storylines) := by
  decide +kernel

def sampleFinding (id ruleId : String) : Finding :=
  { id := id
    tenantId := "ten_a"
    ruleId := ruleId
    ruleVersion := "1.0.0"
    title := ruleId
    description := ""
    severity := .high
    confidence := 80
    fingerprint := ruleId
    eventIds := [id]
    explanation := ""
    createdAt := sampleRuntime.now 0
    attributes := [("host", "h")] }

/-- A state with an office finding and a beacon, which one storyline joins. -/
def correlatedWorld : World :=
  { session :=
      { stored := fun t => match t with
          | .findings =>
              [findingRecord "ten_a" (sampleFinding "fnd_1" "endpoint.encoded_powershell") [],
               findingRecord "ten_a" (sampleFinding "fnd_2" "network.repetitive_beacon") []]
          | _ => []
        pending := [] } }

theorem correlatedWorld_separated : SeparatedRun sampleRuntime "ten_a" correlatedWorld [.persist] := by
  have hnodup : (((Correlation.correlate sampleRuntime (correlatedWorld.window "ten_a")
      (correlatedWorld.latestFindings "ten_a") correlatedWorld.ticks).1.toOption.getD []).map
        Correlation.incidentFingerprint).Nodup := by
    decide +kernel
  intro done call rest hcalls w' hrun stories ticks hstories
  obtain ⟨rfl, rfl, rfl⟩ : done = [] ∧ call = .persist ∧ rest = [] := by
    cases done with
    | nil => simpa [eq_comm] using hcalls
    | cons c done => simp at hcalls
  obtain rfl : correlatedWorld = w' := congrArg Prod.snd hrun
  rw [hstories] at hnodup
  exact separated_of_nodup hnodup

theorem storylines_unique_correlatedWorld :
    (∀ done, done <+: [Call.persist] →
      ((runCalls sampleRuntime "ten_a" correlatedWorld done).rowsOf .storylines "ten_a").Pairwise
        fun r r' => r.fingerprint ≠ r'.fingerprint) ∧
    ∀ done call rest, [Call.persist] = done ++ call :: rest →
      (request (call.body sampleRuntime "ten_a")
        (runCalls sampleRuntime "ten_a" correlatedWorld done)).1 ≠
          .error (.multipleResultsFound .storylines) :=
  storylines_unique_of_separated sampleRuntime "ten_a" correlatedWorld rfl (by decide) [.persist]
    correlatedWorld_separated

end BlueTeam.Services
