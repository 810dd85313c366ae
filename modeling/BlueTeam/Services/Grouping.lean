/- GID: BlueTeam/Services/Grouping
   generality: I
   source: services/api/app/services/incidents.py, packages/correlation/blueteam_correlation/rules.py
   digest: Which events of recurring storylines an incident keeps, over a tenant's whole history. -/

import BlueTeam.Lib.Firsts
import BlueTeam.Services.Custody
import BlueTeam.Services.Storylines

set_option autoImplicit false
set_option relaxedAutoImplicit false

namespace BlueTeam.Services

open BlueTeam.Python BlueTeam.Schema BlueTeam.Lib BlueTeam.Lib.Exec

/-! ### A tenant's history -/

/-- What happens to a tenant: its services run, and its analysts work on incidents. -/
inductive TenantCall
  | service (call : Call)
  | analyst (actorId incidentId : String) (op : IncidentOp)

/-- The committed state after a call. -/
def TenantCall.after (rt : Runtime) (tenantId : String) (w : World) : TenantCall → World
  | .service call => (request (call.body rt tenantId) w).2
  | .analyst actorId incidentId op =>
      (request (IncidentRequest.serve rt ⟨tenantId, actorId, incidentId, op⟩) w).2

theorem TenantCall.after_pending (rt : Runtime) (tenantId : String) {w : World}
    (hw : w.session.pending = []) (call : TenantCall) :
    (call.after rt tenantId w).session.pending = [] := by
  cases call with
  | service call => exact request_pending hw
  | analyst actorId incidentId op => exact request_pending hw

/-- An analyst's call changes nothing, or it saves an edit of one of the tenant's incidents. -/
theorem analyst_after (rt : Runtime) (tenantId actorId incidentId : String) (op : IncidentOp)
    {w : World} (hw : w.session.pending = []) :
    (TenantCall.after rt tenantId w (.analyst actorId incidentId op)).session = w.session ∨
      ∃ incident edit, incident ∈ w.session.stored .incidents ∧ incident.tenantId = tenantId ∧
        Edits w.session incident op edit ∧
        (TenantCall.after rt tenantId w (.analyst actorId incidentId op)).session =
          edit.apply w.session := by
  rcases serve_cases rt ⟨tenantId, actorId, incidentId, op⟩ hw with
    ⟨e, t, hrun⟩ | ⟨incident, edit, t, hmem, htenant, -, hedit, hrun⟩
  · left
    show (request (IncidentRequest.serve rt ⟨tenantId, actorId, incidentId, op⟩) w).2.session = _
    unfold request
    rw [bind_run, hrun]
    rfl
  · right
    refine ⟨incident, edit, hmem, htenant, hedit, ?_⟩
    show (request (IncidentRequest.serve rt ⟨tenantId, actorId, incidentId, op⟩) w).2.session = _
    rw [request_run_of_pending_nil hrun]
    show (edit.apply w.session).pending = []
    rw [edit.apply_pending]
    exact hw

/-! ### Storylines point to incidents of their fingerprint -/

/-- The incident a storyline names is there, under the storyline's fingerprint. -/
structure Grouped (tenantId : String) (s : Session schema) : Prop where
  incidents : s.pendingOf .incidents = []
  linked : ∀ r ∈ s.all .storylines, StorylineRecord.tenantId r = tenantId →
    ∀ id, r.incidentId = some id → id ≠ "" →
      ∃ i ∈ s.stored .incidents, IncidentRecord.id i = id ∧ i.tenantId = tenantId ∧
        i.fingerprint = r.fingerprint

section

variable {tenantId : String} {s s' : Session schema}

theorem Grouped.flush (h : Grouped tenantId s) (hflush : s.flush = .ok s') :
    Grouped tenantId s' := by
  obtain ⟨hnone, hrows⟩ := Session.flush_ok hflush
  have hincidents : s'.stored .incidents = s.stored .incidents := by
    rw [hrows]
    unfold Session.all
    rw [h.incidents, List.append_nil]
  constructor
  · simp [Session.pendingOf, hnone]
  · intro r hr
    rw [Session.flush_all hflush] at hr
    rw [hincidents]
    exact h.linked r hr

/-- Writes to the other tables change nothing here. -/
theorem grouped_stable (tenantId : String) :
    Stable (Grouped tenantId) (fun _ _ => True) besideStories where
  add r s ht hs := by
    obtain ⟨hstory, hincident⟩ := ne_of_mem_besideStories ht
    constructor
    · rw [Session.add_pendingOf_of_ne (S := schema) s hincident]
      exact hs.incidents
    · rw [Session.add_all_of_ne (S := schema) s hstory]
      exact hs.linked
  update f s ht _ hs := by
    obtain ⟨hstory, hincident⟩ := ne_of_mem_besideStories ht
    constructor
    · exact hs.incidents
    · unfold Session.all
      rw [Session.update_stored_of_ne (S := schema) s hstory,
        Session.update_stored_of_ne (S := schema) s hincident]
      exact hs.linked
  delete p s ht _ hs := by
    obtain ⟨hstory, hincident⟩ := ne_of_mem_besideStories ht
    constructor
    · exact hs.incidents
    · unfold Session.all
      rw [Session.delete_stored_of_ne (S := schema) s hstory,
        Session.delete_stored_of_ne (S := schema) s hincident]
      exact hs.linked
  flush := keeps_flush (fun _ _ hs hflush => hs.flush hflush) (fun _ _ _ _ => trivial)
  python _ _ _ := trivial
  multiple _ _ _ _ := trivial
  missing _ _ _ _ _ := trivial

/-- Changes of incidents that keep who they are. -/
theorem Grouped.update_incidents (h : Grouped tenantId s) (change : IncidentRecord → IncidentRecord)
    (hchange : ∀ r, (change r).id = r.id ∧ (change r).tenantId = r.tenantId ∧
      (change r).fingerprint = r.fingerprint) :
    Grouped tenantId (s.update .incidents change) := by
  constructor
  · exact h.incidents
  · intro r hr htenant id hid hne
    have hall : (s.update .incidents change).all .storylines = s.all .storylines := by
      unfold Session.all
      rw [Session.update_stored_of_ne (S := schema) s (by decide)]
      rfl
    rw [hall] at hr
    obtain ⟨i, hi, rfl, hit, hfp⟩ := h.linked r hr htenant id hid hne
    obtain ⟨hsame, hsame', hsame''⟩ := hchange i
    refine ⟨change i, ?_, hsame, hsame'.trans hit, hsame''.trans hfp⟩
    rw [Session.update_stored_self (S := schema)]
    exact List.mem_map_of_mem hi

theorem edit_grouped (h : Grouped tenantId s) (edit : Edit) : Grouped tenantId (edit.apply s) := by
  have hincidents := h.update_incidents (fun r =>
    if r.id = edit.loaded.id then flushIncident edit.loaded edit.changed r else r) (by
      intro r
      split <;> exact ⟨rfl, rfl, rfl⟩)
  unfold Edit.apply
  cases edit.evidence with
  | none => exact hincidents
  | some pair => exact (grouped_stable tenantId).update _ _ (by decide) (by decide) hincidents

/-- A new incident, written at once. -/
theorem Grouped.create (h : Grouped tenantId s) {r : IncidentRecord}
    (hflush : (s.add (S := schema) (t := .incidents) r).flush = .ok s') :
    Grouped tenantId s' ∧ s'.stored .incidents = s.stored .incidents ++ [r] := by
  obtain ⟨hnone, hrows⟩ := Session.flush_ok hflush
  have hincidents : s'.stored .incidents = s.stored .incidents ++ [r] := by
    rw [hrows, Session.add_all_self (S := schema)]
    unfold Session.all
    rw [h.incidents, List.append_nil]
  refine ⟨⟨?_, ?_⟩, hincidents⟩
  · simp [Session.pendingOf, hnone]
  · intro story hstory htenant id hid hne
    rw [Session.flush_all hflush, Session.add_all_of_ne (S := schema) s (by decide)] at hstory
    obtain ⟨i, hi, hrest⟩ := h.linked story hstory htenant id hid hne
    refine ⟨i, ?_, hrest⟩
    rw [hincidents]
    exact List.mem_append_left _ hi

/-- A new storyline, linked to an incident of its fingerprint. -/
theorem Grouped.add_story (h : Grouped tenantId s) {r : StorylineRecord}
    (hlinked : ∀ id, r.incidentId = some id → ∃ i ∈ s.stored .incidents,
      IncidentRecord.id i = id ∧ i.tenantId = tenantId ∧ i.fingerprint = r.fingerprint) :
    Grouped tenantId (s.add (S := schema) (t := .storylines) r) := by
  constructor
  · rw [Session.add_pendingOf_of_ne (S := schema) s (by decide)]
    exact h.incidents
  · intro story hstory htenant id hid hne
    rw [Session.add_all_self (S := schema)] at hstory
    rcases List.mem_append.mp hstory with hold | hnew
    · exact h.linked story hold htenant id hid hne
    · obtain rfl := List.mem_singleton.mp hnew
      exact hlinked id hid

end

/-! ### What a correlation does to the incidents -/

/-- The tenant's incidents by fingerprint, with their events. -/
def incidentGroups (tenantId : String) (s : Session schema) : List (String × List String) :=
  ((s.stored .incidents).filter fun r : IncidentRecord => r.tenantId = tenantId).map
    fun r => (r.fingerprint, r.eventIds)

/-- The group that a storyline opens. -/
def groupOf (story : Storyline) : String × List String :=
  (Correlation.incidentFingerprint story, story.eventIds)

/-- The state of the loop over the storylines: an incident was created for the first storyline of
each fingerprint that had none, with the events of that storyline. -/
structure Grouping (tenantId : String) (known : List (String × List String))
    (done : List Storyline) (s : Session schema) : Prop where
  grouped : Grouped tenantId s
  groups : incidentGroups tenantId s =
    known ++ (firsts Correlation.incidentFingerprint (known.map Prod.fst) done).map groupOf

section

variable {tenantId : String} {known : List (String × List String)} {done : List Storyline}
  {s s' : Session schema} {story : Storyline}

theorem mem_fingerprints {r : IncidentRecord} (hr : r ∈ s.stored .incidents)
    (htenant : r.tenantId = tenantId) :
    r.fingerprint ∈ (incidentGroups tenantId s).map Prod.fst := by
  unfold incidentGroups
  rw [List.map_map]
  exact List.mem_map.mpr ⟨r, List.mem_filter.mpr ⟨hr, decide_eq_true htenant⟩, rfl⟩

/-- The fingerprints that have an incident: those known and those that came up. -/
theorem Grouping.mem_fingerprints (h : Grouping tenantId known done s) (f : String) :
    f ∈ (incidentGroups tenantId s).map Prod.fst ↔
      f ∈ known.map Prod.fst ++ done.map Correlation.incidentFingerprint := by
  rw [h.groups, List.map_append, List.map_map]
  exact mem_keys_firsts Correlation.incidentFingerprint (known.map Prod.fst) done f

/-- A storyline whose fingerprint has an incident changes no group. -/
theorem Grouping.reuse (h : Grouping tenantId known done s)
    (hseen : Correlation.incidentFingerprint story ∈ (incidentGroups tenantId s).map Prod.fst) :
    Grouping tenantId known (done ++ [story]) s := by
  refine ⟨h.grouped, ?_⟩
  rw [firsts_concat, if_pos ((h.mem_fingerprints _).mp hseen), List.append_nil]
  exact h.groups

/-- One whose fingerprint has none opens its group. -/
theorem Grouping.create (h : Grouping tenantId known done s) {r : IncidentRecord}
    (htenant : r.tenantId = tenantId) (hgroup : (r.fingerprint, r.eventIds) = groupOf story)
    (hnew : Correlation.incidentFingerprint story ∉ (incidentGroups tenantId s).map Prod.fst)
    (hflush : (s.add (S := schema) (t := .incidents) r).flush = .ok s') :
    Grouping tenantId known (done ++ [story]) s' := by
  obtain ⟨hgrouped, hincidents⟩ := h.grouped.create hflush
  refine ⟨hgrouped, ?_⟩
  have hgroups : incidentGroups tenantId s' = incidentGroups tenantId s ++ [groupOf story] := by
    unfold incidentGroups
    rw [hincidents, List.filter_append, List.map_append]
    simp [htenant, hgroup]
  rw [hgroups, h.groups, firsts_concat,
    if_neg (fun hseen => hnew ((h.mem_fingerprints _).mpr hseen)), List.map_append,
    List.append_assoc]
  rfl

theorem Grouping.update_incidents (h : Grouping tenantId known done s)
    {change : IncidentRecord → IncidentRecord}
    (hchange : ∀ r, (change r).id = r.id ∧ (change r).tenantId = r.tenantId ∧
      (change r).fingerprint = r.fingerprint ∧ (change r).eventIds = r.eventIds) :
    Grouping tenantId known done (s.update .incidents change) := by
  refine ⟨h.grouped.update_incidents change fun r => ?_, ?_⟩
  · obtain ⟨hid, htenant, hfp, -⟩ := hchange r
    exact ⟨hid, htenant, hfp⟩
  · rw [← h.groups]
    unfold incidentGroups
    rw [Session.update_stored_self (S := schema), List.filter_map, List.map_map]
    have hfilter : (fun r : IncidentRecord => decide (r.tenantId = tenantId)) ∘ change =
        fun r => decide (r.tenantId = tenantId) := by
      funext r
      simp [(hchange r).2.1]
    have hmap : (fun r : IncidentRecord => (r.fingerprint, r.eventIds)) ∘ change =
        fun r => (r.fingerprint, r.eventIds) := by
      funext r
      simp [(hchange r).2.2.1, (hchange r).2.2.2]
    rw [hfilter, hmap]

end

section

variable (rt : Runtime) (tenantId : String) {known : List (String × List String)}
  {done : List Storyline}

/-- A storyline row that was looked up is the tenant's, under the fingerprint. -/
def StoryFound (tenantId : String) (story : Storyline) (existing : Option StorylineRecord)
    (s : Session schema) : Prop :=
  ∀ r, existing = some r → r ∈ s.stored .storylines ∧ r.tenantId = tenantId ∧
    r.fingerprint = Correlation.incidentFingerprint story

/-- An incident that was looked up is the tenant's, under the fingerprint, and if none was found
there is none. -/
structure IncidentFound (tenantId : String) (story : Storyline) (found : Option IncidentRecord)
    (s : Session schema) : Prop where
  mem : ∀ i, found = some i → i ∈ s.stored .incidents ∧ i.tenantId = tenantId ∧
    i.fingerprint = Correlation.incidentFingerprint story
  missing : found = none → Correlation.incidentFingerprint story ∉
    (incidentGroups tenantId s).map Prod.fst

theorem lookupStory_grouping (story : Storyline) :
    Triple (fun w => Grouping tenantId known done w.session)
      (selectOne .storylines tenantId fun r =>
        StorylineRecord.fingerprint r = Correlation.incidentFingerprint story)
      (fun existing w => Grouping tenantId known done w.session ∧
        StoryFound tenantId story existing w.session)
      (fun _ _ => True) := by
  refine triple_selectOne ?_ ?_ (fun _ _ _ => trivial)
  · intro w hw _
    refine ⟨hw, ?_⟩
    intro r hr
    cases hr
  · intro w r hw hmem htenant hfp
    refine ⟨hw, ?_⟩
    rintro _ ⟨⟩
    exact ⟨hmem, htenant, of_decide_eq_true hfp⟩

/-- The incident that a storyline has already is one of its fingerprint. -/
theorem incidentOf_grouping (story : Storyline) (existing : Option StorylineRecord) :
    Triple
      (fun w => Grouping tenantId known done w.session ∧
        StoryFound tenantId story existing w.session)
      (incidentOf existing)
      (fun found w => Grouping tenantId known done w.session ∧ (found ≠ none →
        Correlation.incidentFingerprint story ∈
          (incidentGroups tenantId w.session).map Prod.fst))
      (fun _ _ => True) := by
  unfold incidentOf
  cases existing with
  | none => exact triple_pure fun w hw => ⟨hw.1, fun h => absurd rfl h⟩
  | some r =>
      cases hid : r.incidentId with
      | none =>
          simp only [Option.bind_some, hid]
          exact triple_pure fun w hw => ⟨hw.1, fun h => absurd rfl h⟩
      | some id =>
          simp only [Option.bind_some, hid]
          split
          · exact triple_pure fun w hw => ⟨hw.1, fun h => absurd rfl h⟩
          · rename_i hne
            apply triple_get
            rintro w ⟨hw, hr⟩
            obtain ⟨hmem, htenant, hfp⟩ := hr r rfl
            refine ⟨hw, fun _ => ?_⟩
            obtain ⟨i, hi, -, hit, hif⟩ := hw.grouped.linked r
              (List.mem_append_left _ hmem) htenant id hid hne
            rw [← hfp, ← hif]
            exact mem_fingerprints hi hit

theorem lookupIncident_grouping (story : Storyline) :
    Triple (fun w => Grouping tenantId known done w.session)
      (selectOne .incidents tenantId fun r =>
        IncidentRecord.fingerprint r = Correlation.incidentFingerprint story)
      (fun found w => Grouping tenantId known done w.session ∧
        IncidentFound tenantId story found w.session)
      (fun _ _ => True) := by
  refine triple_selectOne ?_ ?_ (fun _ _ _ => trivial)
  · intro w hw hnone
    refine ⟨hw, ?_, fun _ hmem => ?_⟩
    · intro i hi
      cases hi
    · unfold incidentGroups at hmem
      rw [List.map_map] at hmem
      obtain ⟨i, hi, hfp⟩ := List.mem_map.mp hmem
      obtain ⟨hi, htenant⟩ := List.mem_filter.mp hi
      have hne := hnone i hi (of_decide_eq_true htenant)
      exact absurd hfp (by simpa using hne)
  · intro w i hw hmem htenant hfp
    refine ⟨hw, ?_, fun h => absurd h (by simp)⟩
    rintro _ ⟨⟩
    exact ⟨hmem, htenant, of_decide_eq_true hfp⟩

theorem groupedIncident_grouping (story : Storyline) (now : DateTime)
    (found : Option IncidentRecord) :
    Triple
      (fun w => Grouping tenantId known done w.session ∧
        IncidentFound tenantId story found w.session)
      (groupedIncident rt tenantId (Correlation.incidentFingerprint story) story now found)
      (fun i w => Grouping tenantId known (done ++ [story]) w.session ∧
        i ∈ w.session.stored .incidents ∧ i.tenantId = tenantId ∧
        i.fingerprint = Correlation.incidentFingerprint story)
      (fun _ _ => True) := by
  cases found with
  | some incident =>
      apply triple_pure
      rintro w ⟨hw, hfound⟩
      obtain ⟨hmem, htenant, hfp⟩ := hfound.mem incident rfl
      refine ⟨hw.reuse ?_, hmem, htenant, hfp⟩
      rw [← hfp]
      exact mem_fingerprints hmem htenant
  | none =>
      have hdraw : ∀ {α : Type} {m : Draw α},
          Keeps (fun s => Grouping tenantId known done s ∧ IncidentFound tenantId story none s)
            (fun _ _ => True) (draw m) :=
        keeps_draw fun _ _ _ => trivial
      refine triple_bind hdraw fun id => ?_
      refine triple_bind hdraw fun created => ?_
      refine triple_addFlush ?_ (fun _ _ _ _ => trivial)
      rintro w s ⟨hw, hfound⟩ hflush
      refine ⟨hw.create rfl rfl (hfound.missing rfl) hflush, ?_, rfl, rfl⟩
      rw [(hw.grouped.create hflush).2]
      exact List.mem_append_right _ List.mem_cons_self

/-- One turn of the loop. -/
theorem persistStory_grouping (story : Storyline) :
    Triple (fun w => Grouping tenantId known done w.session) (persistStory rt tenantId story)
      (fun _ w => Grouping tenantId known (done ++ [story]) w.session) (fun _ _ => True) := by
  unfold persistStory
  dsimp only
  refine triple_bind (lookupStory_grouping tenantId story) fun existing => ?_
  refine triple_bind (incidentOf_grouping tenantId story existing) fun linked => ?_
  cases linked with
  | some incident =>
      apply triple_pure
      rintro w ⟨hw, hseen⟩
      exact hw.reuse (hseen (by simp))
  | none =>
      refine Triple.pre ?_ fun w (hw : _ ∧ _) => hw.1
      refine triple_bind (lookupIncident_grouping tenantId story) fun found => ?_
      refine triple_bind (keeps_draw (I := fun s => Grouping tenantId known done s ∧
        IncidentFound tenantId story found s) fun _ _ _ => trivial) fun now => ?_
      refine triple_bind (groupedIncident_grouping rt tenantId story now found) fun incident => ?_
      cases existing with
      | some r => exact triple_pure fun w hw => hw.1
      | none =>
          refine triple_bind (Q := fun _ w => Grouping tenantId known (done ++ [story]) w.session)
            ?_ fun _ => ?_
          · apply triple_add
            rintro w ⟨hw, hmem, htenant, hfp⟩
            refine ⟨hw.grouped.add_story ?_, hw.groups⟩
            rintro id ⟨⟩
            exact ⟨incident, hmem, rfl, htenant, hfp⟩
          · apply triple_update
            intro w hw
            apply hw.update_incidents
            intro r
            split <;> exact ⟨rfl, rfl, rfl, rfl⟩

/-- The whole loop, and its flush. -/
theorem persistAll_grouping {s₀ : Session schema} (hs₀ : Grouped tenantId s₀)
    (stories : List Storyline) :
    Triple (fun w => w.session = s₀) (persistAll rt tenantId stories)
      (fun _ w => Grouping tenantId (incidentGroups tenantId s₀) stories w.session)
      (fun _ _ => True) := by
  let I : Unit → List Storyline → World → Prop := fun _ rest w => ∃ done,
    done ++ rest = stories ∧ Grouping tenantId (incidentGroups tenantId s₀) done w.session
  refine triple_bind ((triple_loop I ?_ () stories).pre ?_) fun _ => ?_
  · intro _ story rest
    apply triple_from
    rintro w ⟨done, hdone, hw⟩
    apply ((persistStory_grouping rt tenantId story).pre ?_).post
    · intro _ w' hw'
      refine ⟨done ++ [story], ?_, hw'⟩
      rw [List.append_assoc]
      exact hdone
    · rintro _ rfl
      exact hw
  · rintro w rfl
    refine ⟨[], rfl, hs₀, ?_⟩
    exact (List.append_nil _).symm
  · refine triple_flush ?_ (fun _ _ _ _ => trivial)
    rintro w s ⟨done, hdone, hw⟩ hflush
    rw [List.append_nil] at hdone
    subst hdone
    refine ⟨hw.grouped.flush hflush, ?_⟩
    rw [← hw.groups]
    unfold incidentGroups
    rw [(Session.flush_ok hflush).2]
    unfold Session.all
    rw [hw.grouped.incidents, List.append_nil]

theorem persist_grouped :
    Keeps (Grouped tenantId) (fun _ _ => True) (persistStorylinesAndIncidents rt tenantId) := by
  apply triple_persist
  · intro w stories ticks hw _
    apply ((persistAll_grouping rt tenantId hw stories).pre ?_).post
    · intro _ _ hw'
      exact hw'.grouped
    · rintro _ rfl
      rfl
  · intro _ _ _ _
    trivial

end

/-! ### Runs -/

section

variable (rt : Runtime) (tenantId : String)

theorem after_grouped {w : World} (hw : w.session.pending = [])
    (hgrouped : Grouped tenantId w.session) (call : TenantCall) :
    Grouped tenantId (call.after rt tenantId w).session := by
  cases call with
  | service call =>
      have hkeeps : Keeps (Grouped tenantId) (fun _ _ => True) (call.body rt tenantId) := by
        rw [call_body_eq]
        refine keeps_bind (untilPersist_keeps (grouped_stable tenantId) rt tenantId call) ?_
        intro next
        unfold persistIf
        split
        · exact persist_grouped rt tenantId
        · exact keeps_pure _
      exact (request_keeps hkeeps (grouped_stable tenantId).flush hgrouped).1
  | analyst actorId incidentId op =>
      rcases analyst_after rt tenantId actorId incidentId op hw with
        hsame | ⟨incident, edit, -, -, -, hsession⟩
      · rw [hsame]
        exact hgrouped
      · rw [hsession]
        exact edit_grouped hgrouped edit

theorem run_grouped {w : World} (hw : w.session.pending = [])
    (hgrouped : Grouped tenantId w.session) (calls : List TenantCall) :
    (Machine.run (TenantCall.after rt tenantId) w calls).session.pending = [] ∧
      Grouped tenantId (Machine.run (TenantCall.after rt tenantId) w calls).session := by
  apply Machine.run_inv fun w : World => w.session.pending = [] ∧ Grouped tenantId w.session
  · rintro w call ⟨hw, hgrouped⟩
    exact ⟨call.after_pending rt tenantId hw, after_grouped rt tenantId hw hgrouped call⟩
  · exact ⟨hw, hgrouped⟩

end

/-- Every storyline has an incident of the tenant under its fingerprint that includes its
events. -/
def EventsKept (tenantId : String) (w : World) (stories : List Storyline) : Prop :=
  ∀ story ∈ stories, ∃ r ∈ w.rowsOf .incidents tenantId,
    IncidentRecord.fingerprint r = Correlation.incidentFingerprint story ∧
      story.eventIds ⊆ r.eventIds

/-- Every storyline has such an incident already, or its fingerprint has none yet and the first of
the storylines under it includes its events. -/
def EventsCovered (tenantId : String) (w : World) (stories : List Storyline) : Prop :=
  ∀ story ∈ stories,
    (∃ r ∈ w.rowsOf .incidents tenantId,
      IncidentRecord.fingerprint r = Correlation.incidentFingerprint story ∧
        story.eventIds ⊆ r.eventIds) ∨
    (∀ r ∈ w.rowsOf .incidents tenantId,
      IncidentRecord.fingerprint r ≠ Correlation.incidentFingerprint story) ∧
      ∃ first, stories.find? (fun item => Correlation.incidentFingerprint item =
          Correlation.incidentFingerprint story) = some first ∧ story.eventIds ⊆ first.eventIds

theorem exists_incident_iff (tenantId : String) (w : World) (f : String) (eventIds : List String) :
    (∃ r ∈ w.rowsOf .incidents tenantId, IncidentRecord.fingerprint r = f ∧
        eventIds ⊆ r.eventIds) ↔
      ∃ group ∈ incidentGroups tenantId w.session, group.1 = f ∧ eventIds ⊆ group.2 := by
  unfold incidentGroups
  constructor
  · rintro ⟨r, hr, hrest⟩
    exact ⟨_, List.mem_map_of_mem hr, hrest⟩
  · rintro ⟨group, hgroup, hrest⟩
    obtain ⟨r, hr, rfl⟩ := List.mem_map.mp hgroup
    exact ⟨r, hr, hrest⟩

theorem Grouping.kept_iff {tenantId : String} {w w' : World} {stories : List Storyline}
    (h : Grouping tenantId (incidentGroups tenantId w.session) stories w'.session) :
    EventsKept tenantId w' stories ↔ EventsCovered tenantId w stories := by
  apply forall₂_congr
  intro story _
  rw [exists_incident_iff, exists_incident_iff, h.groups]
  have hnone : (∀ r ∈ w.rowsOf .incidents tenantId,
        IncidentRecord.fingerprint r ≠ Correlation.incidentFingerprint story) ↔
      Correlation.incidentFingerprint story ∉
        (incidentGroups tenantId w.session).map Prod.fst := by
    unfold incidentGroups World.rowsOf
    rw [List.map_map, List.mem_map]
    constructor
    · rintro hall ⟨r, hr, hfp⟩
      exact hall r hr hfp
    · intro hno r hr hfp
      exact hno ⟨r, hr, hfp⟩
  rw [hnone]
  constructor
  · rintro ⟨group, hgroup, hfp, hsub⟩
    rcases List.mem_append.mp hgroup with hold | hnew
    · exact .inl ⟨group, hold, hfp, hsub⟩
    · obtain ⟨first, hfirst, rfl⟩ := List.mem_map.mp hnew
      obtain ⟨hunseen, hfind⟩ := mem_firsts_iff.mp hfirst
      have hfp : Correlation.incidentFingerprint first =
          Correlation.incidentFingerprint story := hfp
      rw [hfp] at hunseen hfind
      exact .inr ⟨hunseen, first, hfind, hsub⟩
  · rintro (⟨group, hold, hrest⟩ | ⟨hunseen, first, hfind, hsub⟩)
    · exact ⟨group, List.mem_append_left _ hold, hrest⟩
    · have hfp : Correlation.incidentFingerprint first =
          Correlation.incidentFingerprint story := by
        simpa using List.find?_some hfind
      refine ⟨groupOf first, List.mem_append_right _ ?_, hfp, hsub⟩
      apply List.mem_map_of_mem
      rw [mem_firsts_iff, hfp]
      exact ⟨hunseen, hfind⟩

/-- In every history, wherever a call persists the storylines it correlates, and that returns, the
incidents have all their events exactly if those were covered before. -/
theorem storyline_events_kept_iff (rt : Runtime) (tenantId : String) (w : World)
    (hw : w.session.pending = []) (hgrouped : Grouped tenantId w.session)
    (calls : List TenantCall) (call : Call) (w₁ w₂ : World)
    (huntil : call.untilPersist rt tenantId (Machine.run (TenantCall.after rt tenantId) w calls) =
      (.ok true, w₁))
    (stories : List Storyline) (ticks : Ticks)
    (hcorrelate : Correlation.correlate rt (w₁.window tenantId) (w₁.latestFindings tenantId)
      w₁.ticks = (.ok stories, ticks))
    (hreturn : persistStorylinesAndIncidents rt tenantId w₁ = (.ok (), w₂)) :
    EventsKept tenantId w₂ stories ↔ EventsCovered tenantId w₁ stories := by
  have hstart := (run_grouped rt tenantId hw hgrouped calls).2
  have hw₁ : Grouped tenantId w₁.session :=
    (untilPersist_keeps (grouped_stable tenantId) rt tenantId call).ok hstart huntil
  rw [persist_run rt tenantId hcorrelate] at hreturn
  apply Grouping.kept_iff
  apply (persistAll_grouping rt tenantId hw₁ stories).ok _ hreturn
  rfl

/-! ### A storyline that recurs -/

/-- The storylines that a correlation gives, none if it raises. -/
def correlated (rt : Runtime) (tenantId : String) (w : World) : List Storyline :=
  (Correlation.correlate rt (w.window tenantId) (w.latestFindings tenantId) w.ticks).1.toOption.getD []

instance (tenantId : String) (w : World) (stories : List Storyline) :
    Decidable (EventsKept tenantId w stories) :=
  inferInstanceAs (Decidable (∀ story ∈ stories, ∃ r ∈ w.rowsOf .incidents tenantId,
    IncidentRecord.fingerprint r = Correlation.incidentFingerprint story ∧
      ∀ id ∈ story.eventIds, id ∈ IncidentRecord.eventIds r))

def encodedPayload : JsonObject :=
  canonicalPayload "evt_1" "process"
    [("process", .obj [("name", .str "powershell.exe"), ("command_line", .str "-enc AA")])]

/-- The same program on the same host, this time started by PowerPoint. -/
def spawnedPayload : JsonObject :=
  canonicalPayload "evt_3" "process"
    [("process", .obj [("name", .str "powershell.exe"), ("command_line", .str "AA")]),
     ("parent_process", .obj [("name", .str "powerpnt.exe")])]

/-- The storyline of two events comes again with a third one. -/
def recurredWorld : World :=
  Machine.run (TenantCall.after sampleRuntime "ten_a") emptyWorld
    [.service (.ingest "usr_1" [encodedPayload, beaconPayload]),
     .service (.ingest "usr_1" [spawnedPayload])]

theorem recurring_storyline_event_dropped :
    (Correlation.correlate sampleRuntime (recurredWorld.window "ten_a")
        (recurredWorld.latestFindings "ten_a") recurredWorld.ticks).1 =
          .ok (correlated sampleRuntime "ten_a" recurredWorld) ∧
      (persistStorylinesAndIncidents sampleRuntime "ten_a" recurredWorld).1 = .ok () ∧
      ¬ EventsKept "ten_a" (persistStorylinesAndIncidents sampleRuntime "ten_a" recurredWorld).2
        (correlated sampleRuntime "ten_a" recurredWorld) := by
  decide +kernel

theorem grouped_of_no_storylines {w : World} (tenantId : String) (hw : w.session.pending = [])
    (hnone : w.session.stored .storylines = []) : Grouped tenantId w.session := by
  constructor
  · simp [Session.pendingOf, hw]
  · intro r hr
    unfold Session.all Session.pendingOf at hr
    rw [hnone, hw] at hr
    cases hr

/-- The storyline of the correlated state, persisted once. -/
def sightedWorld : World :=
  Machine.run (TenantCall.after sampleRuntime "ten_a") correlatedWorld [.service .persist]

theorem sightedWorld_returns :
    (Correlation.correlate sampleRuntime (sightedWorld.window "ten_a")
        (sightedWorld.latestFindings "ten_a") sightedWorld.ticks).1 =
          .ok (correlated sampleRuntime "ten_a" sightedWorld) ∧
      (persistStorylinesAndIncidents sampleRuntime "ten_a" sightedWorld).1 = .ok () := by
  decide +kernel

theorem storyline_events_kept_sightedWorld :
    EventsKept "ten_a" (persistStorylinesAndIncidents sampleRuntime "ten_a" sightedWorld).2
        (correlated sampleRuntime "ten_a" sightedWorld) ↔
      EventsCovered "ten_a" sightedWorld (correlated sampleRuntime "ten_a" sightedWorld) :=
  storyline_events_kept_iff sampleRuntime "ten_a" correlatedWorld rfl
    (grouped_of_no_storylines "ten_a" rfl rfl) [.service .persist] .persist sightedWorld _ rfl _ _
    (Prod.ext sightedWorld_returns.1 rfl) (Prod.ext sightedWorld_returns.2 rfl)

end BlueTeam.Services
