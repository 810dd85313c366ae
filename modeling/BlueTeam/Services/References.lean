/- GID: BlueTeam/Services/References
   generality: I
   source: services/api/app/services/incidents.py, detection.py, detections/python/shared.py,
     packages/correlation/blueteam_correlation/engine.py
   digest: Whether the evidence that incidents and storylines name is there. -/

import BlueTeam.Services.Grouping

set_option autoImplicit false
set_option relaxedAutoImplicit false

namespace BlueTeam.Services

open BlueTeam.Python BlueTeam.Schema BlueTeam.Lib BlueTeam.Lib.Exec

/-- The id is that of a row of the tenant's evidence, flushed or not. -/
def IsEvidence (tenantId : String) (s : Session schema) (id : String) : Prop :=
  ∃ e ∈ s.all .evidence, Evidence.id e = id ∧ e.tenantId = tenantId

/-- All evidence that the tenant's incidents and storylines name is there. -/
structure References (tenantId : String) (s : Session schema) : Prop where
  incidents : ∀ r ∈ s.all .incidents, IncidentRecord.tenantId r = tenantId →
    ∀ id ∈ r.evidenceIds, IsEvidence tenantId s id
  storylines : ∀ r ∈ s.all .storylines, StorylineRecord.tenantId r = tenantId →
    ∀ id ∈ r.payload.evidenceIds, IsEvidence tenantId s id

/-- The tables that neither hold evidence nor name it. -/
def besideReferences : List Table :=
  [.events, .deadLetters, .findings, .alerts, .indicators, .entities, .relationships]

theorem ne_of_mem_besideReferences {t : Table} (h : t ∈ besideReferences) :
    t ≠ .evidence ∧ t ≠ .incidents ∧ t ≠ .storylines := by
  revert h
  cases t <;> decide

section

variable {tenantId : String} {s s' : Session schema}

/-- What matters are the rows of three tables; of evidence there may be more. -/
theorem References.mono (h : References tenantId s)
    (hevidence : ∀ id, IsEvidence tenantId s id → IsEvidence tenantId s' id)
    (hincidents : s'.all .incidents = s.all .incidents)
    (hstorylines : s'.all .storylines = s.all .storylines) : References tenantId s' where
  incidents r hr htenant id hid := by
    rw [hincidents] at hr
    exact hevidence id (h.incidents r hr htenant id hid)
  storylines r hr htenant id hid := by
    rw [hstorylines] at hr
    exact hevidence id (h.storylines r hr htenant id hid)

theorem isEvidence_of_all_eq (h : s'.all .evidence = s.all .evidence) (id : String) :
    IsEvidence tenantId s id → IsEvidence tenantId s' id := by
  unfold IsEvidence
  rw [h]
  exact fun hid => hid

theorem references_stable (tenantId : String) :
    Stable (References tenantId) (fun _ _ => True) besideReferences where
  add r s ht hs := by
    obtain ⟨hevidence, hincident, hstory⟩ := ne_of_mem_besideReferences ht
    apply hs.mono
    · exact isEvidence_of_all_eq (Session.add_all_of_ne (S := schema) s hevidence r)
    · exact Session.add_all_of_ne (S := schema) s hincident r
    · exact Session.add_all_of_ne (S := schema) s hstory r
  update f s ht _ hs := by
    obtain ⟨hevidence, hincident, hstory⟩ := ne_of_mem_besideReferences ht
    apply hs.mono
    · exact isEvidence_of_all_eq (Session.update_all_of_ne (S := schema) s hevidence f)
    · exact Session.update_all_of_ne (S := schema) s hincident f
    · exact Session.update_all_of_ne (S := schema) s hstory f
  delete p s ht _ hs := by
    obtain ⟨hevidence, hincident, hstory⟩ := ne_of_mem_besideReferences ht
    apply hs.mono
    · exact isEvidence_of_all_eq (Session.delete_all_of_ne (S := schema) s hevidence p)
    · exact Session.delete_all_of_ne (S := schema) s hincident p
    · exact Session.delete_all_of_ne (S := schema) s hstory p
  flush := by
    apply keeps_flush
    · intro s s' hs hflush
      apply hs.mono
      · exact isEvidence_of_all_eq (Session.flush_all hflush .evidence)
      · exact Session.flush_all hflush .incidents
      · exact Session.flush_all hflush .storylines
    · intro _ _ _ _
      trivial
  python _ _ _ := trivial
  multiple _ _ _ _ := trivial
  missing _ _ _ _ _ := trivial

/-- Incidents may change too, as long as each names what one of the tenant named before, or what
is there. -/
theorem References.change_incidents (h : References tenantId s)
    (hevidence : ∀ id, IsEvidence tenantId s id → IsEvidence tenantId s' id)
    (hincidents : ∀ r ∈ s'.all .incidents, IncidentRecord.tenantId r = tenantId →
      ∀ id ∈ r.evidenceIds, IsEvidence tenantId s id ∨ ∃ old ∈ s.all .incidents,
        IncidentRecord.tenantId old = tenantId ∧ id ∈ old.evidenceIds)
    (hstorylines : s'.all .storylines = s.all .storylines) : References tenantId s' where
  incidents r hr htenant id hid := by
    apply hevidence
    rcases hincidents r hr htenant id hid with hthere | ⟨old, hold, htenant', hid'⟩
    · exact hthere
    · exact h.incidents old hold htenant' id hid'
  storylines r hr htenant id hid := by
    rw [hstorylines] at hr
    exact hevidence id (h.storylines r hr htenant id hid)

theorem References.add_evidence (h : References tenantId s) (e : Evidence) :
    References tenantId (s.add (S := schema) (t := .evidence) e) := by
  apply h.mono
  · rintro id ⟨old, hold, hrest⟩
    refine ⟨old, ?_, hrest⟩
    rw [Session.add_all_self (S := schema)]
    exact List.mem_append_left _ hold
  · exact Session.add_all_of_ne (S := schema) (t := .evidence) s (by decide) e
  · exact Session.add_all_of_ne (S := schema) (t := .evidence) s (by decide) e

/-- An incident that names no evidence. -/
theorem References.add_incident (h : References tenantId s) {r : IncidentRecord}
    (hr : r.evidenceIds = []) :
    References tenantId (s.add (S := schema) (t := .incidents) r) := by
  apply h.change_incidents
  · exact isEvidence_of_all_eq
      (Session.add_all_of_ne (S := schema) (t := .incidents) s (by decide) r)
  · intro i hi htenant id hid
    rw [Session.add_all_self (S := schema)] at hi
    rcases List.mem_append.mp hi with hold | hnew
    · exact .inr ⟨i, hold, htenant, hid⟩
    · obtain rfl := List.mem_singleton.mp hnew
      rw [hr] at hid
      cases hid
  · exact Session.add_all_of_ne (S := schema) (t := .incidents) s (by decide) r

/-- A storyline that names no evidence. -/
theorem References.add_storyline (h : References tenantId s) {r : StorylineRecord}
    (hr : r.payload.evidenceIds = []) :
    References tenantId (s.add (S := schema) (t := .storylines) r) := by
  have hevidence : ∀ id, IsEvidence tenantId s id →
      IsEvidence tenantId (s.add (S := schema) (t := .storylines) r) id :=
    isEvidence_of_all_eq (Session.add_all_of_ne (S := schema) (t := .storylines) s (by decide) r)
  constructor
  · intro i hi htenant id hid
    rw [Session.add_all_of_ne (S := schema) s (by decide)] at hi
    exact hevidence id (h.incidents i hi htenant id hid)
  · intro i hi htenant id hid
    rw [Session.add_all_self (S := schema)] at hi
    rcases List.mem_append.mp hi with hold | hnew
    · exact hevidence id (h.storylines i hold htenant id hid)
    · obtain rfl := List.mem_singleton.mp hnew
      rw [hr] at hid
      cases hid

/-- Stored incidents change, and name what they named or what is there. -/
theorem References.update_incidents (h : References tenantId s)
    (change : IncidentRecord → IncidentRecord)
    (hchange : ∀ r ∈ s.stored .incidents, (change r).tenantId = tenantId →
      ∀ id ∈ (change r).evidenceIds, IsEvidence tenantId s id ∨ ∃ old ∈ s.all .incidents,
        IncidentRecord.tenantId old = tenantId ∧ id ∈ old.evidenceIds) :
    References tenantId (s.update .incidents change) := by
  apply h.change_incidents
  · exact isEvidence_of_all_eq
      (Session.update_all_of_ne (S := schema) (t := .incidents) s (by decide) change)
  · intro r hr htenant id hid
    unfold Session.all at hr
    rw [Session.update_stored_self (S := schema), Session.update_pendingOf] at hr
    rcases List.mem_append.mp hr with hstored | hwaits
    · obtain ⟨old, hold, rfl⟩ := List.mem_map.mp hstored
      exact hchange old hold htenant id hid
    · exact .inr ⟨r, List.mem_append_right _ hwaits, htenant, hid⟩
  · exact Session.update_all_of_ne (S := schema) (t := .incidents) s (by decide) change

/-- Changes of evidence that keep who it is. -/
theorem References.update_evidence (h : References tenantId s) {change : Evidence → Evidence}
    (hchange : ∀ e, (change e).id = e.id ∧ (change e).tenantId = e.tenantId) :
    References tenantId (s.update .evidence change) := by
  apply h.mono
  · rintro id ⟨e, he, hid, htenant⟩
    rcases List.mem_append.mp he with hstored | hwaits
    · refine ⟨change e, ?_, (hchange e).1.trans hid, (hchange e).2.trans htenant⟩
      unfold Session.all
      rw [Session.update_stored_self (S := schema)]
      exact List.mem_append_left _ (List.mem_map_of_mem hstored)
    · exact ⟨e, List.mem_append_right _ hwaits, hid, htenant⟩
  · exact Session.update_all_of_ne (S := schema) (t := .evidence) s (by decide) change
  · exact Session.update_all_of_ne (S := schema) (t := .evidence) s (by decide) change

/-- An analyst links only evidence that is there. -/
theorem References.edit (h : References tenantId s) {incident : IncidentRecord} {op : IncidentOp}
    {edit : Edit} (hincident : incident ∈ s.stored .incidents)
    (htenant : incident.tenantId = tenantId) (hedit : Edits s incident op edit) :
    References tenantId (edit.apply s) := by
  have hincidents := h.update_incidents (fun r =>
    if r.id = edit.loaded.id then flushIncident edit.loaded edit.changed r else r) (by
      intro r hr hrt id hid
      have hold : r.tenantId = tenantId → id ∈ r.evidenceIds → ∃ old ∈ s.all .incidents,
          IncidentRecord.tenantId old = tenantId ∧ id ∈ old.evidenceIds := by
        intro hsame hmem
        exact ⟨r, List.mem_append_left _ hr, hsame, hmem⟩
      split at hid
      · rename_i hkey
        rw [if_pos hkey] at hrt
        change id ∈ column edit.loaded.evidenceIds edit.changed.evidenceIds r.evidenceIds at hid
        unfold column at hid
        split at hid
        · exact .inr (hold hrt hid)
        · rcases hedit.sources id hid with hnamed | ⟨e, he, hide, het⟩
          · exact .inr ⟨incident, List.mem_append_left _ hincident, htenant, hnamed⟩
          · exact .inl ⟨e, List.mem_append_left _ he, hide, het.trans htenant⟩
      · rename_i hkey
        rw [if_neg hkey] at hrt
        exact .inr (hold hrt hid))
  unfold Edit.apply
  cases edit.evidence with
  | none => exact hincidents
  | some pair =>
      apply hincidents.update_evidence
      intro e
      split <;> exact ⟨rfl, rfl⟩

end

/-! ### Correlations -/

section

variable (rt : Runtime) (tenantId : String)

/-- Storylines that carry no evidence ids leave no reference behind. -/
theorem persistAll_references {stories : List Storyline}
    (hnone : ∀ story ∈ stories, story.evidenceIds = []) :
    Keeps (References tenantId) (fun _ _ => True) (persistAll rt tenantId stories) := by
  refine keeps_bind (keeps_loop (fun _ story hstory => ?_) _) fun _ =>
    (references_stable tenantId).flush
  apply persistStory_adds rt tenantId (references_stable tenantId)
  · intro r s hr hs
    exact hs.add_incident (hr.trans (hnone story hstory))
  · intro r s hr hs
    apply hs.add_storyline
    rw [hr]
    exact hnone story hstory
  · intro change s hchange hs
    apply hs.update_incidents
    intro r hr htenant id hid
    obtain ⟨ids, now, hsame⟩ := hchange r
    rw [hsame] at htenant hid
    exact .inr ⟨r, List.mem_append_left _ hr, htenant, hid⟩
  · intro _ _
    trivial

end

/-! ### Runs -/

/-- The storylines that the call correlates, if it gets so far, carry no evidence ids. -/
def CarriesNoEvidence (rt : Runtime) (tenantId : String) (w : World) : TenantCall → Prop
  | .service call => ∀ w₁ stories ticks, call.untilPersist rt tenantId w = (.ok true, w₁) →
      Correlation.correlate rt (w₁.window tenantId) (w₁.latestFindings tenantId) w₁.ticks =
        (.ok stories, ticks) → ∀ story ∈ stories, story.evidenceIds = []
  | .analyst _ _ _ => True

theorem after_references (rt : Runtime) (tenantId : String) {w : World}
    (hw : w.session.pending = []) (hreferences : References tenantId w.session)
    {call : TenantCall} (hnone : CarriesNoEvidence rt tenantId w call) :
    References tenantId (call.after rt tenantId w).session := by
  cases call with
  | service call =>
      have hbody : Triple (fun w' => w' = w) (call.body rt tenantId)
          (fun _ w' => References tenantId w'.session) (fun _ _ => True) := by
        rw [call_body_eq]
        have huntil := untilPersist_adds (references_stable tenantId) (by decide)
          (fun e s hs => hs.add_evidence e) rt tenantId call
        refine triple_bind (huntil.traced hreferences) fun next => ?_
        unfold persistIf
        split
        · rename_i hnext
          subst hnext
          apply triple_persist
          · rintro w₁ stories ticks ⟨hw₁, hrun⟩ hcorrelate
            apply (persistAll_references rt tenantId
              (hnone w₁ stories ticks hrun hcorrelate)).pre
            rintro _ rfl
            exact hw₁
          · intro _ _ _ _
            trivial
        · exact triple_pure fun _ hw' => hw'.1
      exact (request_run hbody (references_stable tenantId).flush hreferences).1
  | analyst actorId incidentId op =>
      rcases analyst_after rt tenantId actorId incidentId op hw with
        hsame | ⟨incident, edit, hmem, htenant, hedit, hsession⟩
      · rw [hsame]
        exact hreferences
      · rw [hsession]
        exact hreferences.edit hmem htenant hedit

/-- All evidence that the tenant's committed incidents and storylines name is there. -/
def EvidenceReal (tenantId : String) (w : World) : Prop :=
  (∀ r ∈ w.rowsOf .incidents tenantId, ∀ id ∈ IncidentRecord.evidenceIds r,
    ∃ e ∈ w.rowsOf .evidence tenantId, Evidence.id e = id) ∧
  ∀ r ∈ w.rowsOf .storylines tenantId, ∀ id ∈ (StorylineRecord.payload r).evidenceIds,
    ∃ e ∈ w.rowsOf .evidence tenantId, Evidence.id e = id

theorem references_iff {tenantId : String} {w : World} (hw : w.session.pending = []) :
    References tenantId w.session ↔ EvidenceReal tenantId w := by
  have hall : ∀ t : Table, w.session.all t = w.session.stored t := by
    intro t
    unfold Session.all Session.pendingOf
    rw [hw]
    exact List.append_nil _
  have hreal : ∀ id, IsEvidence tenantId w.session id ↔
      ∃ e ∈ w.rowsOf .evidence tenantId, Evidence.id e = id := by
    intro id
    unfold IsEvidence
    rw [hall]
    constructor
    · rintro ⟨e, he, hid, htenant⟩
      exact ⟨e, World.mem_rowsOf.mpr ⟨he, htenant⟩, hid⟩
    · rintro ⟨e, he, hid⟩
      obtain ⟨he, htenant⟩ := World.mem_rowsOf.mp he
      exact ⟨e, he, hid, htenant⟩
  constructor
  · intro h
    constructor
    · intro r hr id hid
      obtain ⟨hr, htenant⟩ := World.mem_rowsOf.mp hr
      rw [← hall] at hr
      exact (hreal id).mp (h.incidents r hr htenant id hid)
    · intro r hr id hid
      obtain ⟨hr, htenant⟩ := World.mem_rowsOf.mp hr
      rw [← hall] at hr
      exact (hreal id).mp (h.storylines r hr htenant id hid)
  · rintro ⟨hincidents, hstorylines⟩
    constructor
    · intro r hr htenant id hid
      rw [hall] at hr
      exact (hreal id).mpr (hincidents r (World.mem_rowsOf.mpr ⟨hr, htenant⟩) id hid)
    · intro r hr htenant id hid
      rw [hall] at hr
      exact (hreal id).mpr (hstorylines r (World.mem_rowsOf.mpr ⟨hr, htenant⟩) id hid)

/-- In every history whose correlations yield no storyline with evidence ids, what incidents and
storylines name is there, in every state reached. -/
theorem evidence_references_real (rt : Runtime) (tenantId : String) (w : World)
    (hw : w.session.pending = []) (hreal : EvidenceReal tenantId w) (calls : List TenantCall)
    (hnone : Machine.Along (TenantCall.after rt tenantId) (CarriesNoEvidence rt tenantId) w calls) :
    ∀ done rest, calls = done ++ rest →
      EvidenceReal tenantId (Machine.run (TenantCall.after rt tenantId) w done) := by
  rintro done rest rfl
  have hrun : (Machine.run (TenantCall.after rt tenantId) w done).session.pending = [] ∧
      References tenantId (Machine.run (TenantCall.after rt tenantId) w done).session := by
    apply Machine.Along.run_inv (fun w : World =>
      w.session.pending = [] ∧ References tenantId w.session) _ _ hnone.prefix
    · rintro w call ⟨hw, hreferences⟩ hgood
      exact ⟨call.after_pending rt tenantId hw, after_references rt tenantId hw hreferences hgood⟩
    · exact ⟨hw, (references_iff hw).mpr hreal⟩
  exact (references_iff hrun.1).mp hrun.2

theorem evidenceReal_of_none {w : World} (tenantId : String)
    (hincidents : w.session.stored .incidents = [])
    (hstorylines : w.session.stored .storylines = []) : EvidenceReal tenantId w := by
  unfold EvidenceReal World.rowsOf
  rw [hincidents, hstorylines]
  constructor
  · intro r hr
    cases hr
  · intro r hr
    cases hr

/-- The first incident of a new tenant names evidence under the placeholders of its findings. -/
theorem incident_names_placeholders :
    EvidenceReal "ten_a" emptyWorld ∧
      ∃ r ∈ (Machine.run (TenantCall.after sampleRuntime "ten_a") emptyWorld
        [.service (.ingest "usr_1" [encodedPayload, beaconPayload])]).rowsOf .incidents "ten_a",
      ∃ id ∈ IncidentRecord.evidenceIds r,
        ∀ e ∈ (Machine.run (TenantCall.after sampleRuntime "ten_a") emptyWorld
          [.service (.ingest "usr_1" [encodedPayload, beaconPayload])]).rowsOf .evidence "ten_a",
          Evidence.id e ≠ id := by
  constructor
  · exact evidenceReal_of_none "ten_a" rfl rfl
  · decide +kernel

theorem correlatedWorld_carries_none :
    ∀ story ∈ correlated sampleRuntime "ten_a" correlatedWorld, story.evidenceIds = [] := by
  decide +kernel

theorem evidence_references_correlatedWorld :
    EvidenceReal "ten_a" (Machine.run (TenantCall.after sampleRuntime "ten_a") correlatedWorld
      [.service .persist]) :=
  evidence_references_real sampleRuntime "ten_a" correlatedWorld rfl
    (evidenceReal_of_none "ten_a" rfl rfl) [.service .persist] (by
      refine ⟨?_, trivial⟩
      intro w₁ stories ticks hrun hcorrelate story hstory
      obtain rfl : correlatedWorld = w₁ := congrArg Prod.snd hrun
      apply correlatedWorld_carries_none story
      unfold correlated
      rw [hcorrelate]
      exact hstory)
    [.service .persist] [] rfl

end BlueTeam.Services
