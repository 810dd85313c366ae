/- GID: BlueTeam/Services/Custody
   generality: I
   source: services/api/app/services/incidents.py
   digest: Sealed evidence stays with the incident it was linked to; all histories only grow. -/

import BlueTeam.Lib.Machine
import BlueTeam.Services.Incidents
import Mathlib.Data.List.Forall2

set_option autoImplicit false
set_option relaxedAutoImplicit false

namespace BlueTeam.Services

open BlueTeam.Python BlueTeam.Schema BlueTeam.Lib

/-- A row of an incident before and after some operations. -/
structure IncidentGrown (r r' : IncidentRecord) : Prop where
  id : r'.id = r.id
  tenant : r'.tenantId = r.tenantId
  timeline : r.timeline <+: r'.timeline
  notes : r.notes <+: r'.notes
  tasks : r.tasks <+: r'.tasks
  evidenceIds : r.evidenceIds <+: r'.evidenceIds

theorem IncidentGrown.refl (r : IncidentRecord) : IncidentGrown r r := by
  constructor <;> simp

theorem IncidentGrown.trans {r r' r'' : IncidentRecord} (h : IncidentGrown r r')
    (h' : IncidentGrown r' r'') : IncidentGrown r r'' where
  id := h'.id.trans h.id
  tenant := h'.tenant.trans h.tenant
  timeline := h.timeline.trans h'.timeline
  notes := h.notes.trans h'.notes
  tasks := h.tasks.trans h'.tasks
  evidenceIds := h.evidenceIds.trans h'.evidenceIds

/-- A row of evidence before and after some operations: a link stays, and only sealed evidence is
linked. -/
structure EvidenceGrown (e e' : Evidence) : Prop where
  id : e'.id = e.id
  tenant : e'.tenantId = e.tenantId
  isSealed : e'.sealed = e.sealed
  history : e.transformationHistory <+: e'.transformationHistory
  bound : given e.incidentId = true → e'.incidentId = e.incidentId
  linked : e'.incidentId ≠ e.incidentId → e.sealed = true

theorem EvidenceGrown.refl (e : Evidence) : EvidenceGrown e e := by
  constructor <;> simp

theorem EvidenceGrown.trans {e e' e'' : Evidence} (h : EvidenceGrown e e')
    (h' : EvidenceGrown e' e'') : EvidenceGrown e e'' where
  id := h'.id.trans h.id
  tenant := h'.tenant.trans h.tenant
  isSealed := h'.isSealed.trans h.isSealed
  history := h.history.trans h'.history
  bound hgiven := by
    have hsame := h.bound hgiven
    rw [← hsame] at hgiven
    exact (h'.bound hgiven).trans hsame
  linked hne := by
    by_cases hfirst : e'.incidentId = e.incidentId
    · rw [← h.isSealed]
      apply h'.linked
      rw [hfirst]
      exact hne
    · exact h.linked hfirst

/-! ### What a saved edit does -/

theorem column_self {α : Type} [DecidableEq α] (loaded changed : α) :
    column loaded changed loaded = changed := by
  unfold column
  split
  · rename_i h
    exact h.symm
  · rfl

/-- The session after an edit is saved. -/
def Edit.apply (edit : Edit) (s : Session schema) : Session schema :=
  let s₁ := s.update .incidents fun r =>
    if r.id = edit.loaded.id then flushIncident edit.loaded edit.changed r else r
  match edit.evidence with
  | none => s₁
  | some (loaded, changed) =>
      s₁.update .evidence fun e => if e.id = loaded.id then flushEvidence loaded changed e else e

theorem Edit.apply_pending (edit : Edit) (s : Session schema) :
    (edit.apply s).pending = s.pending := by
  unfold Edit.apply
  cases edit.evidence <;> rfl

theorem Edit.apply_incidents (edit : Edit) (s : Session schema) :
    (edit.apply s).stored .incidents = (s.stored .incidents).map fun r =>
      if r.id = edit.loaded.id then flushIncident edit.loaded edit.changed r else r := by
  unfold Edit.apply
  cases edit.evidence with
  | none => exact Session.update_stored_self s Table.incidents _
  | some pair =>
      obtain ⟨loaded, changed⟩ := pair
      dsimp only
      rw [Session.update_stored_of_ne _ (show (Table.evidence : schema.Table) ≠ .incidents by decide)]
      exact Session.update_stored_self s Table.incidents _

theorem Edit.apply_evidence_none {edit : Edit} (h : edit.evidence = none) (s : Session schema) :
    (edit.apply s).stored .evidence = s.stored .evidence := by
  unfold Edit.apply
  rw [h]
  exact Session.update_stored_of_ne s (show (Table.incidents : schema.Table) ≠ .evidence by decide) _

theorem Edit.apply_evidence_some {edit : Edit} {loaded changed : Evidence}
    (h : edit.evidence = some (loaded, changed)) (s : Session schema) :
    (edit.apply s).stored .evidence = (s.stored .evidence).map fun e =>
      if e.id = loaded.id then flushEvidence loaded changed e else e := by
  unfold Edit.apply
  rw [h]
  dsimp only
  refine (Session.update_stored_self (S := schema) _ Table.evidence _).trans ?_
  rw [Session.update_stored_of_ne s (show (Table.incidents : schema.Table) ≠ .evidence by decide)]

theorem Edit.save_run (edit : Edit) {w : World} (h : w.session.pending = []) :
    edit.save w = (.ok (), { w with session := edit.apply w.session }) := by
  unfold Edit.save Edit.apply
  cases hevidence : edit.evidence with
  | none =>
      dsimp only
      rw [Exec.bind_run]
      exact flush_run_of_pending_nil h
  | some pair =>
      obtain ⟨loaded, changed⟩ := pair
      dsimp only
      rw [Exec.bind_run]
      show Exec.andThen _ (.ok (), _) = _
      simp only [Exec.andThen]
      rw [Exec.bind_run]
      exact flush_run_of_pending_nil h

/-- The exits of an operation: it raises and changes no row, or it saves an edit. -/
theorem serve_cases (rt : Runtime) (request : IncidentRequest) {w : World}
    (h : w.session.pending = []) :
    (∃ e t, request.serve rt w = (.error e, { w with ticks := t })) ∨
    ∃ incident edit t, incident ∈ w.session.stored .incidents ∧
      incident.tenantId = request.tenantId ∧ incident.id = request.incidentId ∧
      Edits w.session incident request.op edit ∧
      request.serve rt w = (.ok edit.changed, ⟨edit.apply w.session, t⟩) := by
  have hload := (load_reads rt w.session request).run w rfl
  unfold IncidentRequest.serve
  rw [Exec.bind_run]
  rcases hrun : request.load rt w with ⟨⟨e⟩ | ⟨edit⟩, w'⟩
  · rw [hrun] at hload
    left
    refine ⟨e, w'.ticks, ?_⟩
    obtain ⟨session, ticks⟩ := w'
    obtain rfl : session = w.session := hload
    rfl
  · rw [hrun] at hload
    obtain ⟨hsession, incident, hmem, htenant, hid, hedit⟩ := hload
    right
    refine ⟨incident, edit, w'.ticks, hmem, htenant, hid, hedit, ?_⟩
    have hpending : w'.session.pending = [] := by
      rw [hsession]
      exact h
    show Exec.andThen _ (edit.save w') = _
    rw [edit.save_run hpending, hsession]
    rfl

/-! ### The invariant -/

/-- Between operations: keys are keys, and bound evidence is sealed, of its incident's tenant and
listed there. -/
structure Custody (s : Session schema) : Prop where
  settled : s.pending = []
  incidents : ((s.stored .incidents).map IncidentRecord.id).Nodup
  evidence : ((s.stored .evidence).map Evidence.id).Nodup
  bound : ∀ e ∈ s.stored .evidence, given (Evidence.incidentId e) = true → e.sealed = true ∧
    ∃ r ∈ s.stored .incidents, e.incidentId = some (IncidentRecord.id r) ∧
      r.tenantId = e.tenantId ∧ e.id ∈ r.evidenceIds

section Saving

variable {s : Session schema} {incident : IncidentRecord} {op : IncidentOp} {edit : Edit}

theorem Edits.flushed (h : Edits s incident op edit) :
    flushIncident edit.loaded edit.changed incident =
      { incident with
        status := edit.changed.status
        assigneeUserId := edit.changed.assigneeUserId
        assigneeEmail := edit.changed.assigneeEmail
        evidenceIds := edit.changed.evidenceIds
        notes := edit.changed.notes
        tasks := edit.changed.tasks
        timeline := edit.changed.timeline
        rootCause := edit.changed.rootCause
        lessonsLearned := edit.changed.lessonsLearned
        updatedAt := edit.changed.updatedAt } := by
  unfold flushIncident
  rw [h.loaded]
  simp only [column_self]

theorem Edits.incident_grown (h : Edits s incident op edit) :
    IncidentGrown incident (flushIncident edit.loaded edit.changed incident) := by
  rw [h.flushed]
  obtain ⟨event, hevent⟩ := h.timeline
  refine ⟨rfl, rfl, ?_, h.notes, h.tasks, h.evidenceIds⟩
  show incident.timeline <+: edit.changed.timeline
  rw [hevent]
  exact List.prefix_append _ _

theorem eq_of_mem_of_key {α : Type} {key : α → String} {rows : List α}
    (hnodup : (rows.map key).Nodup) {a b : α} (ha : a ∈ rows) (hb : b ∈ rows)
    (h : key a = key b) : a = b :=
  List.inj_on_of_nodup_map hnodup ha hb h

/-- The row after the edit, whichever it is. -/
theorem Edits.row_grown (h : Edits s incident op edit) (hs : Custody s)
    (hincident : incident ∈ s.stored .incidents) {r : IncidentRecord}
    (hr : r ∈ s.stored .incidents) :
    IncidentGrown r (if r.id = edit.loaded.id then flushIncident edit.loaded edit.changed r else r) := by
  by_cases hid : r.id = edit.loaded.id
  · rw [if_pos hid]
    rw [h.loaded] at hid
    obtain rfl := eq_of_mem_of_key hs.incidents hr hincident hid
    exact h.incident_grown
  · rw [if_neg hid]
    exact IncidentGrown.refl r

theorem Links.flushed {loaded changed : Evidence} (h : Links s incident edit loaded changed) :
    flushEvidence loaded changed loaded = changed := by
  obtain ⟨link, rfl⟩ := h.linked
  unfold flushEvidence
  simp only [column_self]

theorem Links.evidence_grown {loaded changed : Evidence}
    (h : Links s incident edit loaded changed) : EvidenceGrown loaded changed := by
  obtain ⟨link, rfl⟩ := h.linked
  refine ⟨rfl, rfl, rfl, List.prefix_append _ _, ?_, ?_⟩
  · intro hgiven
    exact (h.free hgiven).symm
  · intro _
    exact h.isSealed

theorem Edits.incidents_grown (h : Edits s incident op edit) (hs : Custody s)
    (hincident : incident ∈ s.stored .incidents) :
    List.Forall₂ IncidentGrown (s.stored .incidents) ((edit.apply s).stored .incidents) := by
  rw [edit.apply_incidents, List.forall₂_map_right_iff, List.forall₂_same]
  intro r hr
  exact h.row_grown hs hincident hr

theorem Edits.evidence_grown (h : Edits s incident op edit) (hs : Custody s) :
    List.Forall₂ EvidenceGrown (s.stored .evidence) ((edit.apply s).stored .evidence) := by
  cases hevidence : edit.evidence with
  | none =>
      rw [Edit.apply_evidence_none hevidence, List.forall₂_same]
      intro e _
      exact EvidenceGrown.refl e
  | some pair =>
      obtain ⟨loaded, changed⟩ := pair
      have hlinks := h.evidence loaded changed hevidence
      rw [Edit.apply_evidence_some hevidence, List.forall₂_map_right_iff, List.forall₂_same]
      intro e he
      by_cases hid : e.id = loaded.id
      · rw [if_pos hid]
        obtain rfl := eq_of_mem_of_key hs.evidence he hlinks.stored hid
        rw [hlinks.flushed]
        exact hlinks.evidence_grown
      · rw [if_neg hid]
        exact EvidenceGrown.refl e

theorem forall₂_map_eq {α β : Type} {R : α → α → Prop} {key : α → β} {as bs : List α}
    (h : List.Forall₂ R as bs) (hkey : ∀ a b, R a b → key b = key a) :
    bs.map key = as.map key := by
  induction h with
  | nil => rfl
  | cons hone _ ih =>
      rw [List.map_cons, List.map_cons, hkey _ _ hone, ih]

/-- An incident that evidence points to still lists it after the edit. -/
theorem Edits.still_listed (h : Edits s incident op edit) (hs : Custody s)
    (hincident : incident ∈ s.stored .incidents) {e : Evidence}
    (hbound : ∃ r ∈ s.stored .incidents, e.incidentId = some (IncidentRecord.id r) ∧
      r.tenantId = e.tenantId ∧ e.id ∈ r.evidenceIds) :
    ∃ r ∈ (edit.apply s).stored .incidents, e.incidentId = some (IncidentRecord.id r) ∧
      r.tenantId = e.tenantId ∧ e.id ∈ r.evidenceIds := by
  obtain ⟨r, hr, hid, htenant, hlisted⟩ := hbound
  have hgrown := h.row_grown hs hincident hr
  rw [edit.apply_incidents]
  refine ⟨_, List.mem_map_of_mem hr, ?_, ?_, ?_⟩
  · rw [hid, hgrown.id]
  · rw [hgrown.tenant, htenant]
  · exact hgrown.evidenceIds.subset hlisted

theorem Edits.custody (h : Edits s incident op edit) (hs : Custody s)
    (hincident : incident ∈ s.stored .incidents) : Custody (edit.apply s) := by
  constructor
  · rw [edit.apply_pending]
    exact hs.settled
  · rw [forall₂_map_eq (h.incidents_grown hs hincident) fun _ _ hgrown => hgrown.id]
    exact hs.incidents
  · rw [forall₂_map_eq (h.evidence_grown hs) fun _ _ hgrown => hgrown.id]
    exact hs.evidence
  · intro e he hgiven
    cases hevidence : edit.evidence with
    | none =>
        rw [Edit.apply_evidence_none hevidence] at he
        obtain ⟨hsealed, hbound⟩ := hs.bound e he hgiven
        exact ⟨hsealed, h.still_listed hs hincident hbound⟩
    | some pair =>
        obtain ⟨loaded, changed⟩ := pair
        have hlinks := h.evidence loaded changed hevidence
        rw [Edit.apply_evidence_some hevidence] at he
        obtain ⟨old, hold, rfl⟩ := List.mem_map.mp he
        by_cases hid : Evidence.id old = loaded.id
        · rw [if_pos hid] at hgiven ⊢
          obtain rfl := eq_of_mem_of_key hs.evidence hold hlinks.stored hid
          rw [hlinks.flushed]
          obtain ⟨link, hchanged⟩ := hlinks.linked
          rw [hchanged]
          refine ⟨hlinks.isSealed, flushIncident edit.loaded edit.changed incident, ?_, rfl, ?_, ?_⟩
          · rw [edit.apply_incidents]
            refine List.mem_map.mpr ⟨incident, hincident, ?_⟩
            rw [if_pos (by rw [h.loaded])]
          · exact hlinks.tenant.symm
          · rw [h.flushed]
            exact hlinks.listed
        · rw [if_neg hid] at hgiven ⊢
          obtain ⟨hsealed, hbound⟩ := hs.bound old hold hgiven
          exact ⟨hsealed, h.still_listed hs hincident hbound⟩

end Saving

/-! ### Runs -/

/-- The world after an operation. -/
def serveStep (rt : Runtime) (w : World) (request : IncidentRequest) : World :=
  (request.serve rt w).2

/-- How the rows of two worlds are related when operations lead from one to the other. -/
structure Grown (w w' : World) : Prop where
  incidents : List.Forall₂ IncidentGrown (w.session.stored .incidents) (w'.session.stored .incidents)
  evidence : List.Forall₂ EvidenceGrown (w.session.stored .evidence) (w'.session.stored .evidence)

theorem Grown.refl (w : World) : Grown w w where
  incidents := List.forall₂_same.mpr fun r _ => IncidentGrown.refl r
  evidence := List.forall₂_same.mpr fun e _ => EvidenceGrown.refl e

theorem forall₂_trans {α : Type} {R : α → α → Prop} (htrans : ∀ a b c, R a b → R b c → R a c)
    {as bs cs : List α} (h : List.Forall₂ R as bs) (h' : List.Forall₂ R bs cs) :
    List.Forall₂ R as cs := by
  induction h generalizing cs with
  | nil => exact h'
  | cons hone _ ih =>
      cases h' with
      | cons hone' hrest => exact List.Forall₂.cons (htrans _ _ _ hone hone') (ih hrest)

theorem Grown.trans {w w' w'' : World} (h : Grown w w') (h' : Grown w' w'') : Grown w w'' where
  incidents := forall₂_trans (fun _ _ _ h h' => h.trans h') h.incidents h'.incidents
  evidence := forall₂_trans (fun _ _ _ h h' => h.trans h') h.evidence h'.evidence

section Steps

variable {rt : Runtime} {w : World}

theorem Custody.step (h : Custody w.session) (rt : Runtime) (request : IncidentRequest) :
    Custody (serveStep rt w request).session ∧ Grown w (serveStep rt w request) := by
  unfold serveStep
  rcases serve_cases rt request h.settled with
    ⟨e, t, hrun⟩ | ⟨incident, edit, t, hincident, -, -, hedit, hrun⟩
  · rw [hrun]
    exact ⟨h, (Grown.refl w).incidents, (Grown.refl w).evidence⟩
  · rw [hrun]
    exact ⟨hedit.custody h hincident,
      ⟨hedit.incidents_grown h hincident, hedit.evidence_grown h⟩⟩

theorem Custody.run (h : Custody w.session) (rt : Runtime) (requests : List IncidentRequest) :
    Custody (Machine.run (serveStep rt) w requests).session ∧
      Grown w (Machine.run (serveStep rt) w requests) := by
  induction requests generalizing w with
  | nil => exact ⟨h, Grown.refl w⟩
  | cons request requests ih =>
      obtain ⟨hstep, hgrown⟩ := h.step rt request
      obtain ⟨hrun, hrest⟩ := ih hstep
      exact ⟨hrun, hgrown.trans hrest⟩

end Steps

/-- From a state without bound evidence, after any operations: bound evidence is sealed, of its
incident's tenant and listed there; any further operations only append to the histories and keep
the links; and an operation that raises changes no row. -/
theorem evidence_linking (rt : Runtime) {w : World} (hsettled : w.session.pending = [])
    (hincidents : ((w.session.stored .incidents).map IncidentRecord.id).Nodup)
    (hevidence : ((w.session.stored .evidence).map Evidence.id).Nodup)
    (hnone : ∀ e ∈ w.session.stored .evidence, given (Evidence.incidentId e) = false)
    (requests more : List IncidentRequest) :
    let w₁ := Machine.run (serveStep rt) w requests
    let w₂ := Machine.run (serveStep rt) w₁ more
    (∀ e ∈ w₁.session.stored .evidence, given (Evidence.incidentId e) = true → e.sealed = true ∧
      ∃ r ∈ w₁.session.stored .incidents, e.incidentId = some (IncidentRecord.id r) ∧
        r.tenantId = e.tenantId ∧ e.id ∈ r.evidenceIds) ∧
    List.Forall₂ EvidenceGrown (w₁.session.stored .evidence) (w₂.session.stored .evidence) ∧
    List.Forall₂ IncidentGrown (w₁.session.stored .incidents) (w₂.session.stored .incidents) ∧
    ∀ request e, (IncidentRequest.serve rt request w₁).1 = .error e →
      (IncidentRequest.serve rt request w₁).2.session = w₁.session := by
  intro w₁ w₂
  have hstart : Custody w.session := by
    refine ⟨hsettled, hincidents, hevidence, ?_⟩
    intro e he hgiven
    rw [hnone e he] at hgiven
    cases hgiven
  obtain ⟨hcustody, -⟩ := hstart.run rt requests
  obtain ⟨-, hgrown⟩ := hcustody.run rt more
  refine ⟨hcustody.bound, hgrown.evidence, hgrown.incidents, ?_⟩
  intro request e hraise
  rcases serve_cases rt request hcustody.settled with
    ⟨e', t, hrun⟩ | ⟨incident, edit, t, -, -, -, -, hrun⟩
  · rw [hrun]
  · rw [hrun] at hraise
    cases hraise

/-- A grouped incident of one tenant with nothing on its lists. -/
def sampleIncident (id tenantId : String) : IncidentRecord :=
  { id := id
    tenantId := tenantId
    fingerprint := id
    title := "incident"
    payload := .storyline
      { storylineId := "sty_1"
        tenantId := tenantId
        title := "incident"
        confidence := 1 / 2
        start := sampleRuntime.now 0
        finish := sampleRuntime.now 0 }
    createdAt := sampleRuntime.now 0
    updatedAt := sampleRuntime.now 0 }

def sampleEvidence (id tenantId : String) : Evidence :=
  { id := id
    tenantId := tenantId
    source := "syslog"
    acquisitionMethod := "stream"
    originalTimestamp := sampleRuntime.now 0
    ingestedAt := sampleRuntime.now 0
    collectorIdentity := "collector"
    integrityHash := ""
    parserVersion := "1.0.0"
    transformationHistory := []
    confidenceLevel := 1
    payload := []
    «sealed» := true }

/-- Two incidents and one sealed piece of evidence of a tenant. -/
def sampleDesk : World :=
  { session :=
      { stored := fun t => match t with
          | .incidents => [sampleIncident "inc_1" "ten_a", sampleIncident "inc_2" "ten_a"]
          | .evidence => [sampleEvidence "evi_1" "ten_a"]
          | _ => []
        pending := [] } }

/-- The evidence is linked to one incident, and a note is written on the other. -/
theorem evidence_linking_sample :
    let w := Machine.run (serveStep sampleRuntime) sampleDesk
      [⟨"ten_a", "usr_1", "inc_1", .linkEvidence "evi_1"⟩, ⟨"ten_a", "usr_1", "inc_2", .addNote "n"⟩]
    ∀ request e, (IncidentRequest.serve sampleRuntime request w).1 = .error e →
      (IncidentRequest.serve sampleRuntime request w).2.session = w.session :=
  (evidence_linking sampleRuntime (w := sampleDesk) rfl (by decide) (by decide)
    (by
      intro e he
      obtain rfl := List.mem_singleton.mp he
      rfl) _ []).2.2.2

end BlueTeam.Services
