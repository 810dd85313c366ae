/- GID: BlueTeam/Services/Incidents
   generality: I
   source: services/api/app/services/incidents.py
   digest: The operations of analysts on an incident, as edits of the rows they have loaded. -/

import BlueTeam.Services.Ingestion
import BlueTeam.Services.Rules

set_option autoImplicit false
set_option relaxedAutoImplicit false

namespace BlueTeam.Services

open BlueTeam.Python BlueTeam.Schema BlueTeam.Lib

/-- What a session has changed of the rows it loaded: each row as it was loaded and as it is now. -/
structure Edit where
  loaded : IncidentRecord
  changed : IncidentRecord
  evidence : Option (Evidence × Evidence) := none

/-- A column is written only if its value differs from the loaded one. -/
def column {α : Type} [DecidableEq α] (loaded changed stored : α) : α :=
  if changed = loaded then stored else changed

/-- The `UPDATE` of an incident, with the columns that its operations assign. -/
def flushIncident (loaded changed stored : IncidentRecord) : IncidentRecord :=
  { stored with
    status := column loaded.status changed.status stored.status
    assigneeUserId := column loaded.assigneeUserId changed.assigneeUserId stored.assigneeUserId
    assigneeEmail := column loaded.assigneeEmail changed.assigneeEmail stored.assigneeEmail
    evidenceIds := column loaded.evidenceIds changed.evidenceIds stored.evidenceIds
    notes := column loaded.notes changed.notes stored.notes
    tasks := column loaded.tasks changed.tasks stored.tasks
    timeline := column loaded.timeline changed.timeline stored.timeline
    rootCause := column loaded.rootCause changed.rootCause stored.rootCause
    lessonsLearned := column loaded.lessonsLearned changed.lessonsLearned stored.lessonsLearned
    updatedAt := column loaded.updatedAt changed.updatedAt stored.updatedAt }

def flushEvidence (loaded changed stored : Evidence) : Evidence :=
  { stored with
    incidentId := column loaded.incidentId changed.incidentId stored.incidentId
    transformationHistory := column loaded.transformationHistory changed.transformationHistory
      stored.transformationHistory }

/-- `db.flush()` at the end of an operation. -/
def Edit.save (edit : Edit) : Service Unit := do
  update .incidents fun r =>
    if r.id = edit.loaded.id then flushIncident edit.loaded edit.changed r else r
  match edit.evidence with
  | none => flush
  | some (loaded, changed) => do
      update .evidence fun r => if r.id = loaded.id then flushEvidence loaded changed r else r
      flush

def getIncident (tenantId incidentId : String) : Service IncidentRecord := do
  match ← selectOne .incidents tenantId fun r => r.id = incidentId with
  | none => Exec.raise (.blueTeamError "NOT_FOUND" "Incident not found" 404)
  | some row => pure row

def createFromAlert (rt : Runtime) (tenantId alertId actorId : String) :
    Service IncidentRecord := do
  match ← selectOne .alerts tenantId fun r => r.id = alertId with
  | none => Exec.raise (.blueTeamError "NOT_FOUND" "Alert not found" 404)
  | some alert =>
      match ← selectOne .incidents tenantId fun r => r.sourceAlertId = some alertId with
      | some existing => pure existing
      | none => do
          let now ← draw (utcnow rt)
          let id ← draw (newId rt "inc")
          let created ← draw (timelineEvent rt "created_from_alert" actorId
            ("Alert " ++ alertId ++ " converted to incident")
            [("alert_id", .str alertId), ("finding_id", .str alert.findingId)])
          let incident : IncidentRecord :=
            { id := id
              tenantId := tenantId
              fingerprint := "alert:" ++ alertId
              title := alert.title
              status := .new
              severity := alert.severity
              sourceAlertId := some alert.id
              findingRuleIds := [alert.findingId]
              timeline := [created]
              payload := .alert alertId alert.findingId
              createdAt := now
              updatedAt := now }
          update .alerts fun r => if r = alert then { r with status := .promoted } else r
          add (t := .incidents) incident
          flush
          pure incident

/-! ### The operations, up to their flush -/

section Operations

variable (rt : Runtime) (incident : IncidentRecord)

def setStatus (status actorId : String) : Service Edit :=
  match IncidentStatus.ofText status with
  | none => Exec.raise (.blueTeamError "INVALID_STATUS" ("Unsupported status " ++ status) 422)
  | some target => do
      let updatedAt ← draw (utcnow rt)
      let event ← draw (timelineEvent rt "status_change" actorId
        ("Status " ++ incident.status.text ++ " → " ++ status)
        [("before", .str incident.status.text), ("after", .str status)])
      pure
        { loaded := incident
          changed := { incident with
            status := target
            updatedAt := updatedAt
            timeline := incident.timeline ++ [event] } }

def assign (assigneeUserId assigneeEmail actorId : String) : Service Edit := do
  let updatedAt ← draw (utcnow rt)
  let event ← draw (timelineEvent rt "assignment" actorId ("Assigned to " ++ assigneeEmail)
    [("assignee_user_id", .str assigneeUserId)])
  pure
    { loaded := incident
      changed := { incident with
        assigneeUserId := some assigneeUserId
        assigneeEmail := some assigneeEmail
        updatedAt := updatedAt
        status := if incident.status = .grouped then .triaging else incident.status
        timeline := incident.timeline ++ [event] } }

def addNote (body actorId : String) : Service Edit :=
  if rt.strip body = "" then
    Exec.raise (.blueTeamError "INVALID_NOTE" "Note body required" 422)
  else do
    let noteId ← draw (newId rt "nte")
    let writtenAt ← draw (utcnow rt)
    let note : Json := .obj [("id", .str noteId), ("at", .str writtenAt.isoformat),
      ("author_id", .str actorId), ("body", .str (rt.strip body))]
    let event ← draw (timelineEvent rt "note" actorId "Analyst note added"
      [("note_id", .str noteId)])
    let updatedAt ← draw (utcnow rt)
    pure
      { loaded := incident
        changed := { incident with
          notes := incident.notes ++ [note]
          timeline := incident.timeline ++ [event]
          updatedAt := updatedAt } }

def addTask (title actorId : String) : Service Edit :=
  if rt.strip title = "" then
    Exec.raise (.blueTeamError "INVALID_TASK" "Task title required" 422)
  else do
    let taskId ← draw (newId rt "tsk")
    let createdAt ← draw (utcnow rt)
    let task : Json := .obj [("id", .str taskId), ("title", .str (rt.strip title)),
      ("status", .str "open"), ("created_at", .str createdAt.isoformat),
      ("created_by", .str actorId)]
    let event ← draw (timelineEvent rt "task" actorId ("Task added: " ++ rt.strip title)
      [("task_id", .str taskId)])
    let updatedAt ← draw (utcnow rt)
    pure
      { loaded := incident
        changed := { incident with
          tasks := incident.tasks ++ [task]
          timeline := incident.timeline ++ [event]
          updatedAt := updatedAt } }

/-- `text.strip() or None` -/
def strippedText (text : String) : Option String :=
  if rt.strip text = "" then none else some (rt.strip text)

/-- `set_root_cause` and `set_lessons` differ in the column and the texts of the event. -/
def recordText (kind summary actorId : String) (assignText : DateTime → IncidentRecord) :
    Service Edit := do
  let updatedAt ← draw (utcnow rt)
  let event ← draw (timelineEvent rt kind actorId summary [])
  pure
    { loaded := incident
      changed := { assignText updatedAt with timeline := incident.timeline ++ [event] } }

def setRootCause (text actorId : String) : Service Edit :=
  recordText rt incident "root_cause" "Root cause recorded" actorId fun updatedAt =>
    { incident with rootCause := strippedText rt text, updatedAt := updatedAt }

def setLessons (text actorId : String) : Service Edit :=
  recordText rt incident "lessons" "Lessons learned recorded" actorId fun updatedAt =>
    { incident with lessonsLearned := strippedText rt text, updatedAt := updatedAt }

def linkEvidence (evidenceId actorId : String) : Service Edit := do
  match ← selectOne .evidence incident.tenantId fun r => r.id = evidenceId with
  | none => Exec.raise (.blueTeamError "NOT_FOUND" "Evidence not found" 404)
  | some evidence =>
      if !evidence.sealed then
        Exec.raise (.blueTeamError "EVIDENCE_NOT_SEALED" "Only sealed evidence may be linked" 409)
      else if given evidence.incidentId ∧ evidence.incidentId ≠ some incident.id then
        Exec.raise (.blueTeamError "EVIDENCE_BOUND" "Evidence already bound to another incident" 409)
      else do
        let linkedAt ← draw (utcnow rt)
        let link : Json := .obj [("op", .str "link_incident"), ("at", .str linkedAt.isoformat),
          ("actor_id", .str actorId), ("incident_id", .str incident.id),
          ("integrity_hash", .str evidence.integrityHash)]
        let event ← draw (timelineEvent rt "evidence_link" actorId
          ("Linked sealed evidence " ++ evidenceId)
          [("evidence_id", .str evidenceId), ("integrity_hash", .str evidence.integrityHash)])
        let updatedAt ← draw (utcnow rt)
        pure
          { loaded := incident
            changed := { incident with
              evidenceIds := if evidenceId ∈ incident.evidenceIds then incident.evidenceIds
                else incident.evidenceIds ++ [evidenceId]
              timeline := incident.timeline ++ [event]
              updatedAt := updatedAt }
            evidence := some (evidence, { evidence with
              incidentId := some incident.id
              transformationHistory := evidence.transformationHistory ++ [link] }) }

end Operations

/-! ### Requests -/

inductive IncidentOp
  | setStatus (status : String)
  | assign (assigneeUserId assigneeEmail : String)
  | addNote (body : String)
  | addTask (title : String)
  | setRootCause (text : String)
  | setLessons (text : String)
  | linkEvidence (evidenceId : String)
  deriving DecidableEq, Repr

def IncidentOp.edit (rt : Runtime) (incident : IncidentRecord) (actorId : String) :
    IncidentOp → Service Edit
  | .setStatus status => Services.setStatus rt incident status actorId
  | .assign assigneeUserId assigneeEmail =>
      Services.assign rt incident assigneeUserId assigneeEmail actorId
  | .addNote body => Services.addNote rt incident body actorId
  | .addTask title => Services.addTask rt incident title actorId
  | .setRootCause text => Services.setRootCause rt incident text actorId
  | .setLessons text => Services.setLessons rt incident text actorId
  | .linkEvidence evidenceId => Services.linkEvidence rt incident evidenceId actorId

/-- An endpoint's call: the tenant and the user of its actor, and the incident it names. -/
structure IncidentRequest where
  tenantId : String
  actorId : String
  incidentId : String
  op : IncidentOp
  deriving DecidableEq, Repr

/-- The request up to its flush. -/
def IncidentRequest.load (rt : Runtime) (r : IncidentRequest) : Service Edit := do
  let incident ← getIncident r.tenantId r.incidentId
  r.op.edit rt incident r.actorId

def IncidentRequest.serve (rt : Runtime) (r : IncidentRequest) : Service IncidentRecord := do
  let edit ← r.load rt
  edit.save
  pure edit.changed

/-! ### Programs that only read -/

section Reading

variable {α β : Type} {s : Session schema} {Q : α → Prop} {R : β → Prop}

/-- The program leaves the session as it is; what it returns satisfies `Q`. -/
def Reads (s : Session schema) (m : Service α) (Q : α → Prop) : Prop :=
  Exec.Triple (fun w => w.session = s) m (fun a w => w.session = s ∧ Q a)
    (fun _ w => w.session = s)

theorem reads_pure {a : α} (h : Q a) : Reads s (pure a : Service α) Q :=
  Exec.triple_pure fun _ hw => ⟨hw, h⟩

theorem reads_raise {e : Failure} : Reads s (Exec.raise e : Service α) Q :=
  Exec.triple_raise fun _ hw => hw

theorem reads_bind {m : Service α} {f : α → Service β} (hm : Reads s m Q)
    (hf : ∀ a, Q a → Reads s (f a) R) : Reads s (m >>= f) R := by
  apply Exec.triple_bind hm
  intro a
  constructor
  rintro w ⟨hw, ha⟩
  exact (hf a ha).run w hw

theorem reads_draw {m : Draw α} {f : α → Service β} (hf : ∀ a, Reads s (f a) R) :
    Reads s (draw m >>= f) R := by
  apply reads_bind (Q := fun _ => True)
  · exact triple_draw (fun _ _ _ hw _ => ⟨hw, trivial⟩) (fun _ _ _ hw _ => hw)
  · intro a _
    exact hf a

theorem reads_selectOne {t : Table} {tenantId : String} {p : t.Row → Bool} :
    Reads s (selectOne t tenantId p) fun found => ∀ r, found = some r →
      r ∈ s.stored t ∧ Table.tenantId r = tenantId ∧ p r = true := by
  apply triple_selectOne
  · intro w hw _
    refine ⟨hw, ?_⟩
    intro r hr
    cases hr
  · intro w r hw hr ht hp
    refine ⟨hw, ?_⟩
    rintro r' hr'
    obtain rfl := Option.some.inj hr'
    rw [← hw]
    exact ⟨hr, ht, hp⟩
  · intro w hw _
    exact hw

end Reading

/-! ### What an edit changes -/

/-- The evidence of an edit, as it was when it was linked. -/
structure Links (s : Session schema) (incident : IncidentRecord) (edit : Edit)
    (loaded changed : Evidence) : Prop where
  stored : loaded ∈ s.stored .evidence
  tenant : loaded.tenantId = incident.tenantId
  isSealed : loaded.sealed = true
  free : given loaded.incidentId = true → loaded.incidentId = some incident.id
  listed : loaded.id ∈ edit.changed.evidenceIds
  linked : ∃ link, changed = { loaded with
    incidentId := some incident.id
    transformationHistory := loaded.transformationHistory ++ [link] }

/-- Every operation adds one timeline event and otherwise only appends to the lists. -/
structure Edits (s : Session schema) (incident : IncidentRecord) (op : IncidentOp) (edit : Edit) :
    Prop where
  loaded : edit.loaded = incident
  id : edit.changed.id = incident.id
  tenant : edit.changed.tenantId = incident.tenantId
  timeline : ∃ event, edit.changed.timeline = incident.timeline ++ [event]
  notes : incident.notes <+: edit.changed.notes
  tasks : incident.tasks <+: edit.changed.tasks
  evidenceIds : incident.evidenceIds <+: edit.changed.evidenceIds
  linked : ∀ evidenceId, op = .linkEvidence evidenceId → evidenceId ∈ edit.changed.evidenceIds
  sources : ∀ id ∈ edit.changed.evidenceIds, id ∈ incident.evidenceIds ∨
    ∃ e ∈ s.stored .evidence, Evidence.id e = id ∧ e.tenantId = incident.tenantId
  evidence : ∀ loaded changed, edit.evidence = some (loaded, changed) →
    Links s incident edit loaded changed

section Edits

variable {rt : Runtime} {s : Session schema} {incident : IncidentRecord} {actorId : String}

/-- The operations other than `link_evidence` leave the evidence alone. -/
theorem edits_of_own {op : IncidentOp} {edit : Edit} {event : Json}
    (hop : ∀ evidenceId, op ≠ .linkEvidence evidenceId)
    (hloaded : edit.loaded = incident) (hid : edit.changed.id = incident.id)
    (htenant : edit.changed.tenantId = incident.tenantId)
    (htimeline : edit.changed.timeline = incident.timeline ++ [event])
    (hnotes : incident.notes <+: edit.changed.notes)
    (htasks : incident.tasks <+: edit.changed.tasks)
    (hids : edit.changed.evidenceIds = incident.evidenceIds) (hnone : edit.evidence = none) :
    Edits s incident op edit where
  loaded := hloaded
  id := hid
  tenant := htenant
  timeline := ⟨event, htimeline⟩
  notes := hnotes
  tasks := htasks
  evidenceIds := by rw [hids]
  linked evidenceId h := absurd h (hop evidenceId)
  sources id h := by
    rw [hids] at h
    exact .inl h
  evidence loaded changed h := by
    rw [hnone] at h
    cases h

theorem recordText_edits {op : IncidentOp} (hop : ∀ evidenceId, op ≠ .linkEvidence evidenceId)
    {kind summary : String} {assignText : DateTime → IncidentRecord}
    (hsame : ∀ now, (assignText now).id = incident.id ∧
      (assignText now).tenantId = incident.tenantId ∧ (assignText now).notes = incident.notes ∧
      (assignText now).tasks = incident.tasks ∧
      (assignText now).evidenceIds = incident.evidenceIds) :
    Reads s (recordText rt incident kind summary actorId assignText) (Edits s incident op) := by
  apply reads_draw
  intro updatedAt
  apply reads_draw
  intro event
  obtain ⟨hid, htenant, hnotes, htasks, hids⟩ := hsame updatedAt
  apply reads_pure
  refine edits_of_own hop rfl hid htenant rfl ?_ ?_ hids rfl
  · show incident.notes <+: (assignText updatedAt).notes
    rw [hnotes]
  · show incident.tasks <+: (assignText updatedAt).tasks
    rw [htasks]

theorem linkEvidence_edits (evidenceId : String) :
    Reads s (linkEvidence rt incident evidenceId actorId)
      (Edits s incident (.linkEvidence evidenceId)) := by
  apply reads_bind reads_selectOne
  intro found hfound
  cases found with
  | none => exact reads_raise
  | some evidence =>
      obtain ⟨hmem, htenant, hid⟩ := hfound evidence rfl
      have hid : evidence.id = evidenceId := by simpa using hid
      dsimp only
      by_cases hsealed : evidence.sealed = true
      · rw [if_neg (by simp [hsealed])]
        by_cases hbound : given evidence.incidentId = true ∧ evidence.incidentId ≠ some incident.id
        · rw [if_pos hbound]
          exact reads_raise
        · rw [if_neg hbound]
          apply reads_draw
          intro linkedAt
          apply reads_draw
          intro event
          apply reads_draw
          intro updatedAt
          apply reads_pure
          have hlisted : evidenceId ∈ if evidenceId ∈ incident.evidenceIds then
              incident.evidenceIds else incident.evidenceIds ++ [evidenceId] := by
            split
            · assumption
            · simp
          refine ⟨rfl, rfl, rfl, ⟨event, rfl⟩, List.prefix_refl _, List.prefix_refl _, ?_, ?_, ?_,
            ?_⟩
          · show incident.evidenceIds <+: if evidenceId ∈ incident.evidenceIds then
              incident.evidenceIds else incident.evidenceIds ++ [evidenceId]
            split
            · exact List.prefix_refl _
            · exact List.prefix_append _ _
          · intro other hother
            obtain rfl : evidenceId = other := IncidentOp.linkEvidence.inj hother
            exact hlisted
          · intro id hmem'
            change id ∈ (if evidenceId ∈ incident.evidenceIds then
              incident.evidenceIds else incident.evidenceIds ++ [evidenceId]) at hmem'
            split at hmem'
            · exact .inl hmem'
            · rcases List.mem_append.mp hmem' with hold | hnew
              · exact .inl hold
              · obtain rfl := List.mem_singleton.mp hnew
                exact .inr ⟨evidence, hmem, hid, htenant⟩
          · intro loaded changed h
            obtain ⟨rfl, rfl⟩ := Prod.mk.inj (Option.some.inj h)
            refine ⟨hmem, htenant, hsealed, ?_, ?_, _, rfl⟩
            · intro hgiven
              by_contra hne
              exact hbound ⟨hgiven, hne⟩
            · rw [hid]
              exact hlisted
      · rw [if_pos (by simpa using hsealed)]
        exact reads_raise

theorem edit_edits (op : IncidentOp) :
    Reads s (op.edit rt incident actorId) (Edits s incident op) := by
  cases op with
  | setStatus status =>
      show Reads s (setStatus rt incident status actorId) _
      unfold setStatus
      split
      · exact reads_raise
      · apply reads_draw
        intro updatedAt
        apply reads_draw
        intro event
        apply reads_pure
        exact edits_of_own (by simp) rfl rfl rfl rfl (List.prefix_refl _) (List.prefix_refl _) rfl rfl
  | assign assigneeUserId assigneeEmail =>
      apply reads_draw
      intro updatedAt
      apply reads_draw
      intro event
      apply reads_pure
      exact edits_of_own (by simp) rfl rfl rfl rfl (List.prefix_refl _) (List.prefix_refl _) rfl rfl
  | addNote body =>
      show Reads s (addNote rt incident body actorId) _
      unfold addNote
      split
      · exact reads_raise
      · apply reads_draw
        intro noteId
        apply reads_draw
        intro writtenAt
        apply reads_draw
        intro event
        apply reads_draw
        intro updatedAt
        apply reads_pure
        exact edits_of_own (by simp) rfl rfl rfl rfl (List.prefix_append _ _)
          (List.prefix_refl _) rfl rfl
  | addTask title =>
      show Reads s (addTask rt incident title actorId) _
      unfold addTask
      split
      · exact reads_raise
      · apply reads_draw
        intro taskId
        apply reads_draw
        intro createdAt
        apply reads_draw
        intro event
        apply reads_draw
        intro updatedAt
        apply reads_pure
        exact edits_of_own (by simp) rfl rfl rfl rfl (List.prefix_refl _)
          (List.prefix_append _ _) rfl rfl
  | setRootCause text =>
      exact recordText_edits (by simp) fun _ => ⟨rfl, rfl, rfl, rfl, rfl⟩
  | setLessons text =>
      exact recordText_edits (by simp) fun _ => ⟨rfl, rfl, rfl, rfl, rfl⟩
  | linkEvidence evidenceId => exact linkEvidence_edits evidenceId

theorem getIncident_reads (tenantId incidentId : String) :
    Reads s (getIncident tenantId incidentId) fun r =>
      r ∈ s.stored .incidents ∧ r.tenantId = tenantId ∧ r.id = incidentId := by
  apply reads_bind reads_selectOne
  intro found hfound
  cases found with
  | none => exact reads_raise
  | some r =>
      obtain ⟨hmem, htenant, hid⟩ := hfound r rfl
      apply reads_pure
      exact ⟨hmem, htenant, by simpa using hid⟩

/-- A request up to its flush has read its incident and computed an edit of it. -/
theorem load_reads (rt : Runtime) (s : Session schema) (request : IncidentRequest) :
    Reads s (request.load rt) fun edit => ∃ incident ∈ s.stored .incidents,
      incident.tenantId = request.tenantId ∧ incident.id = request.incidentId ∧
        Edits s incident request.op edit := by
  apply reads_bind (getIncident_reads _ _)
  rintro incident ⟨hmem, htenant, hid⟩
  refine Exec.Triple.post (edit_edits request.op) ?_
  rintro edit w ⟨hw, hedit⟩
  exact ⟨hw, incident, hmem, htenant, hid, hedit⟩

end Edits

end BlueTeam.Services
