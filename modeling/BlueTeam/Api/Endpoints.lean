/- GID: BlueTeam/Api/Endpoints
   generality: I
   source: services/api/app/api/detections.py, incidents.py, evidence.py
   digest: The endpoints that change detections, incidents and evidence. -/

import BlueTeam.Api.Center
import BlueTeam.Services.Evidence
import BlueTeam.Services.Incidents

set_option autoImplicit false
set_option relaxedAutoImplicit false

namespace BlueTeam.Api

open BlueTeam.Python BlueTeam.Schema BlueTeam.Lib BlueTeam.Services BlueTeam.Audit BlueTeam.Rules

/-- A text of the body that must have `n` characters. -/
def minLength (n : Nat) (text : String) : Endpoint Unit :=
  if n ≤ text.length then pure () else Exec.raise .requestValidation

/-! ### Detections -/

structure SuppressionBody where
  ruleId : String
  entityKey : String
  entityValue : String
  reason : String
  deriving DecidableEq, Repr

structure SuppressionReply where
  id : String
  ruleId : String
  deriving DecidableEq, Repr

structure RuleReply where
  ruleId : String
  version : String
  status : RuleStatus
  deriving DecidableEq, Repr

section Detections

variable (rt : Runtime) (actor : TenantActor)

/-- What it returns is the number of findings created. -/
def scheduledRun : Endpoint Nat :=
  service (runScheduled rt actor.tenantId actor.userId)

def addSuppression (body : SuppressionBody) : Endpoint SuppressionReply := do
  minLength 3 body.reason
  let row ← service (createSuppression rt actor.tenantId body.ruleId body.entityKey
    body.entityValue body.reason actor.userId)
  pure { id := row.id, ruleId := row.ruleId }

def addException (body : SuppressionBody) : Endpoint SuppressionReply := do
  minLength 3 body.reason
  let row ← service (createException rt actor.tenantId body.ruleId body.entityKey
    body.entityValue body.reason actor.userId)
  pure { id := row.id, ruleId := row.ruleId }

def ruleReply (row : RuleRevision) : RuleReply where
  ruleId := row.ruleId
  version := row.version
  status := row.status

/-- The gate is what the replay lab answers at the time of the call. -/
def promoteRule (catalogue : Catalogue) (regressionGate : String → Bool) (ruleId : String) :
    Endpoint RuleReply := do
  let _ ← ruleService (syncCatalogRevisions rt catalogue)
  let row ← ruleService (promote rt catalogue regressionGate ruleId actor.userId)
  pure (ruleReply row)

/-- `change_status` of a rule. -/
def changeRuleStatus (catalogue : Catalogue) (ruleId status : String) : Endpoint RuleReply := do
  let _ ← ruleService (syncCatalogRevisions rt catalogue)
  let row ← ruleService (Rules.setStatus rt catalogue ruleId status actor.userId)
  pure (ruleReply row)

end Detections

/-! ### Incidents -/

/-- `serialize_incident` -/
structure IncidentReply where
  id : String
  title : String
  status : IncidentStatus
  severity : Severity
  assigneeUserId : Option String
  assigneeEmail : Option String
  sourceAlertId : Option String
  storylineIds : List String
  eventIds : List String
  evidenceIds : List String
  relatedEntityIds : List String
  mitreTechniques : List String
  notes : List Json
  tasks : List Json
  timeline : List Json
  rootCause : Option String
  lessonsLearned : Option String
  createdAt : String
  updatedAt : String
  deriving DecidableEq, Repr

def serializeIncident (row : IncidentRecord) : IncidentReply where
  id := row.id
  title := row.title
  status := row.status
  severity := row.severity
  assigneeUserId := row.assigneeUserId
  assigneeEmail := row.assigneeEmail
  sourceAlertId := row.sourceAlertId
  storylineIds := row.storylineIds
  eventIds := row.eventIds
  evidenceIds := row.evidenceIds
  relatedEntityIds := row.relatedEntityIds
  mitreTechniques := row.mitreTechniques
  notes := row.notes
  tasks := row.tasks
  timeline := row.timeline
  rootCause := row.rootCause
  lessonsLearned := row.lessonsLearned
  createdAt := row.createdAt.isoformat
  updatedAt := row.updatedAt.isoformat

/-- The audit entries of the incident endpoints: their actor counts as a user. -/
def incidentEntry (actor : TenantActor) (action incidentId : String) : AuditEntry :=
  { actor.entry action "incident" with actorType := "user", targetId := some incidentId }

section Incidents

variable (rt : Runtime) (actor : TenantActor)

/-- `rebuild` of the incidents. -/
def rebuildIncidents : Endpoint Unit :=
  service (persistStorylinesAndIncidents rt actor.tenantId)

def fromAlert (alertId : String) : Endpoint IncidentReply := do
  let row ← service (createFromAlert rt actor.tenantId alertId actor.userId)
  writeAudit rt
    { incidentEntry actor "incident.from_alert" row.id with
      afterState := some [("alert_id", .str alertId), ("status", .str row.status.text)] }
  pure (serializeIncident row)

/-- The endpoints of one incident: load it, do the operation, write the audit entry. -/
def onIncident (incidentId : String) (op : IncidentOp) (entry : Edit → AuditEntry) :
    Endpoint IncidentReply := do
  let request : IncidentRequest := ⟨actor.tenantId, actor.userId, incidentId, op⟩
  let edit ← service (request.load rt)
  service edit.save
  writeAudit rt (entry edit)
  pure (serializeIncident edit.changed)

def changeStatus (incidentId status : String) : Endpoint IncidentReply :=
  onIncident rt actor incidentId (.setStatus status) fun edit =>
    { incidentEntry actor "incident.status" edit.changed.id with
      beforeState := some [("status", .str edit.loaded.status.text)]
      afterState := some [("status", .str edit.changed.status.text)] }

def assignIncident (incidentId assigneeUserId assigneeEmail : String) : Endpoint IncidentReply :=
  onIncident rt actor incidentId (.assign assigneeUserId assigneeEmail) fun edit =>
    { incidentEntry actor "incident.assign" edit.changed.id with
      afterState := some [("assignee_user_id", .str assigneeUserId),
        ("assignee_email", .str assigneeEmail)] }

def note (incidentId body : String) : Endpoint IncidentReply := do
  minLength 1 body
  onIncident rt actor incidentId (.addNote body) fun edit =>
    incidentEntry actor "incident.note" edit.changed.id

def task (incidentId title : String) : Endpoint IncidentReply := do
  minLength 1 title
  onIncident rt actor incidentId (.addTask title) fun edit =>
    incidentEntry actor "incident.task" edit.changed.id

def rootCause (incidentId text : String) : Endpoint IncidentReply := do
  minLength 1 text
  onIncident rt actor incidentId (.setRootCause text) fun edit =>
    incidentEntry actor "incident.root_cause" edit.changed.id

def lessons (incidentId text : String) : Endpoint IncidentReply := do
  minLength 1 text
  onIncident rt actor incidentId (.setLessons text) fun edit =>
    incidentEntry actor "incident.lessons" edit.changed.id

def evidence (incidentId evidenceId : String) : Endpoint IncidentReply :=
  onIncident rt actor incidentId (.linkEvidence evidenceId) fun edit =>
    { incidentEntry actor "incident.evidence_link" edit.changed.id with
      afterState := some [("evidence_id", .str evidenceId)] }

end Incidents

/-! ### Evidence -/

structure ClaimRequest where
  claimText : String
  confidence : PyFloat
  supportingEvidenceIds : List String
  contradictingEvidenceIds : List String := []
  inferenceType : Int := 2
  modelOrRuleVersion : String
  deriving DecidableEq

structure CustodyBody where
  action : String := "reviewed"
  notes : Option String := none
  deriving DecidableEq, Repr

/-- The claim that a request makes; its type of inference is one of the five confidence levels. -/
def ClaimRequest.claim (body : ClaimRequest) : Except Exn IncidentClaim :=
  if 1 ≤ body.inferenceType ∧ body.inferenceType ≤ 5 then
    .ok
      { supportingEvidenceIds := body.supportingEvidenceIds
        contradictingEvidenceIds := body.contradictingEvidenceIds }
  else .error (.validationError "IncidentClaim" [("inference_type", some (.int body.inferenceType))])

def validateAiOrAnalystClaim (rt : Runtime) (actor : TenantActor) (body : ClaimRequest) :
    Endpoint Unit := do
  if body.supportingEvidenceIds = [] then Exec.raise .requestValidation
  else do
    let claim ← service (compute body.claim)
    service (validateClaim rt actor.tenantId claim)

def custodyEvent (rt : Runtime) (actor : TenantActor) (evidenceId : String) (body : CustodyBody) :
    Endpoint Json :=
  service (appendCustody rt actor.tenantId evidenceId actor.userId body.action body.notes)

end BlueTeam.Api
