/- GID: BlueTeam/Api/Audited
   generality: I
   source: services/api/app/api/detections.py, incidents.py, evidence.py, graph.py
   digest: Which endpoints leave an audit record of what they change. -/

import BlueTeam.Api.Endpoints
import BlueTeam.Api.Graph

set_option autoImplicit false
set_option relaxedAutoImplicit false

namespace BlueTeam.Api

open BlueTeam.Python BlueTeam.Schema BlueTeam.Lib BlueTeam.Services BlueTeam.Audit BlueTeam.Rules

/-- The `POST` and `PATCH` endpoints of the four routers. -/
inductive Change
  | scheduledRun
  | addSuppression (body : SuppressionBody)
  | addException (body : SuppressionBody)
  | promoteRule (ruleId : String) (regressionGate : String → Bool)
  | changeRuleStatus (ruleId status : String)
  | rebuildIncidents
  | fromAlert (alertId : String)
  | changeStatus (incidentId status : String)
  | assignIncident (incidentId assigneeUserId assigneeEmail : String)
  | note (incidentId body : String)
  | task (incidentId title : String)
  | rootCause (incidentId text : String)
  | lessons (incidentId text : String)
  | evidence (incidentId evidenceId : String)
  | validateClaim (body : ClaimRequest)
  | custodyEvent (evidenceId : String) (body : CustodyBody)
  | rebuildGraph
  | updateCriticality (entityId criticality : String)

structure ChangeRequest where
  actor : TenantActor
  change : Change

/-- What the endpoint replies plays no part here. -/
def silently {α : Type} (m : Endpoint α) : Endpoint Unit := do
  let _ ← m
  pure ()

def ChangeRequest.body (rt : Runtime) (catalogue : Catalogue) (r : ChangeRequest) :
    Endpoint Unit :=
  match r.change with
  | .scheduledRun => silently (scheduledRun rt r.actor)
  | .addSuppression body => silently (addSuppression rt r.actor body)
  | .addException body => silently (addException rt r.actor body)
  | .promoteRule ruleId regressionGate =>
      silently (promoteRule rt r.actor catalogue regressionGate ruleId)
  | .changeRuleStatus ruleId status =>
      silently (changeRuleStatus rt r.actor catalogue ruleId status)
  | .rebuildIncidents => rebuildIncidents rt r.actor
  | .fromAlert alertId => silently (fromAlert rt r.actor alertId)
  | .changeStatus incidentId status => silently (changeStatus rt r.actor incidentId status)
  | .assignIncident incidentId assigneeUserId assigneeEmail =>
      silently (assignIncident rt r.actor incidentId assigneeUserId assigneeEmail)
  | .note incidentId body => silently (note rt r.actor incidentId body)
  | .task incidentId title => silently (task rt r.actor incidentId title)
  | .rootCause incidentId text => silently (rootCause rt r.actor incidentId text)
  | .lessons incidentId text => silently (lessons rt r.actor incidentId text)
  | .evidence incidentId evidenceId => silently (evidence rt r.actor incidentId evidenceId)
  | .validateClaim body => validateAiOrAnalystClaim rt r.actor body
  | .custodyEvent evidenceId body => silently (custodyEvent rt r.actor evidenceId body)
  | .rebuildGraph => silently (rebuildGraph rt r.actor)
  | .updateCriticality entityId criticality =>
      silently (updateCriticality rt r.actor entityId criticality)

/-- The endpoints that write an audit record: those of one incident, and those of the graph. -/
def Change.audited : Change → Bool
  | .fromAlert _ | .changeStatus _ _ | .assignIncident _ _ _ | .note _ _ | .task _ _
  | .rootCause _ _ | .lessons _ _ | .evidence _ _ | .rebuildGraph | .updateCriticality _ _ => true
  | .scheduledRun | .addSuppression _ | .addException _ | .promoteRule _ _ | .changeRuleStatus _ _
  | .rebuildIncidents | .validateClaim _ | .custodyEvent _ _ => false

def Center.step (rt : Runtime) (catalogue : Catalogue) (c : Center) (r : ChangeRequest) : Center :=
  (getDb (r.body rt catalogue) c).2

/-- The rows of the two databases are the same, apart from the audit log. -/
structure SameRows (c c' : Center) : Prop where
  stored : c'.session.stored = c.session.stored
  revisions : c'.revisions = c.revisions
  users : c'.users = c.users
  memberships : c'.memberships = c.memberships

/-- The request succeeds, and it has changed a row that is not an audit row. -/
structure Changing (rt : Runtime) (catalogue : Catalogue) (c : Center) (r : ChangeRequest) :
    Prop where
  succeeds : (getDb (r.body rt catalogue) c).1 = .ok ()
  changes : ¬ SameRows c (c.step rt catalogue r)

/-- The transaction has appended an audit row of the actor's tenant. -/
def Audits (rt : Runtime) (catalogue : Catalogue) (c : Center) (r : ChangeRequest) : Prop :=
  ∃ rows, (c.step rt catalogue r).audits = c.audits ++ rows ∧
    ∃ row ∈ rows, row.tenantId = some r.actor.tenantId

/-! ### Endpoints without an audit record -/

section

variable {rt : Runtime} {catalogue : Catalogue} {actor : TenantActor}

theorem quiet_silently {α : Type} {m : Endpoint α} (h : Leaves Center.audits m) :
    Leaves Center.audits (silently m) :=
  leaves_bind h fun _ => leaves_pure _

theorem quiet_minLength (n : Nat) (text : String) : Leaves Center.audits (minLength n text) := by
  unfold minLength
  split
  · exact leaves_pure _
  · exact leaves_raise _

/-- An endpoint of that kind leaves the audit log as it is. -/
theorem unaudited_leaves (r : ChangeRequest) (h : r.change.audited = false) :
    Leaves Center.audits (r.body rt catalogue) := by
  obtain ⟨actor, change⟩ := r
  cases change with
  | scheduledRun => exact quiet_silently (service_leaves_audits _)
  | addSuppression body =>
      refine quiet_silently (leaves_bind (quiet_minLength _ _) fun _ => ?_)
      exact leaves_bind (service_leaves_audits _) fun _ => leaves_pure _
  | addException body =>
      refine quiet_silently (leaves_bind (quiet_minLength _ _) fun _ => ?_)
      exact leaves_bind (service_leaves_audits _) fun _ => leaves_pure _
  | promoteRule ruleId regressionGate =>
      refine quiet_silently (leaves_bind (leaves_ruleService _) fun _ => ?_)
      exact leaves_bind (leaves_ruleService _) fun _ => leaves_pure _
  | changeRuleStatus ruleId status =>
      refine quiet_silently (leaves_bind (leaves_ruleService _) fun _ => ?_)
      exact leaves_bind (leaves_ruleService _) fun _ => leaves_pure _
  | rebuildIncidents => exact service_leaves_audits _
  | validateClaim body =>
      show Leaves Center.audits (validateAiOrAnalystClaim rt actor body)
      unfold validateAiOrAnalystClaim
      split
      · exact leaves_raise _
      · exact leaves_bind (service_leaves_audits _) fun _ => service_leaves_audits _
  | custodyEvent evidenceId body => exact quiet_silently (service_leaves_audits _)
  | fromAlert | changeStatus | assignIncident | note | task | rootCause | lessons | evidence
  | rebuildGraph | updateCriticality => cases h

/-! ### Endpoints with one -/

/-- The audit rows of the actor's tenant. -/
def OfTenant (actor : TenantActor) (row : AuditLog) : Prop :=
  row.tenantId = some actor.tenantId

theorem appends_silently {α : Type} {p : AuditLog → Prop} {m : Endpoint α} (h : Appends p m) :
    Appends p (silently m) :=
  h.bind fun _ => (leaves_pure _).appendOnly

theorem appends_raise {α : Type} {p : AuditLog → Prop} (e : CenterFailure) :
    Appends p (Exec.raise e : Endpoint α) := by
  intro c a c' h
  cases h

/-- An entry of the actor's tenant, and what follows it. -/
theorem appends_entry {α : Type} {entry : AuditEntry} {f : Unit → Endpoint α}
    (hentry : entry.tenantId = some actor.tenantId) (hf : ∀ u, AppendOnly (f u)) :
    Appends (OfTenant actor) (writeAudit rt entry >>= f) := by
  refine Appends.bind ?_ hf
  intro c a c' h
  obtain ⟨rows, hrows, row, hrow, hlogs⟩ := appends_writeAudit rt entry c a c' h
  exact ⟨rows, hrows, row, hrow, hlogs.tenantId.trans hentry⟩

theorem onIncident_appends (incidentId : String) (op : IncidentOp) {entry : Edit → AuditEntry}
    (hentry : ∀ edit, (entry edit).tenantId = some actor.tenantId) :
    Appends (OfTenant actor) (onIncident rt actor incidentId op entry) := by
  refine appends_bind (service_leaves_audits _).appendOnly fun edit => ?_
  refine appends_bind (service_leaves_audits _).appendOnly fun _ => ?_
  exact appends_entry (hentry edit) fun _ => (leaves_pure _).appendOnly

theorem onIncident_appends_of_body (n : Nat) (text incidentId : String) (op : IncidentOp)
    {entry : Edit → AuditEntry} (hentry : ∀ edit, (entry edit).tenantId = some actor.tenantId) :
    Appends (OfTenant actor)
      (minLength n text >>= fun _ => onIncident rt actor incidentId op entry) :=
  appends_bind (quiet_minLength _ _).appendOnly fun _ => onIncident_appends incidentId op hentry

theorem projectUpdated_appends (entityId criticality : String) :
    Appends (OfTenant actor) (projectUpdated rt actor entityId criticality) := by
  refine appends_bind (service_leaves_audits _).appendOnly fun _ => ?_
  refine appends_bind (service_leaves_audits _).appendOnly fun updated => ?_
  refine appends_entry rfl fun _ => ?_
  cases updated with
  | none => exact (leaves_raise _).appendOnly
  | some row => exact (leaves_pure _).appendOnly

theorem updateCriticality_appends (entityId criticality : String) :
    Appends (OfTenant actor) (updateCriticality rt actor entityId criticality) := by
  refine appends_bind (leaves_attempt (service_leaves_audits _)).appendOnly fun outcome => ?_
  rcases outcome with e | (_ | row)
  · cases e with
    | service f =>
        cases f with
        | python e =>
            show Appends _ (if e.isValueError then _ else _)
            split
            · exact appends_raise _
            · exact appends_raise _
        | _ => exact appends_raise _
    | _ => exact appends_raise _
  · exact appends_raise _
  · exact projectUpdated_appends entityId criticality

/-- Where such an endpoint returns, there is a record of the actor's tenant. -/
theorem audited_appends (r : ChangeRequest) (h : r.change.audited = true) :
    Appends (OfTenant r.actor) (r.body rt catalogue) := by
  obtain ⟨actor, change⟩ := r
  cases change with
  | fromAlert alertId =>
      refine appends_silently (appends_bind (service_leaves_audits _).appendOnly fun row => ?_)
      exact appends_entry rfl fun _ => (leaves_pure _).appendOnly
  | changeStatus incidentId status =>
      exact appends_silently (onIncident_appends _ _ fun _ => rfl)
  | assignIncident incidentId assigneeUserId assigneeEmail =>
      exact appends_silently (onIncident_appends _ _ fun _ => rfl)
  | note incidentId body =>
      exact appends_silently (onIncident_appends_of_body _ _ _ _ fun _ => rfl)
  | task incidentId title =>
      exact appends_silently (onIncident_appends_of_body _ _ _ _ fun _ => rfl)
  | rootCause incidentId text =>
      exact appends_silently (onIncident_appends_of_body _ _ _ _ fun _ => rfl)
  | lessons incidentId text =>
      exact appends_silently (onIncident_appends_of_body _ _ _ _ fun _ => rfl)
  | evidence incidentId evidenceId =>
      exact appends_silently (onIncident_appends _ _ fun _ => rfl)
  | rebuildGraph =>
      refine appends_silently (appends_bind (service_leaves_audits _).appendOnly fun stats => ?_)
      exact appends_entry rfl fun _ => (leaves_pure _).appendOnly
  | updateCriticality entityId criticality =>
      exact appends_silently (updateCriticality_appends entityId criticality)
  | scheduledRun | addSuppression | addException | promoteRule | changeRuleStatus
  | rebuildIncidents | validateClaim | custodyEvent => cases h

end

/-! ### Requests -/

section

variable {rt : Runtime} {catalogue : Catalogue} {α : Type} {m : Endpoint α} {c c' : Center} {a : α}

theorem getDb_audits (h : Leaves Center.audits m) : (getDb m c).2.audits = c.audits := by
  rcases getDb_cases m c with ⟨e, t, hrun⟩ | ⟨a, c₁, c', hreturned, hflush, hrun⟩
  · rw [hrun]
  · have hwork := h c
    have hcommit := service_leaves_audits flush c₁
    rw [hreturned] at hwork
    rw [hflush] at hcommit
    rw [hrun]
    exact hcommit.trans hwork

theorem getDb_appends {p : AuditLog → Prop} (h : Appends p m) (hok : (getDb m c).1 = .ok a) :
    ∃ rows, (getDb m c).2.audits = c.audits ++ rows ∧ ∃ row ∈ rows, p row := by
  rcases getDb_cases m c with ⟨e, t, hrun⟩ | ⟨b, c₁, c', hreturned, hflush, hrun⟩
  · rw [hrun] at hok
    cases hok
  · obtain ⟨rows, hrows, hrow⟩ := h c b c₁ hreturned
    have hcommit := service_leaves_audits flush c₁
    rw [hflush] at hcommit
    rw [hrun]
    exact ⟨rows, hcommit.trans hrows, hrow⟩

end

/-- In every state that requests reach, a request that succeeds and changes a row is audited if
and only if its endpoint is one that writes a record. -/
theorem change_audited_iff (rt : Runtime) (catalogue : Catalogue) (start : Center)
    (requests : List ChangeRequest) (r : ChangeRequest)
    (h : Changing rt catalogue (Machine.run (Center.step rt catalogue) start requests) r) :
    Audits rt catalogue (Machine.run (Center.step rt catalogue) start requests) r ↔
      r.change.audited = true := by
  constructor
  · rintro ⟨rows, hrows, row, hrow, -⟩
    by_contra hnot
    have hleaves : Leaves Center.audits (r.body rt catalogue) :=
      unaudited_leaves r (by simpa using hnot)
    have hsame := getDb_audits hleaves (c := Machine.run (Center.step rt catalogue) start requests)
    have hnone : rows = [] := List.self_eq_append_right.mp (hsame.symm.trans hrows)
    rw [hnone] at hrow
    cases hrow
  · intro haudited
    exact getDb_appends (audited_appends r haudited) h.succeeds

/-! ### Samples -/

def analyst : TenantActor where
  userId := "usr_1"
  actorType := "user"
  requestId := "req_1"
  tenantId := "ten_a"

/-- A rule is silenced for one host. -/
def silencing : ChangeRequest where
  actor := analyst
  change := .addSuppression
    { ruleId := "edr.beacon", entityKey := "host", entityValue := "h", reason := "noisy" }

theorem suppression_not_audited :
    Changing sampleRuntime defaultCatalogue vacant silencing ∧
      ¬ Audits sampleRuntime defaultCatalogue vacant silencing := by
  refine ⟨⟨rfl, ?_⟩, ?_⟩
  · intro h
    have hrows := congrFun h.stored .suppressions
    cases hrows
  · rintro ⟨rows, hrows, row, hrow, -⟩
    have hnone : rows = [] := List.self_eq_append_right.mp hrows
    rw [hnone] at hrow
    cases hrow

/-- A database with one alert. -/
def alerted : Center where
  session :=
    { stored := fun t => match t with
        | .alerts =>
            [{ id := "alt_1", tenantId := "ten_a", findingId := "fnd_1", title := "Beacon"
               severity := .high, createdAt := sampleRuntime.now 0 }]
        | _ => []
      pending := [] }

def converting : ChangeRequest where
  actor := analyst
  change := .fromAlert "alt_1"

theorem change_audited_iff_converting :
    Audits sampleRuntime defaultCatalogue alerted converting := by
  have hchanging : Changing sampleRuntime defaultCatalogue
      (Machine.run (Center.step sampleRuntime defaultCatalogue) alerted []) converting := by
    refine ⟨rfl, fun h => ?_⟩
    have hrows := congrFun h.stored .incidents
    cases hrows
  exact (change_audited_iff sampleRuntime defaultCatalogue alerted [] converting hchanging).mpr rfl

end BlueTeam.Api
