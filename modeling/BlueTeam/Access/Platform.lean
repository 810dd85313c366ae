/- GID: BlueTeam/Access/Platform
   generality: I
   source: services/api/app/api/detections.py, incidents.py, evidence.py, graph.py, intel.py,
     events.py, connectors.py, auth.py, services/api/app/core/deps.py
   digest: The platform under its routes; what no service breaks outlasts every history. -/

import BlueTeam.Access.Entitlement
import BlueTeam.Api.Audited
import BlueTeam.Api.Intake
import BlueTeam.Api.Intel
import BlueTeam.Lib.Tenancy
import BlueTeam.Services.Upkeep

set_option autoImplicit false
set_option relaxedAutoImplicit false

namespace BlueTeam.Access

open BlueTeam.Python BlueTeam.Schema BlueTeam.Lib BlueTeam.Lib.Exec BlueTeam.Services BlueTeam.Rules
open BlueTeam.Api

/-- The routes that change what a tenant has. -/
inductive Route
  | change (change : Change)
  | ingest (events : List JsonObject)
  | syslog (lines : List String)
  | webhook (body : WebhookRequest)
  | wazuhIngest (alerts : List JsonObject)
  /-- reading the list, which lets indicators expire -/
  | iocs (includeExpired : Bool)
  | createIoc (body : IocBody)
  | readIoc (iocId : String)
  | deactivateIoc (iocId : String)
  | expireIocs

/-- The `Permission` that the endpoint of a change depends on. -/
def permissionOfChange : Change → String
  | .scheduledRun | .addSuppression _ | .addException _ | .promoteRule _ _
  | .changeRuleStatus _ _ => "detections:write"
  | .rebuildIncidents | .fromAlert _ | .changeStatus _ _ | .assignIncident _ _ _ | .note _ _
  | .task _ _ | .rootCause _ _ | .lessons _ _ | .evidence _ _
  | .updateCriticality _ _ => "incidents:write"
  | .validateClaim _ => "evidence:read"
  | .custodyEvent _ _ => "evidence:write"
  | .rebuildGraph => "events:ingest"

def Route.permission : Route → String
  | .change made => permissionOfChange made
  | .ingest _ | .syslog _ | .webhook _ | .wazuhIngest _ => "events:ingest"
  | .iocs _ | .readIoc _ => "intel:read"
  | .createIoc _ | .deactivateIoc _ | .expireIocs => "intel:write"

/-- What the endpoints read of their actor. -/
def TenantActor.forServices (actor : TenantActor) : Api.TenantActor :=
  ⟨actor.toRequester, actor.tenantId⟩

def Route.body (rt : Runtime) (catalogue : Catalogue) (actor : Api.TenantActor) :
    Route → Endpoint Unit
  | .change made => (ChangeRequest.mk actor made).body rt catalogue
  | .ingest events => silently (ingestEvents rt actor events)
  | .syslog lines => silently (ingestSyslog rt actor lines)
  | .webhook body => silently (ingestWebhook rt actor body)
  | .wazuhIngest alerts => silently (Api.wazuhIngest rt actor alerts)
  | .iocs includeExpired => silently (getIocs rt actor includeExpired)
  | .createIoc body => silently (Api.createIoc rt actor body)
  | .readIoc iocId => silently (Api.readIoc rt actor iocId)
  | .deactivateIoc iocId => silently (deactivate rt actor iocId)
  | .expireIocs => silently (Api.expireIocs rt actor)

/-- The database of the platform. -/
structure Platform where
  center : Center
  apiKeys : List ApiKey := []

def Platform.accounts (p : Platform) : Accounts where
  users := p.center.users
  memberships := p.center.memberships
  apiKeys := p.apiKeys

def Platform.rows (p : Platform) (tenantId : String) (t : Table) : List t.Row :=
  p.center.session.stored.own tenantId t

inductive Step
  | request (headers : Headers) (requestId : String) (route : Route)
  | login (r : LoginRequest)
  /-- whatever becomes of the accounts: no route writes them -/
  | administer (users : List User) (memberships : List Membership) (apiKeys : List ApiKey)

section

variable (tokens : Tokens) (security : Security) (rt : Runtime) (catalogue : Catalogue)

/-- A request that its dependency refuses does not reach its endpoint. -/
def Platform.step (p : Platform) : Step → Platform
  | .request headers requestId route =>
      match permit tokens rt p.accounts route.permission headers requestId with
      | .error _ => p
      | .ok actor =>
          { p with center := (getDb (route.body rt catalogue actor.forServices) p.center).2 }
  | .login r => { p with center := (getDb (Api.login security rt r) p.center).2 }
  | .administer users memberships apiKeys =>
      { center := { p.center with users := users, memberships := memberships }
        apiKeys := apiKeys }

/-- The step makes another of the tenant's rows in a table. -/
def Platform.Changes (p : Platform) (step : Step) (tenantId : String) (t : Table) : Prop :=
  (p.step tokens security rt catalogue step).rows tenantId t ≠ p.rows tenantId t

def Platform.run (p : Platform) (steps : List Step) : Platform :=
  Machine.run (Platform.step tokens security rt catalogue) p steps

end

/-! ### Endpoints -/

/-- Where the endpoint returns, it has kept the invariant; where it raises, its transaction is
rolled back. -/
def Upholds {α : Type} (I : Session schema → Prop) (m : Endpoint α) : Prop :=
  Triple (fun c => I c.session) m (fun _ c => I c.session) (fun _ _ => True)

section

variable {rt : Runtime} {catalogue : Catalogue} {tenantId : String} {I : Session schema → Prop}
  {actor : Api.TenantActor} {α β : Type}

theorem upholds_pure (a : α) : Upholds I (pure a : Endpoint α) :=
  triple_pure fun _ h => h

theorem upholds_raise (e : CenterFailure) : Upholds I (raise e : Endpoint α) :=
  triple_raise fun _ _ => trivial

theorem upholds_bind {m : Endpoint α} {f : α → Endpoint β} (hm : Upholds I m)
    (hf : ∀ a, Upholds I (f a)) : Upholds I (m >>= f) :=
  triple_bind hm hf

theorem upholds_silently {m : Endpoint α} (h : Upholds I m) : Upholds I (silently m) :=
  upholds_bind h fun _ => upholds_pure _

theorem upholds_minLength (n : Nat) (text : String) : Upholds I (minLength n text) := by
  unfold minLength
  split
  · exact upholds_pure _
  · exact upholds_raise _

theorem upholds_batchLength (items : List α) : Upholds I (batchLength items) := by
  unfold batchLength
  split
  · exact upholds_pure _
  · exact upholds_raise _

theorem upholds_service {m : Service α} (h : Upkeeps I m) : Upholds I (service m) :=
  triple_service (Q := fun _ => I) h fun _ _ => trivial

/-- Two services in turn, of which the second relies on the first. -/
theorem upholds_both {γ : Type} {find : Service α} {use : α → Service β} {rest : α → β → Endpoint γ}
    (h : UpkeepsBoth I find use) (hrest : ∀ a b, Upholds I (rest a b)) :
    Upholds I (service find >>= fun a => service (use a) >>= rest a) := by
  obtain ⟨found, hfind, huse⟩ := h
  refine triple_bind (Q := fun a c => found a c.session)
    (triple_service hfind fun _ _ => trivial) fun a => ?_
  exact triple_bind (triple_service (huse a) fun _ _ => trivial) (hrest a)

theorem upholds_ruleService (m : RuleService α) : Upholds I (ruleService m) :=
  triple_zoom (fun _ _ _ hc _ => hc) fun _ _ _ _ _ => trivial

theorem upholds_of_leaves {m : Endpoint α} (h : Leaves Center.session m) : Upholds I m := by
  constructor
  intro c hc
  have hsame := h c
  split
  · rename_i hrun
    rw [hrun] at hsame
    rw [show _ = c.session from hsame]
    exact hc
  · trivial

/-- An audit row is no row of the session: it is written between two flushes. -/
theorem upholds_writeAudit (hflush : ∀ s s', I s → s.flush = .ok s' → I s')
    (entry : Audit.AuditEntry) : Upholds I (writeAudit rt entry) :=
  triple_writeAudit rt entry hflush (fun _ _ => trivial) fun _ => trivial

theorem serializeIoc_upholds (row : IndicatorOfCompromise) : Upholds I (serializeIoc rt row) := by
  refine upholds_bind (upholds_service (upkeeps_draw _)) fun now => ?_
  exact upholds_bind (upholds_service (upkeeps_compute _)) fun expired => upholds_pure _

variable (h : Upheld rt actor.tenantId I)

include h

theorem onIncident_upholds (incidentId : String) (op : IncidentOp)
    (entry : Edit → Audit.AuditEntry) : Upholds I (onIncident rt actor incidentId op entry) := by
  refine upholds_both (h.edit _ rfl) fun edit _ => ?_
  exact upholds_bind (upholds_writeAudit h.flush _) fun _ => upholds_pure _

theorem projectUpdated_upholds (entityId criticality : String) :
    Upholds I (projectUpdated rt actor entityId criticality) := by
  refine upholds_bind (upholds_service h.projectWindow) fun _ => ?_
  refine upholds_bind (upholds_service (getEntity_upkeeps _ entityId)) fun updated => ?_
  refine upholds_bind (upholds_writeAudit h.flush _) fun _ => ?_
  cases updated with
  | none => exact upholds_raise _
  | some row => exact upholds_pure _

theorem updateCriticality_upholds (entityId criticality : String) :
    Upholds I (updateCriticality rt actor entityId criticality) := by
  -- a refused value is caught, and another exception is raised for it
  refine triple_bind (Q := fun outcome c => (∃ row, outcome = .ok (some row)) → I c.session) ?_
    fun outcome => ?_
  · refine triple_attempt ?_
    exact Triple.conseq (upholds_service (h.setCriticality entityId criticality))
      (fun _ hc => hc) (fun _ _ hc _ => hc) (by simp)
  · rcases outcome with e | (_ | row)
    · cases e with
      | service f =>
          cases f with
          | python e =>
              dsimp only
              split
              · exact triple_raise fun _ _ => trivial
              · exact triple_raise fun _ _ => trivial
          | _ => exact triple_raise fun _ _ => trivial
      | _ => exact triple_raise fun _ _ => trivial
    · exact triple_raise fun _ _ => trivial
    · exact Triple.pre (projectUpdated_upholds h entityId criticality) fun c hc => hc ⟨row, rfl⟩

theorem change_upholds (made : Change) :
    Upholds I ((ChangeRequest.mk actor made).body rt catalogue) := by
  cases made with
  | scheduledRun => exact upholds_silently (upholds_service (h.runScheduled _))
  | addSuppression body =>
      refine upholds_silently (upholds_bind (upholds_minLength _ _) fun _ => ?_)
      exact upholds_bind (upholds_service (h.createSuppression _ _ _ _ _ _)) fun _ =>
        upholds_pure _
  | addException body =>
      refine upholds_silently (upholds_bind (upholds_minLength _ _) fun _ => ?_)
      exact upholds_bind (upholds_service (h.createException _ _ _ _ _)) fun _ => upholds_pure _
  | promoteRule ruleId regressionGate =>
      refine upholds_silently (upholds_bind (upholds_ruleService _) fun _ => ?_)
      exact upholds_bind (upholds_ruleService _) fun _ => upholds_pure _
  | changeRuleStatus ruleId status =>
      refine upholds_silently (upholds_bind (upholds_ruleService _) fun _ => ?_)
      exact upholds_bind (upholds_ruleService _) fun _ => upholds_pure _
  | rebuildIncidents => exact upholds_service h.persistStorylinesAndIncidents
  | fromAlert alertId =>
      refine upholds_silently (upholds_bind (upholds_service (h.createFromAlert _ _)) fun row => ?_)
      exact upholds_bind (upholds_writeAudit h.flush _) fun _ => upholds_pure _
  | changeStatus incidentId status => exact upholds_silently (onIncident_upholds h _ _ _)
  | assignIncident incidentId assigneeUserId assigneeEmail =>
      exact upholds_silently (onIncident_upholds h _ _ _)
  | note incidentId body =>
      exact upholds_silently (upholds_bind (upholds_minLength _ _) fun _ =>
        onIncident_upholds h _ _ _)
  | task incidentId title =>
      exact upholds_silently (upholds_bind (upholds_minLength _ _) fun _ =>
        onIncident_upholds h _ _ _)
  | rootCause incidentId text =>
      exact upholds_silently (upholds_bind (upholds_minLength _ _) fun _ =>
        onIncident_upholds h _ _ _)
  | lessons incidentId text =>
      exact upholds_silently (upholds_bind (upholds_minLength _ _) fun _ =>
        onIncident_upholds h _ _ _)
  | evidence incidentId evidenceId => exact upholds_silently (onIncident_upholds h _ _ _)
  | validateClaim body =>
      show Upholds I (validateAiOrAnalystClaim rt actor body)
      unfold validateAiOrAnalystClaim
      split
      · exact upholds_raise _
      · exact upholds_bind (upholds_service (upkeeps_compute _)) fun claim =>
          upholds_service (validateClaim_upkeeps rt _ claim)
  | custodyEvent evidenceId body =>
      exact upholds_silently (upholds_service (h.appendCustody _ _ _ _))
  | rebuildGraph =>
      refine upholds_silently (upholds_bind (upholds_service h.projectWindow) fun stats => ?_)
      exact upholds_bind (upholds_writeAudit h.flush _) fun _ => upholds_pure _
  | updateCriticality entityId criticality =>
      exact upholds_silently (updateCriticality_upholds h entityId criticality)

theorem takeIn_upholds (payloads : List JsonObject) (entry : IngestResult → Audit.AuditEntry) :
    Upholds I (takeIn rt actor payloads entry) := by
  refine upholds_bind (upholds_service (h.ingestPayloads _ payloads)) fun result => ?_
  exact upholds_bind (upholds_writeAudit h.flush _) fun _ => upholds_pure _

theorem getIocs_upholds (includeExpired : Bool) :
    Upholds I (getIocs rt actor includeExpired) := by
  have hrows : Upkeeps I
      (if includeExpired then listAllIocs actor.tenantId else listIocs rt actor.tenantId) := by
    split
    · exact listAllIocs_upkeeps _
    · exact listIocs_upkeeps rt _
  refine upholds_bind (upholds_service h.expireStale) fun _ => ?_
  refine upholds_bind (upholds_service hrows) fun rows => ?_
  refine triple_loop (fun _ _ (c : Center) => I c.session) (fun replies row _ => ?_) [] rows
  exact upholds_bind (serializeIoc_upholds row) fun reply => upholds_pure _

/-- What no service for the actor's tenant breaks, no endpoint breaks. -/
theorem body_upholds (route : Route) : Upholds I (route.body rt catalogue actor) := by
  cases route with
  | change made => exact change_upholds h made
  | ingest events =>
      exact upholds_silently (upholds_bind (upholds_batchLength _) fun _ => takeIn_upholds h _ _)
  | syslog lines =>
      exact upholds_silently (upholds_bind (upholds_batchLength _) fun _ => takeIn_upholds h _ _)
  | webhook body =>
      exact upholds_silently (upholds_bind (upholds_service (upkeeps_compute _)) fun _ =>
        takeIn_upholds h _ _)
  | wazuhIngest alerts => exact upholds_silently (takeIn_upholds h _ _)
  | iocs includeExpired => exact upholds_silently (getIocs_upholds h includeExpired)
  | createIoc body =>
      refine upholds_silently (upholds_bind (upholds_service (h.upsertIoc _)) fun row => ?_)
      exact upholds_bind (upholds_writeAudit h.flush _) fun _ => serializeIoc_upholds row
  | readIoc iocId =>
      exact upholds_silently (upholds_bind (upholds_service (getIoc_upkeeps _ iocId))
        serializeIoc_upholds)
  | deactivateIoc iocId =>
      refine upholds_silently (upholds_both (h.deactivateIoc iocId actor.userId) fun _ changed => ?_)
      exact upholds_bind (upholds_writeAudit h.flush _) fun _ => serializeIoc_upholds changed
  | expireIocs =>
      refine upholds_silently (upholds_bind (upholds_service h.expireStale) fun count => ?_)
      exact upholds_bind (upholds_writeAudit h.flush _) fun _ => upholds_pure _

end

section

variable {I : Session schema → Prop} {rt : Runtime} {α : Type}

/-- A login writes audit rows only. -/
theorem login_upholds (hflush : ∀ s s', I s → s.flush = .ok s' → I s') (security : Security)
    (r : LoginRequest) : Upholds I (login security rt r) := by
  have hread : Leaves Center.session
      (attempt (authenticatePassword security rt r.email r.password)) :=
    leaves_attempt (leaves_authenticatePassword Center.session r.email r.password)
  have hmemberships (userId : String) : Upholds I (membershipsOf userId) :=
    upholds_of_leaves (leaves_gets _)
  unfold login
  split
  · refine upholds_bind (upholds_of_leaves hread) fun outcome => ?_
    cases outcome with
    | ok user =>
        have htoken : Upholds I (issueToken security rt user) := by
          refine upholds_bind (hmemberships _) fun memberships => ?_
          exact upholds_bind (upholds_service (upkeeps_draw _)) fun now => upholds_pure _
        refine upholds_bind htoken fun token => ?_
        refine upholds_bind (hmemberships _) fun memberships => ?_
        refine upholds_bind ?_ fun _ => upholds_pure _
        exact triple_loop (fun _ _ (c : Center) => I c.session)
          (fun _ tenantId _ => upholds_writeAudit hflush _) () _
    | error e => exact upholds_bind (upholds_writeAudit hflush _) fun _ => upholds_raise _
  · exact upholds_raise _

/-- A transaction of such an endpoint leaves nothing waiting and keeps the invariant. -/
theorem getDb_upholds (hflush : ∀ s s', I s → s.flush = .ok s' → I s') {m : Endpoint α}
    (h : Upholds I m) {c : Center} (hpending : c.session.pending = []) (hc : I c.session) :
    (getDb m c).2.session.pending = [] ∧ I (getDb m c).2.session := by
  rcases getDb_cases m c with ⟨e, t, hrun⟩ | ⟨a, c₁, c', hreturned, hcommit, hrun⟩
  · rw [hrun]
    exact ⟨hpending, hc⟩
  · rw [hrun]
    have hwritten := service_flush_session hcommit
    exact ⟨(Session.flush_ok hwritten).1, hflush _ _ (h.ok hc hreturned) hwritten⟩

end

/-! ### Histories -/

section

variable {tokens : Tokens} {security : Security} {rt : Runtime} {catalogue : Catalogue}
  {p : Platform} {I : Session schema → Prop}

/-- Nothing waits to be written, and the invariant holds. -/
def Platform.Upheld (p : Platform) (I : Session schema → Prop) : Prop :=
  p.center.session.pending = [] ∧ I p.center.session

theorem step_upheld (h : ∀ tenantId, Services.Upheld rt tenantId I) (hp : p.Upheld I)
    (step : Step) : (p.step tokens security rt catalogue step).Upheld I := by
  have hflush := (h "").flush
  cases step with
  | request headers requestId route =>
      unfold Platform.step
      dsimp only
      split
      · exact hp
      · exact getDb_upholds hflush (body_upholds (h _) route) hp.1 hp.2
  | login r => exact getDb_upholds hflush (login_upholds hflush security r) hp.1 hp.2
  | administer users memberships apiKeys => exact hp

/-- What no service of any tenant breaks outlasts every history of the platform. -/
theorem run_upheld (h : ∀ tenantId, Services.Upheld rt tenantId I) (hp : p.Upheld I)
    (history : List Step) : (p.run tokens security rt catalogue history).Upheld I :=
  Machine.run_inv (fun p : Platform => p.Upheld I) (fun _ step hp => step_upheld h hp step) hp _

end

end BlueTeam.Access
