/- GID: BlueTeam/Api/Routes
   generality: I
   source: services/api/app/api/playbooks.py, improve.py, ai_analyst.py
   digest: The routes whose stores live in the process: playbooks, improvement candidates and the AI
     analyst. -/

import BlueTeam.Gateway.Route
import BlueTeam.Improve.Engine
import BlueTeam.Playbook.Catalogue
import BlueTeam.Schema.Records

set_option autoImplicit false
set_option relaxedAutoImplicit false

namespace BlueTeam.Api

open BlueTeam.Python BlueTeam.Schema BlueTeam.Playbook BlueTeam.Improve BlueTeam.Gateway

/-- What the process takes from outside: `str` of a list, `re.sub` of the secret patterns, and the
setting `ai_enabled`. -/
structure Host where
  repr : Json → String
  redact : String → String
  aiEnabled : Bool

/-- What a request draws while it is served: a `uuid4()`, and readings of the clock. A history fixes
the draws of each request, so that a request has the same with and without the others. -/
structure Draws where
  uuid : String
  startedAt : String
  finishedAt : String
  deriving DecidableEq

/-- The surroundings of the engine during one request. -/
def Draws.env (d : Draws) (e : PlaybookEngine) : Env where
  executor := defaultExecutor
  newId _ := "pbr_" ++ d.uuid
  now n := if n = e.ticks then d.startedAt else d.finishedAt

structure RunBody where
  playbookId : String
  dryRun : Bool := true
  idempotencyKey : Option String := none

structure ApproveBody where
  stepIds : List String := []

structure CandidateBody where
  ruleId : String
  rationale : String
  aiSuggested : Bool := false
  metrics : JsonObject := []

structure AnalystBody where
  task : String := "incident_summary"
  evidenceIds : List String := []
  question : String := ""

/-! ### Playbooks -/

/-- What the engine raises goes through the route. -/
def served (result : Playbook.Result) : Except RouteError PlaybookRun × PlaybookEngine :=
  (result.1.mapError .engine, result.2)

theorem served_ok {result : Playbook.Result} {run : PlaybookRun}
    (h : (served result).1 = .ok run) : result.1 = .ok run := by
  unfold served at h
  cases hresult : result.1 with
  | error error =>
      rw [hresult] at h
      cases h
  | ok other =>
      rw [hresult] at h
      exact congrArg Except.ok (Except.ok.inj h)

def runPlaybook (d : Draws) (e : PlaybookEngine) (tenantId : String) (body : RunBody) :
    Except RouteError PlaybookRun × PlaybookEngine :=
  match getPlaybook body.playbookId with
  | .error error => (.error error, e)
  | .ok playbook =>
      served (e.run (d.env e) playbook tenantId body.dryRun body.idempotencyKey)

def runNotFound (runId : String) : RouteError :=
  .blueTeamError "NOT_FOUND" ("Playbook run " ++ runId ++ " not found") 404

/-- The tenant of the caller is not looked at. -/
def getRun (e : PlaybookEngine) (runId : String) : Except RouteError PlaybookRun :=
  match e.get runId with
  | none => .error (runNotFound runId)
  | some run => .ok run

/-- `body.step_ids or prior.approval_required` -/
def ApproveBody.orWaiting (body : ApproveBody) (prior : PlaybookRun) : List String :=
  if body.stepIds = [] then prior.approvalRequired else body.stepIds

/-- The tenant of the caller is not looked at, other than for the audit log. -/
def approveRun (d : Draws) (e : PlaybookEngine) (runId : String) (body : ApproveBody) :
    Except RouteError PlaybookRun × PlaybookEngine :=
  match e.get runId with
  | none => (.error (runNotFound runId), e)
  | some prior =>
      match getPlaybook prior.playbookId with
      | .error error => (.error error, e)
      | .ok playbook => served (e.approve (d.env e) runId (body.orWaiting prior) playbook)

/-! ### Improvement candidates -/

def createCandidate (d : Draws) (e : ImprovementEngine) (body : CandidateBody) :
    ImprovementCandidate × ImprovementEngine :=
  e.create ("imp_" ++ d.uuid) d.startedAt body.ruleId body.rationale body.metrics body.aiSuggested

def listCandidates (e : ImprovementEngine) : List JsonObject :=
  e.candidates.values.map ImprovementCandidate.asDict

/-! ### The AI analyst -/

def offlineSummary (host : Host) (evidenceIds : List String) (task question : String) :
    JsonObject :=
  let refs := if evidenceIds = [] then ["none"] else evidenceIds
  [("task", .str task),
    ("mode", .str "deterministic_offline"),
    ("summary", .str ("Offline analyst response for " ++ task ++
      ". Grounded only on evidence refs " ++ host.repr (.arr (refs.map Json.str)) ++
      ". No model was invoked.")),
    ("suggested_queries", .arr
      [.obj [("dsl", .str "blueql"),
        ("query", .str "events where severity in ['high','critical'] | limit 50")],
      .obj [("dsl", .str "structured"),
        ("query", .obj [("category", .str "authentication"), ("outcome", .str "failure")])]]),
    ("unknowns", .arr
      [.str "Live model summarisation unavailable while AI gateway is offline"]),
    ("question", .str question),
    ("fabricated", .bool false)]

/-- The ids of the tenant's evidence, in a table as the request finds it. -/
def knownEvidence (tenantId : String) (evidence : List Evidence) : List String :=
  toSet ((evidence.filter fun row => row.tenantId = tenantId).map Evidence.id)

/-- The references of the question that no evidence of the tenant has. -/
def missingEvidence (tenantId : String) (evidence : List Evidence) (body : AnalystBody) :
    List String :=
  body.evidenceIds.filter fun id => id ∉ knownEvidence tenantId evidence

structure AnalystResponse where
  decision : Decision
  reason : String
  provider : Option String
  knownEvidence : List String
  result : JsonObject
  schemaErrors : List String
  ledger : LedgerView

def analystRequest (tenantId : String) (body : AnalystBody) : AIRequest where
  tenantId := tenantId
  feature := "soc-analyst"
  taskType := "summarise"
  contextRefs := body.evidenceIds
  requestedCapability := body.task
  maxCost := .finite (1 / 2)
  maxTokens := 800
  sensitivity := "low"
  structuredOutputSchema := [("required", .arr [.str "summary", .str "fabricated"])]
  prompt := body.question

def aiAnalyst (host : Host) (g : GatewayState) (tenantId : String) (body : AnalystBody)
    (evidence : List Evidence) : Except RouteError AnalystResponse × GatewayState :=
  let missing := missingEvidence tenantId evidence body
  if missing ≠ [] then
    (.error (.blueTeamError "INVALID_EVIDENCE_REF"
      ("unsupported evidence references: " ++ host.repr (.arr (missing.map Json.str))) 422), g)
  else
    let routed := route host.redact g (analystRequest tenantId body) host.aiEnabled none
    let payload := offlineSummary host body.evidenceIds body.task body.question
    (.ok
      { decision := routed.1.decision
        reason := routed.1.reason
        provider := routed.1.provider
        knownEvidence := (sortedTexts (knownEvidence tenantId evidence)).take 20
        result := payload
        schemaErrors := validateStructured payload ["summary", "fabricated"]
        ledger := routed.2.view }, routed.2)

/-! ### The process -/

inductive Route
  | runPlaybook (body : RunBody)
  | getRun (runId : String)
  | approveRun (runId : String) (body : ApproveBody)
  | createCandidate (body : CandidateBody)
  | listCandidates
  | aiAnalyst (body : AnalystBody) (evidence : List Evidence)

/-- A request of a tenant's user who has the permission that the route asks for. -/
structure Request where
  tenantId : String
  route : Route
  draws : Draws

/-- The body of a response with status 200. -/
inductive Body
  | fields (body : JsonObject)
  | listing (items : List JsonObject) (count : Nat)
  | analyst (body : AnalystResponse)

/-- The globals `_ENGINE`, `ENGINE` and those of the gateway, which all tenants share. -/
structure Process where
  engine : PlaybookEngine := {}
  improvement : ImprovementEngine := {}
  gateway : GatewayState := {}

def Process.withEngine (p : Process)
    (result : Except RouteError PlaybookRun × PlaybookEngine) : Except RouteError Body × Process :=
  (result.1.map fun run => .fields run.asDict, { p with engine := result.2 })

def handle (host : Host) (p : Process) (r : Request) : Except RouteError Body × Process :=
  match r.route with
  | .runPlaybook body => p.withEngine (runPlaybook r.draws p.engine r.tenantId body)
  | .getRun runId => p.withEngine (getRun p.engine runId, p.engine)
  | .approveRun runId body => p.withEngine (approveRun r.draws p.engine runId body)
  | .createCandidate body =>
      let created := createCandidate r.draws p.improvement body
      (.ok (.fields created.1.asDict), { p with improvement := created.2 })
  | .listCandidates =>
      let items := listCandidates p.improvement
      (.ok (.listing items items.length), p)
  | .aiAnalyst body evidence =>
      let asked := aiAnalyst host p.gateway r.tenantId body evidence
      (asked.1.map .analyst, { p with gateway := asked.2 })

end BlueTeam.Api
