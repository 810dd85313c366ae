/- GID: BlueTeam/Gateway/Route
   generality: I
   source: services/ai-gateway/app/gateway.py
   digest: The AI gateway: how a request is routed, and the ledger that all requests share. -/

import BlueTeam.BlueQL.Engine
import BlueTeam.Hashing
import BlueTeam.Python.Dict

set_option autoImplicit false
set_option relaxedAutoImplicit false

namespace BlueTeam.Json

mutual

/-- `json.dumps` with the default separators, fields in the order they have. -/
def dumps : Json → List Char
  | .arr items => '[' :: dumpsItems items true ++ [']']
  | .obj fields => '\x7b' :: dumpsFields fields true ++ ['\x7d']
  | value => value.render

def dumpsItems : List Json → Bool → List Char
  | [], _ => []
  | item :: items, first =>
      (if first then [] else [',', ' ']) ++ item.dumps ++ dumpsItems items false

def dumpsFields : List (String × Json) → Bool → List Char
  | [], _ => []
  | (key, value) :: fields, first =>
      (if first then [] else [',', ' ']) ++ quote key ++ ':' :: ' ' :: value.dumps ++
        dumpsFields fields false

end

end BlueTeam.Json

namespace BlueTeam.Gateway

open BlueTeam.Python

inductive Decision
  | deterministicOnly | denyPolicy | denyBudget | «local» | frontier | cached
  deriving DecidableEq, Repr

structure AIRequest where
  tenantId : String
  feature : String
  taskType : String
  contextRefs : List String
  requestedCapability : String
  maxCost : PyFloat
  maxTokens : Int
  sensitivity : String
  structuredOutputSchema : JsonObject
  prompt : String := ""

structure AIDecision where
  decision : Decision
  reason : String
  provider : Option String := none
  model : Option String := none
  redactedPrompt : Option String := none
  costEstimate : PyFloat := .finite 0
  cached : Bool := false
  deriving DecidableEq, Repr

structure AuditEntry where
  tenantId : String
  feature : String
  taskType : String
  decision : Decision
  reason : String
  contextRefs : List String
  schema : String
  deriving DecidableEq, Repr

structure GatewayLedger where
  calls : Nat := 0
  denials : Nat := 0
  deterministic : Nat := 0
  spend : PyFloat := .finite 0
  cacheHits : Nat := 0
  audit : List AuditEntry := []
  deriving DecidableEq, Repr

/-- The globals `_LEDGER`, `_CACHE` and `_BUDGET`. -/
structure GatewayState where
  ledger : GatewayLedger := {}
  cache : Dict String AIDecision := []
  budget : PyFloat := .finite 5
  deriving DecidableEq, Repr

/-- `spend + max_cost`; sums of finite floats are exact here. -/
def addFloat : PyFloat → PyFloat → PyFloat
  | .finite a, .finite b => .finite (a + b)
  | .nan, _ | _, .nan | .inf, .negInf | .negInf, .inf => .nan
  | .inf, _ | _, .inf => .inf
  | .negInf, _ | _, .negInf => .negInf

/-- The schema comes as the keys it requires. -/
def validateStructured (payload : JsonObject) (required : List String) : List String :=
  (required.filter fun key => (payload.lookup key).isNone).map fun key => "missing:" ++ key

/-- `_audit` -/
def GatewayState.audit (g : GatewayState) (request : AIRequest) (decision : AIDecision) : GatewayState :=
  { g with
    ledger.audit := g.ledger.audit ++
      [{ tenantId := request.tenantId
         feature := request.feature
         taskType := request.taskType
         decision := decision.decision
         reason := decision.reason
         contextRefs := request.contextRefs
         schema := takeChars 200
           (String.ofList (Json.obj request.structuredOutputSchema).sorted.dumps) }] }

def cacheKey (request : AIRequest) (redacted : String) : String :=
  sha256Hex (request.tenantId ++ ":" ++ request.feature ++ ":" ++ request.taskType ++ ":" ++
    redacted)

/-- A decision that no model is called, which is counted, cached and audited. -/
def GatewayState.keepOffline (g : GatewayState) (request : AIRequest) (redacted reason : String) :
    AIDecision × GatewayState :=
  let decision : AIDecision :=
    { decision := .deterministicOnly, reason := reason, redactedPrompt := some redacted }
  (decision,
    { g with
      ledger.deterministic := g.ledger.deterministic + 1
      cache := g.cache.set (cacheKey request redacted) decision }.audit request decision)

/-- A denial, which is counted and audited. -/
def GatewayState.deny (g : GatewayState) (request : AIRequest) (redacted : String) (kind : Decision)
    (reason : String) : AIDecision × GatewayState :=
  let decision : AIDecision :=
    { decision := kind, reason := reason, redactedPrompt := some redacted }
  (decision, { g with ledger.denials := g.ledger.denials + 1 }.audit request decision)

def criticalTasks : List String :=
  ["detect", "correlate", "score", "ingest", "contain"]

/-- `route`; `redact` is `re.sub` of the secret patterns. -/
def route (redact : String → String) (g : GatewayState) (request : AIRequest) (aiEnabled : Bool)
    (budget : Option PyFloat) : AIDecision × GatewayState :=
  let redacted := redact request.prompt
  let g := { g with ledger.calls := g.ledger.calls + 1, budget := budget.getD g.budget }
  match g.cache.get? (cacheKey request redacted) with
  | some found =>
      let decision : AIDecision :=
        { found with redactedPrompt := some redacted, costEstimate := .finite 0, cached := true }
      (decision,
        { g with ledger.cacheHits := g.ledger.cacheHits + 1 }.audit request decision)
  | none =>
      if request.taskType ∈ criticalTasks then
        g.keepOffline request redacted "Security-critical path must not call a model"
      else if aiEnabled = false then
        g.keepOffline request redacted "AI gateway disabled — operate offline"
      else if request.sensitivity ∈ ["secret", "restricted"] then
        g.deny request redacted .denyPolicy "Sensitivity class is not eligible for model dispatch"
      else if BlueQL.numberLt g.budget request.maxCost ∨
          BlueQL.numberLt g.budget (addFloat g.ledger.spend request.maxCost) then
        g.deny request redacted .denyBudget "Token/cost budget exceeded"
      else g.deny request redacted .denyPolicy "No approved provider configured"

/-- What `ledger` shows: the counters, the budget and the last twenty audit entries. -/
structure LedgerView where
  calls : Nat
  denials : Nat
  deterministic : Nat
  spend : PyFloat
  cacheHits : Nat
  budget : PyFloat
  auditTail : List AuditEntry
  deriving DecidableEq, Repr

def GatewayState.view (g : GatewayState) : LedgerView where
  calls := g.ledger.calls
  denials := g.ledger.denials
  deterministic := g.ledger.deterministic
  spend := g.ledger.spend
  cacheHits := g.ledger.cacheHits
  budget := g.budget
  auditTail := g.ledger.audit.drop (g.ledger.audit.length - 20)

/-- Every call leaves one audit entry, under the tenant that made it. -/
theorem route_audit (redact : String → String) (g : GatewayState) (request : AIRequest)
    (aiEnabled : Bool) (budget : Option PyFloat) :
    ∃ entry : AuditEntry, entry.tenantId = request.tenantId ∧
      (route redact g request aiEnabled budget).2.ledger.audit = g.ledger.audit ++ [entry] := by
  unfold route
  dsimp only
  split
  · exact ⟨_, rfl, rfl⟩
  · split_ifs
    all_goals exact ⟨_, rfl, rfl⟩

end BlueTeam.Gateway
