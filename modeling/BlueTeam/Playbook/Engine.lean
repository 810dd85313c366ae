/- GID: BlueTeam/Playbook/Engine
   generality: I
   source: packages/playbook-sdk/blueteam_playbook/engine.py
   digest: The playbook engine: one run, approval, and the idempotency cache. -/

import BlueTeam.Json
import BlueTeam.Playbook.Policy
import Mathlib.Data.List.AList
import Mathlib.Data.List.Sort
import Mathlib.Data.String.Basic

set_option autoImplicit false
set_option relaxedAutoImplicit false

namespace BlueTeam.Playbook

structure PlaybookStepDef where
  id : String
  actionType : String
  dependsOn : List String := []
  tier : Int := 0
  retries : Int := 0
  params : JsonObject := []
  rollbackAction : Option String := none
  deriving DecidableEq

structure PlaybookDef where
  playbookId : String
  name : String
  steps : List PlaybookStepDef
  description : String := ""

inductive StepStatus
  | success | skipped | failed | awaitingApproval | denied
  deriving DecidableEq, Repr

structure StepRun where
  stepId : String
  actionType : String
  status : StepStatus
  attempts : Nat := 0
  outputs : JsonObject := []
  error : Option String := none
  rollbackHook : Option String := none
  deriving DecidableEq

inductive RunStatus
  | running | failed | awaitingApproval | completed
  deriving DecidableEq, Repr

structure PlaybookRun where
  runId : String
  playbookId : String
  tenantId : String
  status : RunStatus
  dryRun : Bool
  idempotencyKey : String
  steps : List StepRun := []
  approvalRequired : List String := []
  startedAt : String := ""
  finishedAt : Option String := none

/-- The arguments of one executor call. -/
structure ExecCall where
  actionType : String
  params : JsonObject
  dryRun : Bool
  deriving DecidableEq

/-- An executor may answer differently at every call: it is given all earlier calls.
`.error text` is a raised `Exception` whose `str` is `text`. -/
abbrev Executor := List ExecCall → ExecCall → Except String JsonObject

/-- What an engine does that can be observed from outside, in order. The step a call is
made for is not an argument of the executor; it is kept here for the specifications. -/
inductive TraceEvent
  | call (stepId : String) (request : ExecCall) (answer : Except String JsonObject)
  | record (stepRun : StepRun)

def TraceEvent.request? : TraceEvent → Option ExecCall
  | .call _ request _ => some request
  | .record _ => none

/-- The surroundings of an engine: its executor, `new_id("pbr")` and
`utcnow().isoformat()` as the values their successive calls give. -/
structure Env where
  executor : Executor
  newId : Nat → String
  now : Nat → String

/-- The local variables of `run` while its loops are going, with the trace of this run. -/
structure RunState where
  completed : List String := []
  pending : List PlaybookStepDef
  steps : List StepRun := []
  approvalRequired : List String := []
  trace : List TraceEvent := []

/-- What the loops of a `run` call read: its parameters, the executor and the calls that
executor has seen before this run. -/
structure RunConfig where
  executor : Executor
  earlier : List ExecCall
  dryRun : Bool
  approvedSteps : List String

def RunConfig.request (cfg : RunConfig) (step : PlaybookStepDef) : ExecCall :=
  ⟨step.actionType, step.params, cfg.dryRun⟩

/-- What the retry loop leaves in `attempts`, `last_error` and `outputs`. -/
structure Attempted where
  attempts : Nat
  lastError : Option String
  outputs : JsonObject
  trace : List TraceEvent

/-- `while attempts <= step.retries`, with the iterations left as the recursion argument. -/
def attemptLoop (cfg : RunConfig) (step : PlaybookStepDef) :
    Nat → Nat → Option String → List TraceEvent → Attempted
  | 0, attempts, lastError, trace => ⟨attempts, lastError, [], trace⟩
  | left + 1, attempts, _, trace =>
      match cfg.executor (cfg.earlier ++ trace.filterMap TraceEvent.request?) (cfg.request step) with
      | .ok outputs =>
          ⟨attempts + 1, none, outputs, trace ++ [.call step.id (cfg.request step) (.ok outputs)]⟩
      | .error text =>
          attemptLoop cfg step left (attempts + 1) (some text)
            (trace ++ [.call step.id (cfg.request step) (.error text)])

/-- How the body of the inner `for` loop ends for one step. -/
inductive Flow
  | next (progress : Bool) (st : RunState)
  | returned (st : RunState)
  | raised (st : RunState)

/-- `del pending[step_id]`. -/
def RunState.take (st : RunState) (step : PlaybookStepDef) : RunState :=
  { st with pending := st.pending.filter (fun item => item.id ≠ step.id) }

/-- `run.steps.append(...)`. -/
def RunState.append (st : RunState) (stepRun : StepRun) : RunState :=
  { st with steps := st.steps ++ [stepRun], trace := st.trace ++ [.record stepRun] }

def awaitingRun (step : PlaybookStepDef) : StepRun :=
  { stepId := step.id, actionType := step.actionType, status := .awaitingApproval,
    attempts := 0, rollbackHook := step.rollbackAction }

def deniedRun (step : PlaybookStepDef) : StepRun :=
  { stepId := step.id, actionType := step.actionType, status := .denied, attempts := 1 }

def failedRun (step : PlaybookStepDef) (out : Attempted) : StepRun :=
  { stepId := step.id, actionType := step.actionType, status := .failed,
    attempts := out.attempts, error := out.lastError, rollbackHook := step.rollbackAction }

def successRun (step : PlaybookStepDef) (out : Attempted) : StepRun :=
  { stepId := step.id, actionType := step.actionType, status := .success,
    attempts := out.attempts, outputs := out.outputs, rollbackHook := step.rollbackAction }

def RunState.await (st : RunState) (step : PlaybookStepDef) : RunState :=
  { st.append (awaitingRun step) with approvalRequired := st.approvalRequired ++ [step.id] }

def RunState.fail (st : RunState) (step : PlaybookStepDef) (out : Attempted) : RunState :=
  { st with trace := out.trace }.append (failedRun step out)

def RunState.succeed (st : RunState) (step : PlaybookStepDef) (out : Attempted) : RunState :=
  { { st with trace := out.trace }.append (successRun step out) with
    completed := st.completed ++ [step.id] }

/-- The part of the loop body that runs once a step is allowed. -/
def executeStep (cfg : RunConfig) (st : RunState) (step : PlaybookStepDef) : Flow :=
  let out := attemptLoop cfg step (step.retries + 1).toNat 0 none st.trace
  -- `if last_error:` is false for `None` and for the empty text alike
  if out.lastError.getD "" ≠ "" then .returned (st.fail step out)
  else .next true (st.succeed step out)

/-- One iteration of `for step_id, step in list(pending.items())`. -/
def visit (cfg : RunConfig) (st : RunState) (step : PlaybookStepDef) : Flow :=
  if step.dependsOn.any (fun dep => dep ∉ st.completed) then .next false st
  else
    match ActionTier.ofInt step.tier with
    | none => .raised (st.take step)
    | some tier =>
      let decision := evaluateAction step.actionType (some tier)
      if decision = .requireApproval ∧ cfg.dryRun = false ∧ step.id ∉ cfg.approvedSteps then
        .next true ((st.take step).await step)
      else if decision = .deny then .returned ((st.take step).append (deniedRun step))
      else executeStep cfg (st.take step) step

/-- The inner `for` loop over a snapshot of the pending steps. -/
def pass (cfg : RunConfig) : List PlaybookStepDef → Bool → RunState → Flow
  | [], progress, st => .next progress st
  | step :: rest, progress, st =>
      match visit cfg st step with
      | .next moved st => pass cfg rest (progress || moved) st
      | .returned st => .returned st
      | .raised st => .raised st

/-- How the scheduling loop of a run ends. -/
inductive LoopEnd
  | drained (st : RunState)
  | returned (st : RunState)
  | raised (st : RunState)
  | outOfFuel (st : RunState)

/-- `while pending:`, with a bound on the number of passes. -/
def scheduleLoop (cfg : RunConfig) : Nat → RunState → LoopEnd
  | 0, st => .outOfFuel st
  | fuel + 1, st =>
      if st.pending.isEmpty then .drained st
      else
        match pass cfg st.pending false st with
        | .next true st => scheduleLoop cfg fuel st
        | .next false st => .drained st
        | .returned st => .returned st
        | .raised st => .raised st

/-- `pending[step.id] = step`: a repeated id keeps its place and takes the new definition. -/
def putStep (pending : List PlaybookStepDef) (step : PlaybookStepDef) : List PlaybookStepDef :=
  if pending.any (fun item => item.id = step.id) then
    pending.map (fun item => if item.id = step.id then step else item)
  else pending ++ [step]

/-- `{step.id: step for step in playbook.steps}`. -/
def pendingOf (steps : List PlaybookStepDef) : List PlaybookStepDef :=
  steps.foldl putStep []

abbrev Dict (β : Type) := AList (fun _ : String => β)

structure PlaybookEngine where
  runs : Dict PlaybookRun := ∅
  byIdempotency : Dict String := ∅
  trace : List TraceEvent := []
  ticks : Nat := 0

inductive EngineError
  | valueError
  | keyError (key : String)
  | outOfFuel
  deriving DecidableEq, Repr

def idempotencyKeyOf (playbook : PlaybookDef) (tenantId : String) : Option String → String
  | some key => if key = "" then playbook.playbookId ++ ":" ++ tenantId ++ ":auto" else key
  | none => playbook.playbookId ++ ":" ++ tenantId ++ ":auto"

def PlaybookEngine.store (e : PlaybookEngine) (run : PlaybookRun) : PlaybookEngine :=
  { e with
    runs := e.runs.insert run.runId run
    byIdempotency := e.byIdempotency.insert run.idempotencyKey run.runId }

def dagFailure : StepRun :=
  { stepId := "dag", actionType := "playbook.dag", status := .failed,
    error := some "Unresolved dependencies or cycle" }

/-- The three-way test after the scheduling loop. -/
def settle (st : RunState) : RunStatus × RunState :=
  if st.approvalRequired ≠ [] then (.awaitingApproval, st)
  else if st.pending ≠ [] then (.failed, st.append dagFailure)
  else (.completed, st)

/-- The engine's result: exceptions leave the effects made so far behind. -/
abbrev Result := Except EngineError PlaybookRun × PlaybookEngine

/-- Setting `status` and `finished_at`, `self._store(run)` and `return run`. -/
def PlaybookEngine.finish (env : Env) (e : PlaybookEngine) (playbook : PlaybookDef)
    (tenantId : String) (dryRun : Bool) (key : String) (status : RunStatus) (st : RunState) :
    Result :=
  let run : PlaybookRun :=
    { runId := env.newId e.ticks, playbookId := playbook.playbookId, tenantId := tenantId,
      status := status, dryRun := dryRun, idempotencyKey := key, steps := st.steps,
      approvalRequired := st.approvalRequired, startedAt := env.now e.ticks,
      finishedAt := some (env.now (e.ticks + 1)) }
  (.ok run, { e with trace := e.trace ++ st.trace, ticks := e.ticks + 2 }.store run)

def PlaybookEngine.config (env : Env) (e : PlaybookEngine) (dryRun : Bool)
    (approvedSteps : List String) : RunConfig :=
  ⟨env.executor, e.trace.filterMap TraceEvent.request?, dryRun, approvedSteps⟩

/-- The part of `run` after the idempotency lookup has missed. -/
def PlaybookEngine.start (env : Env) (e : PlaybookEngine) (playbook : PlaybookDef)
    (tenantId : String) (dryRun : Bool) (key : String) (approvedSteps : List String) : Result :=
  let pending := pendingOf playbook.steps
  match scheduleLoop (e.config env dryRun approvedSteps) (pending.length + 1)
      { pending := pending } with
  | .drained st => e.finish env playbook tenantId dryRun key (settle st).1 (settle st).2
  | .returned st => e.finish env playbook tenantId dryRun key .failed st
  | .raised st => (.error .valueError, { e with trace := e.trace ++ st.trace, ticks := e.ticks + 1 })
  | .outOfFuel st => (.error .outOfFuel, { e with trace := e.trace ++ st.trace })

def PlaybookEngine.run (env : Env) (e : PlaybookEngine) (playbook : PlaybookDef)
    (tenantId : String) (dryRun : Bool := true) (idempotencyKey : Option String := none)
    (approvedSteps : List String := []) : Result :=
  let key := idempotencyKeyOf playbook tenantId idempotencyKey
  match e.byIdempotency.lookup key with
  | some runId =>
      match e.runs.lookup runId with
      | some existing => (.ok existing, e)
      | none => (.error (.keyError runId), e)
  | none => e.start env playbook tenantId dryRun key approvedSteps

/-- `f"{prior.idempotency_key}:approved:{','.join(sorted(step_ids))}"`. -/
def approvalKey (priorKey : String) (stepIds : List String) : String :=
  priorKey ++ ":approved:" ++ String.intercalate "," (stepIds.insertionSort (· ≤ ·))

def PlaybookEngine.approve (env : Env) (e : PlaybookEngine) (runId : String)
    (stepIds : List String) (playbook : PlaybookDef) : Result :=
  match e.runs.lookup runId with
  | none => (.error (.keyError runId), e)
  | some prior =>
      { e with byIdempotency := e.byIdempotency.erase prior.idempotencyKey }.run env playbook
        prior.tenantId prior.dryRun (some (approvalKey prior.idempotencyKey stepIds))
        (stepIds ++ prior.approvalRequired)

/-- `_default_executor`. -/
def defaultExecutor : Executor := fun _ call => .ok
  [("action_type", .str call.actionType), ("params", .obj call.params),
    ("dry_run", .bool call.dryRun),
    ("status", .str (if call.dryRun then "planned" else "executed")),
    ("note", .str "Default playbook executor — wire broker for live actions.")]

def PlaybookEngine.get (e : PlaybookEngine) (runId : String) : Option PlaybookRun :=
  e.runs.lookup runId

end BlueTeam.Playbook
