/- GID: BlueTeam/Broker/Submit
   generality: I
   source: packages/execution-broker/blueteam_broker/broker.py, registry.py,
     packages/schemas/blueteam_schemas/actions.py
   digest: The execution broker: what it checks, what it executes, and that nothing slips through. -/

import BlueTeam.Broker.Rego
import BlueTeam.Lib.Exec

set_option autoImplicit false
set_option relaxedAutoImplicit false

namespace BlueTeam.Broker

open BlueTeam.Python BlueTeam.Playbook BlueTeam.Lib

inductive Language
  | python | powershell | bash | go | rust | sigma | yara | sql | blueql | rego | ebpf | cpp
  deriving DecidableEq, Repr

def Language.text : Language → String
  | .python => "python"
  | .powershell => "powershell"
  | .bash => "bash"
  | .go => "go"
  | .rust => "rust"
  | .sigma => "sigma"
  | .yara => "yara"
  | .sql => "sql"
  | .blueql => "blueql"
  | .rego => "rego"
  | .ebpf => "ebpf"
  | .cpp => "cpp"

structure ActionSpec where
  actionType : String
  language : Language
  tier : Int
  readOnly : Bool
  requiredPermission : String
  allowedParams : List String
  scriptPath : Option String := none
  rollbackAvailable : Bool := false

structure ActionRequest where
  actionId : String
  actionType : String
  tenantId : String
  target : JsonObject := []
  params : JsonObject := []
  dryRun : Bool := true
  permissions : List String := []

inductive ActionStatus
  | planned | denied | awaitingApproval | executed | skipped | failed | verified
  deriving DecidableEq, Repr

def ActionStatus.text : ActionStatus → String
  | .planned => "planned"
  | .denied => "denied"
  | .awaitingApproval => "awaiting_approval"
  | .executed => "executed"
  | .skipped => "skipped"
  | .failed => "failed"
  | .verified => "verified"

/-- The statuses that the model accepts. -/
def ActionStatus.all : List ActionStatus :=
  [.planned, .denied, .awaitingApproval, .executed, .skipped, .failed, .verified]

structure ActionResult where
  actionId : String
  actionType : String
  tenantId : String
  policyDecision : PolicyDecision
  approvalStatus : Option String := none
  executor : String
  rollbackAvailable : Bool := false
  status : ActionStatus
  dryRun : Bool
  outputs : JsonObject := []
  skipReason : Option Json := none
  error : Option String := none

inductive BrokerError
  | blueTeamError (code message : String) (status : Nat)
  | python (e : Exn)

/-- What is done on the way: `_execute` is entered, a handler is called, a process is started. -/
inductive Effect
  | execute
  | handler (actionType : String)
  | script (command : List String)
  deriving DecidableEq, Repr

/-- A finished process. -/
structure Completed where
  returncode : Int
  stdout : String
  stderr : String

/-- What the broker takes from outside: the files and programs of the machine, and the engines
of the repository that only compute. -/
structure Host where
  rt : Runtime
  toFloat : Json → Except Exn PyFloat
  fileExists : String → Bool
  fileSha256 : String → String
  which : String → Option String
  subprocess : List String → Except Exn Completed
  lastChars : Nat → String → String
  scanB64 : JsonObject → Except Exn JsonObject
  explainQuery : String → Except Exn JsonObject
  describeSql : String → Except Exn JsonObject

structure ExecutionBroker where
  host : Host
  registry : List (String × ActionSpec)
  handlers : List (String × (ActionRequest → ActionSpec → Except Exn JsonObject)) := []
  policy : PolicyInput → PolicyResult

abbrev Brokering (α : Type) := Exec (List Effect) BrokerError α

def effect (e : Effect) : Brokering Unit :=
  Exec.modify fun trace => trace ++ [e]

def computed {α : Type} (r : Except Exn α) : Brokering α :=
  Exec.lift (r.mapError .python)

def forbiddenActionPrefixes : List String :=
  ["shell.exec", "powershell.invoke_raw", "bash.eval", "os.system"]

namespace ExecutionBroker

variable (b : ExecutionBroker)

/-- The keys of a request that its action does not take. -/
def extraOf (spec : ActionSpec) (request : ActionRequest) : List String :=
  (request.params.map (·.1) ++ request.target.map (·.1)).filter (· ∉ spec.allowedParams)

/-- The checks of `submit` before any policy is asked. -/
def admission (request : ActionRequest) : Except BrokerError ActionSpec :=
  if forbiddenActionPrefixes.any fun pre => request.actionType.startsWith pre then
    .error (.blueTeamError "ACTION_FORBIDDEN"
      "Arbitrary command execution is not a registered action" 403)
  else
    match b.registry.lookup request.actionType with
    | none => .error (.blueTeamError "ACTION_UNREGISTERED"
        ("Action " ++ request.actionType ++ " is not registered") 400)
    | some spec =>
        let extra := extraOf spec request
        if !extra.isEmpty then
          .error (.blueTeamError "ACTION_SCHEMA" ("Unsupported parameters: " ++
            b.host.rt.repr (.arr ((sortedTexts (toSet extra)).map .str))) 422)
        else if spec.requiredPermission ∉ request.permissions ∧
            "admin:platform" ∉ request.permissions then
          .error (.blueTeamError "PERMISSION_DENIED"
            ("Missing permission " ++ spec.requiredPermission) 403)
        else .ok spec

/-- `action_type.split(".", 1)[0]` -/
def domainOf (actionType : String) : String :=
  String.ofList (actionType.toList.takeWhile (· ≠ '.'))

def policyInput (request : ActionRequest) (spec : ActionSpec) : Except Exn PolicyInput := do
  let confidence ← b.host.toFloat ((request.params.lookup "confidence").getD (.int 0))
  pure
    { actionType := request.actionType
      tier := spec.tier
      readOnly := spec.readOnly
      dryRun := request.dryRun
      environment := (request.params.lookup "environment").getD (.str "unknown")
      confidence := confidence
      autoContainment := (Json.get request.params "auto_containment").truthy
      domain := (request.params.lookup "domain").getD (.str (domainOf request.actionType))
      requestedByAi := (Json.get request.params "requested_by_ai").truthy }

/-- `ActionTier(spec.tier)` -/
def tierOf (spec : ActionSpec) : Except Exn ActionTier :=
  match ActionTier.ofInt spec.tier with
  | some tier => .ok tier
  | none => .error (.valueError (toString spec.tier ++ " is not a valid ActionTier"))

def result (request : ActionRequest) (spec : ActionSpec) (decision : PolicyDecision)
    (status : ActionStatus) (outputs : JsonObject) (skipReason : Option Json)
    (error approval : Option String) : ActionResult :=
  { actionId := request.actionId
    actionType := request.actionType
    tenantId := request.tenantId
    policyDecision := decision
    approvalStatus := approval
    executor := spec.language.text
    rollbackAvailable := spec.rollbackAvailable
    status := status
    dryRun := request.dryRun
    outputs := outputs
    skipReason := skipReason
    error := error }

/-- A numeric option of a script. -/
def intOption (request : ActionRequest) (key flag : String) : Except Exn (List String) :=
  match request.params.lookup key with
  | none => .ok []
  | some v => (v.toInt b.host.rt).map fun n => [flag, toString n]

def safeCommand (spec : ActionSpec) (path binary : String) (request : ActionRequest) :
    Except Exn (List String) :=
  if spec.language = .powershell then do
    let limit ← b.intOption request "limit" "-Limit"
    let events ← b.intOption request "max_events" "-MaxEvents"
    pure ([binary, "-NoProfile", "-NonInteractive", "-File", path] ++
      (if request.dryRun then ["-DryRun"] else []) ++ limit ++ events)
  else do
    let limit ← b.intOption request "limit" "--limit"
    pure ([binary, path] ++ (if request.dryRun then ["--dry-run"] else []) ++ limit)

/-- `subprocess.run(cmd, ...)` -/
def startScript (command : List String) : Brokering Completed := do
  effect (.script command)
  computed (b.host.subprocess command)

def planned (request : ActionRequest) (path runtime : String) : JsonObject :=
  [("script", .str path), ("script_sha256", .str (b.host.fileSha256 path)),
   ("runtime", .str runtime), ("args", .obj request.params), ("dry_run", .bool request.dryRun),
   ("invoke_expression", .bool false), ("arbitrary_shell", .bool false)]

def planOrRunScript (request : ActionRequest) (spec : ActionSpec) : Brokering JsonObject :=
  match spec.scriptPath.filter b.host.fileExists with
  | none => pure [("skip_reason", .str "script missing"), ("status", .str "skipped")]
  | some path =>
      let runtime := if spec.language = .powershell then "pwsh" else "bash"
      let binary := if spec.language = .powershell then
          (b.host.which runtime).or (b.host.which "powershell")
        else b.host.which "bash"
      let plan := b.planned request path runtime
      match binary with
      | none => pure (plan ++ [("skip_reason", .str (runtime ++ " not installed")),
          ("status", .str "skipped")])
      | some binary =>
          if request.dryRun then pure (plan ++ [("status", .str "planned")])
          else do
            let command ← computed (b.safeCommand spec path binary request)
            let completed ← b.startScript command
            pure (Json.merge plan
              [("dry_run", .bool false), ("exit_code", .int completed.returncode),
               ("stdout", .str (b.host.lastChars 4000 completed.stdout)),
               ("stderr", .str (b.host.lastChars 1000 completed.stderr)),
               ("status", .str (if completed.returncode = 0 then "executed" else "failed"))])

/-- `str(params.get(key, default))` -/
def paramText (request : ActionRequest) (key default : String) : String :=
  ((request.params.lookup key).getD (.str default)).text b.host.rt

/-- The policy question that the action of language `rego` asks. -/
def proposedInput (request : ActionRequest) : Except Exn PolicyInput := do
  let confidence ← b.host.toFloat ((request.params.lookup "confidence").getD (.int 0))
  pure
    { actionType := b.paramText request "proposed_action" "unknown"
      tier := if (b.paramText request "proposed_action" "").startsWith "isolate" then 2 else 0
      readOnly := false
      dryRun := request.dryRun
      environment := (request.params.lookup "environment").getD (.str "unknown")
      confidence := confidence
      autoContainment := (Json.get request.params "auto_containment").truthy
      domain := .str ""
      requestedByAi := false }

def decisionText : PolicyDecision → String
  | .allow => "ALLOW"
  | .deny => "DENY"
  | .requireApproval => "REQUIRE_APPROVAL"

def asDict (r : PolicyResult) : JsonObject :=
  [("decision", .str (decisionText r.decision)), ("reason", .str r.reason),
   ("policy", .str r.policy), ("engine", .str r.engine)]

/-- What a language does that has neither a handler nor a script. -/
def runEngine (request : ActionRequest) (spec : ActionSpec) : Except Exn JsonObject :=
  match spec.language with
  | .yara => b.host.scanB64 request.params
  | .blueql => b.host.explainQuery (b.paramText request "query" "")
  | .sql => b.host.describeSql (b.paramText request "query_id" "")
  | .rego => (b.proposedInput request).map fun input => asDict (b.policy input)
  | language => .ok [("planned", .bool true), ("executor", .str language.text)]

/-- `_execute` -/
def execute (request : ActionRequest) (spec : ActionSpec) : Brokering JsonObject := do
  effect .execute
  match b.handlers.lookup spec.actionType with
  | some handler => do
      effect (.handler spec.actionType)
      computed (handler request spec)
  | none =>
      if spec.language = .powershell ∨ spec.language = .bash then b.planOrRunScript request spec
      else computed (b.runEngine request spec)

/-- The status of an executed action; the model refuses a text that is none. -/
def statusOf (outputs : JsonObject) : Except Exn ActionStatus :=
  let value := (outputs.lookup "status").getD (.str "executed")
  match ActionStatus.all.find? fun s => value = .str s.text with
  | some status => .ok status
  | none => .error (.validationError "ActionResult" [("status", some value)])

/-- `submit`, once the decision is made. -/
def carryOut (request : ActionRequest) (spec : ActionSpec) (decision : PolicyDecision)
    (reason : String) : Brokering ActionResult :=
  if decision = .deny then pure (result request spec decision .denied [] none (some reason) none)
  else if decision = .requireApproval ∧ !request.dryRun then
    pure (result request spec decision .awaitingApproval [] none none (some "required"))
  else if request.dryRun || spec.readOnly then do
    let outputs ← b.execute request spec
    let status ← computed (if request.dryRun then .ok .planned else statusOf outputs)
    pure (result request spec decision status outputs (outputs.lookup "skip_reason") none none)
  else pure (result request spec decision .denied [] none
    (some "Non-read-only execution requires approval") none)

/-- The playbook's tier policy overrides an `ALLOW`. -/
def combine (playbook decision : PolicyDecision) : PolicyDecision :=
  if playbook = .requireApproval ∧ decision = .allow then .requireApproval else decision

def submit (request : ActionRequest) : Brokering ActionResult := do
  let spec ← Exec.lift (b.admission request)
  let tier ← computed (tierOf spec)
  let input ← computed (b.policyInput request spec)
  let policy := b.policy input
  b.carryOut request spec
    (combine (evaluateAction request.actionType (some tier)) policy.decision) policy.reason

/-! ### The gate -/

variable {b : ExecutionBroker} {request : ActionRequest} {spec : ActionSpec}

/-- What a request is checked for before any policy is asked. -/
structure Cleared (b : ExecutionBroker) (request : ActionRequest) (spec : ActionSpec) : Prop where
  notForbidden : ∀ pre ∈ forbiddenActionPrefixes, request.actionType.startsWith pre = false
  registered : b.registry.lookup request.actionType = some spec
  params : ∀ key ∈ request.params.map (·.1), key ∈ spec.allowedParams
  target : ∀ key ∈ request.target.map (·.1), key ∈ spec.allowedParams
  permitted : spec.requiredPermission ∈ request.permissions ∨
    "admin:platform" ∈ request.permissions

/-- What a request that is executed for real has passed. -/
structure Gate (b : ExecutionBroker) (request : ActionRequest) (spec : ActionSpec) : Prop
    extends Cleared b request spec where
  readOnly : spec.readOnly = true
  tierZero : spec.tier = 0
  notTier1 : request.actionType ∉ tier1Actions
  notTier2 : request.actionType ∉ tier2Actions
  allowed : ∃ input, b.policyInput request spec = .ok input ∧ (b.policy input).decision = .allow

/-- The request was turned away: by a raise, or with a status that says so. -/
def Refused : Except BrokerError ActionResult → Prop
  | .error _ => True
  | .ok result => result.status = .denied ∨ result.status = .awaitingApproval

theorem admission_ok (h : b.admission request = .ok spec) : Cleared b request spec := by
  unfold admission at h
  split_ifs at h with hforbidden
  split at h
  · cases h
  · rename_i spec' hspec
    dsimp only at h
    split_ifs at h with hextra hpermission
    obtain rfl : spec' = spec := Except.ok.inj h
    have hnone : extraOf spec' request = [] := by simpa using hextra
    have hkeys : ∀ key ∈ request.params.map (·.1) ++ request.target.map (·.1),
        key ∈ spec'.allowedParams := by
      intro key hkey
      have := List.filter_eq_nil_iff.mp hnone key hkey
      simpa using this
    refine ⟨?_, hspec, ?_, ?_, ?_⟩
    · simpa using hforbidden
    · intro key hkey
      exact hkeys key (List.mem_append_left _ hkey)
    · intro key hkey
      exact hkeys key (List.mem_append_right _ hkey)
    · by_contra hnot
      exact hpermission (not_or.mp hnot)

theorem policyInput_ok {input : PolicyInput} (h : b.policyInput request spec = .ok input) :
    input.actionType = request.actionType ∧
      input.requestedByAi = (Json.get request.params "requested_by_ai").truthy := by
  unfold policyInput at h
  rcases hc : b.host.toFloat ((request.params.lookup "confidence").getD (.int 0)) with e | c
  · rw [hc] at h
    cases h
  · rw [hc] at h
    obtain rfl := Except.ok.inj h
    exact ⟨rfl, rfl⟩

theorem tierOf_t0 (h : tierOf spec = .ok .t0) : spec.tier = 0 := by
  unfold tierOf ActionTier.ofInt at h
  split at h
  · rename_i tier htier
    split at htier <;> simp_all
  · cases h

/-- The override lets an `ALLOW` through only at tier 0 and off both tier lists. -/
theorem combine_allow {actionType : String} {tier : ActionTier} {decision : PolicyDecision}
    (h : combine (evaluateAction actionType (some tier)) decision = .allow) :
    decision = .allow ∧ tier = .t0 ∧ actionType ∉ tier1Actions ∧ actionType ∉ tier2Actions := by
  unfold combine at h
  split_ifs at h with hover
  subst h
  have hnot : evaluateAction actionType (some tier) ≠ .requireApproval :=
    fun hr => hover ⟨hr, rfl⟩
  unfold evaluateAction at hnot
  split_ifs at hnot with h₂ h₁
  · exact absurd rfl hnot
  · exact absurd rfl hnot
  · obtain ⟨hlist₂, htier₂⟩ := not_or.mp h₂
    obtain ⟨hlist₁, htier₁⟩ := not_or.mp h₁
    refine ⟨rfl, ?_, hlist₁, hlist₂⟩
    cases tier with
    | t0 => rfl
    | t1 => exact absurd rfl htier₁
    | t2 => exact absurd rfl htier₂

/-- The override never turns a denial into anything else. -/
theorem combine_deny (playbook : PolicyDecision) : combine playbook .deny = .deny := by
  simp [combine]

/-- `submit` either raises before anything is done, or carries the combined decision out for a
cleared request. -/
theorem submit_cases (b : ExecutionBroker) (request : ActionRequest) (trace : List Effect) :
    (∃ e, b.submit request trace = (.error e, trace)) ∨
      ∃ spec tier input, Cleared b request spec ∧ tierOf spec = .ok tier ∧
        b.policyInput request spec = .ok input ∧
        b.submit request trace = b.carryOut request spec
          (combine (evaluateAction request.actionType (some tier)) (b.policy input).decision)
          (b.policy input).reason trace := by
  rcases hadmission : b.admission request with e | spec
  · refine .inl ⟨e, ?_⟩
    simp only [submit, Exec.bind_run, Exec.lift, hadmission, Exec.andThen]
  rcases htier : tierOf spec with e | tier
  · refine .inl ⟨.python e, ?_⟩
    simp only [submit, computed, Exec.bind_run, Exec.lift, hadmission, htier, Exec.andThen,
      Except.mapError]
  rcases hinput : b.policyInput request spec with e | input
  · refine .inl ⟨.python e, ?_⟩
    simp only [submit, computed, Exec.bind_run, Exec.lift, hadmission, htier, hinput, Exec.andThen,
      Except.mapError]
  · refine .inr ⟨spec, tier, input, admission_ok hadmission, htier, hinput, ?_⟩
    simp only [submit, computed, Exec.bind_run, Exec.lift, hadmission, htier, hinput, Exec.andThen,
      Except.mapError]

theorem carryOut_deny (b : ExecutionBroker) (request : ActionRequest) (spec : ActionSpec)
    (reason : String) (trace : List Effect) :
    ∃ r, b.carryOut request spec .deny reason trace = (.ok r, trace) ∧ r.status = .denied :=
  ⟨_, rfl, rfl⟩

/-- For real, only an allowed read-only action gets past the decision. -/
theorem carryOut_live {decision : PolicyDecision} (hlive : request.dryRun = false)
    (hnot : ¬ (decision = .allow ∧ spec.readOnly = true)) (reason : String)
    (trace : List Effect) :
    ∃ r, b.carryOut request spec decision reason trace = (.ok r, trace) ∧
      (r.status = .denied ∨ r.status = .awaitingApproval) := by
  cases decision with
  | deny => exact ⟨_, rfl, .inl rfl⟩
  | requireApproval =>
      refine ⟨result request spec .requireApproval .awaitingApproval [] none none
        (some "required"), ?_, .inr rfl⟩
      simp [carryOut, hlive]
  | allow =>
      have hwrites : spec.readOnly = false := by simpa using hnot
      refine ⟨result request spec .allow .denied [] none
        (some "Non-read-only execution requires approval") none, ?_, .inl rfl⟩
      simp [carryOut, hlive, hwrites]

/-- A request that is not a dry run and does not pass the gate leaves no trace. -/
theorem submit_refused (hlive : request.dryRun = false) (hgate : ¬ ∃ spec, Gate b request spec)
    (trace : List Effect) :
    (b.submit request trace).2 = trace ∧ Refused (b.submit request trace).1 := by
  rcases submit_cases b request trace with ⟨e, he⟩ | ⟨spec, tier, input, hcleared, htier, hinput,
    hsubmit⟩
  · rw [he]
    exact ⟨rfl, trivial⟩
  · have hnot : ¬ (combine (evaluateAction request.actionType (some tier))
        (b.policy input).decision = .allow ∧ spec.readOnly = true) := by
      intro ⟨hallow, hro⟩
      obtain ⟨hdecision, rfl, h₁, h₂⟩ := combine_allow hallow
      exact hgate ⟨spec, hcleared, hro, tierOf_t0 htier, h₁, h₂, input, hinput, hdecision⟩
    obtain ⟨r, hr, hstatus⟩ := carryOut_live (b := b) hlive hnot (b.policy input).reason trace
    rw [hsubmit, hr]
    exact ⟨rfl, hstatus⟩

/-- A dry run plans its script and starts nothing. -/
theorem planOrRunScript_dry (hdry : request.dryRun = true) (trace : List Effect) :
    (b.planOrRunScript request spec trace).2 = trace := by
  unfold planOrRunScript
  cases spec.scriptPath.filter b.host.fileExists with
  | none => rfl
  | some path =>
      dsimp only
      cases (if spec.language = .powershell then
          (b.host.which (if spec.language = .powershell then "pwsh" else "bash")).or
            (b.host.which "powershell") else b.host.which "bash") with
      | none => rfl
      | some binary =>
          dsimp only
          rw [if_pos hdry]
          rfl

/-- The fallback policy denies what an AI asks for. -/
theorem subsetEvaluate_ai {rt : Runtime} {input : PolicyInput}
    (h : input.requestedByAi = true ∨ input.actionType.startsWith "ai." = true ∨
      input.actionType.startsWith "llm." = true) :
    (subsetEvaluate rt input).decision = .deny := by
  unfold subsetEvaluate
  dsimp only
  split
  · rfl
  · rw [if_pos]
    rcases h with h | h | h <;> simp [h]

/-- With the fallback policy, a request of an AI leaves no trace, dry run or not. -/
theorem submit_ai (hpolicy : b.policy = subsetEvaluate b.host.rt)
    (hai : (Json.get request.params "requested_by_ai").truthy = true ∨
      request.actionType.startsWith "ai." = true ∨ request.actionType.startsWith "llm." = true)
    (trace : List Effect) : (b.submit request trace).2 = trace := by
  rcases submit_cases b request trace with ⟨e, he⟩ | ⟨spec, tier, input, -, -, hinput, hsubmit⟩
  · rw [he]
  · obtain ⟨htype, hrequested⟩ := policyInput_ok hinput
    have hdeny : (b.policy input).decision = .deny := by
      rw [hpolicy]
      apply subsetEvaluate_ai
      rw [htype, hrequested]
      exact hai
    rw [hsubmit, hdeny, combine_deny]
    obtain ⟨r, hr, -⟩ := carryOut_deny b request spec (b.policy input).reason trace
    rw [hr]

/-- The execution gate: for real, only a request that passed every check, at tier 0 and read-only
and with an `ALLOW`, gets to `_execute`; every other is refused with nothing done. A dry run starts
no script, and the fallback policy never lets an AI's request through. -/
theorem broker_execution_gate (b : ExecutionBroker) (request : ActionRequest) :
    (request.dryRun = false →
      (Effect.execute ∈ (b.submit request []).2 → ∃ spec, Gate b request spec) ∧
      ((¬ ∃ spec, Gate b request spec) →
        (b.submit request []).2 = [] ∧ Refused (b.submit request []).1)) ∧
    (request.dryRun = true → ∀ spec trace, (b.planOrRunScript request spec trace).2 = trace) ∧
    (b.policy = subsetEvaluate b.host.rt →
      ((Json.get request.params "requested_by_ai").truthy = true ∨
        request.actionType.startsWith "ai." = true ∨
        request.actionType.startsWith "llm." = true) →
      Effect.execute ∉ (b.submit request []).2) := by
  refine ⟨fun hlive => ⟨?_, ?_⟩, ?_, ?_⟩
  · intro hexecute
    by_contra hgate
    rw [(submit_refused hlive hgate []).1] at hexecute
    cases hexecute
  · intro hgate
    exact submit_refused hlive hgate []
  · intro hdry spec trace
    exact planOrRunScript_dry hdry trace
  · intro hpolicy hai
    rw [submit_ai hpolicy hai]
    exact List.not_mem_nil

/-- A broker with one action of the default registry, on a machine that has its script. -/
def processesBroker : ExecutionBroker :=
  { host :=
      { rt := sampleRuntime
        toFloat := fun _ => .ok (.finite 0)
        fileExists := fun _ => true
        fileSha256 := fun _ => ""
        which := some
        subprocess := fun _ => .ok ⟨0, "", ""⟩
        lastChars := fun n text => String.ofList (text.toList.drop (text.length - n))
        scanB64 := .ok
        explainQuery := fun _ => .ok []
        describeSql := fun _ => .ok [] }
    registry := [("collect.linux.processes",
      { actionType := "collect.linux.processes"
        language := .bash
        tier := 0
        readOnly := true
        requiredPermission := "response:tier0"
        allowedParams := ["limit"]
        scriptPath := some "linux/collect_processes.sh" })]
    policy := subsetEvaluate sampleRuntime }

def processesRequest : ActionRequest :=
  { actionId := "act_1"
    actionType := "collect.linux.processes"
    tenantId := "t1"
    params := [("limit", .int 5)]
    dryRun := false
    permissions := ["response:tier0"] }

theorem broker_execution_gate_processes :
    (processesBroker.submit processesRequest []).2 =
        [.execute, .script ["bash", "linux/collect_processes.sh", "--limit", "5"]] ∧
      ∃ spec, Gate processesBroker processesRequest spec :=
  ⟨by decide +kernel,
    ((broker_execution_gate processesBroker processesRequest).1 rfl).1 (by decide +kernel)⟩

end ExecutionBroker

end BlueTeam.Broker
