/- GID: BlueTeam/Broker/Rego
   generality: I
   source: packages/rego-engine/blueteam_rego/engine.py, opa.py,
     security-languages/rego/policy/core.rego
   digest: The response policy as OPA evaluates it and as the fallback does. -/

import BlueTeam.Playbook.Policy
import BlueTeam.Python.Runtime

set_option autoImplicit false
set_option relaxedAutoImplicit false

namespace BlueTeam.Broker

open BlueTeam.Python BlueTeam.Playbook

/-- The input document that `ExecutionBroker.submit` builds. -/
structure PolicyInput where
  actionType : String
  tier : Int
  readOnly : Bool
  dryRun : Bool
  environment : Json
  confidence : PyFloat
  autoContainment : Bool
  domain : Json
  requestedByAi : Bool

structure PolicyResult where
  decision : PolicyDecision
  reason : String
  policy : String := "blueteam.response.v1"
  engine : String := "blueteam_rego.subset"
  deriving DecidableEq, Repr

/-- `confidence < 0.95` -/
def unsure : PyFloat → Bool
  | .finite q => decide (q < 19 / 20)
  | .negInf => true
  | .inf | .nan => false

def guardedDomains : List String :=
  ["identity", "endpoint", "network", "cloud", "tenant"]

/-- `_subset_evaluate` -/
def subsetEvaluate (rt : Runtime) (input : PolicyInput) : PolicyResult :=
  let environment := input.environment.text rt
  let domain := input.domain.text rt
  if input.actionType ∈ ["delete_evidence", "alter_platform_policy"] then
    { decision := .deny, reason := "Destructive or policy-altering actions are denied" }
  else if input.actionType.startsWith "ai." || input.actionType.startsWith "llm." ||
      input.requestedByAi then
    { decision := .deny, reason := "AI cannot request execution authority" }
  else if input.dryRun && input.readOnly then
    { decision := .allow, reason := "Read-only dry-run is permitted" }
  else if 2 ≤ input.tier then
    { decision := .requireApproval, reason := "Tier-2 actions always require a human" }
  else if !input.readOnly && rt.lower environment = "production" then
    { decision := .requireApproval
      reason := "Production impact requires approval even at high confidence" }
  else if domain ∈ guardedDomains && !input.readOnly then
    { decision := .requireApproval, reason := domain ++ " mutation requires approval" }
  else if !input.readOnly && (!input.autoContainment || unsure input.confidence) then
    { decision := .requireApproval
      reason := "Containment requires auto_containment and confidence >= 0.95" }
  else if input.readOnly && input.tier = 0 then
    { decision := .allow, reason := "Tier-0 read-only collection is permitted" }
  else { decision := .deny, reason := "Default deny" }

/-! ### The policy file -/

/-- The object a rule gives. -/
structure RegoOutput where
  decision : PolicyDecision
  reason : String
  policy : String := "blueteam.policy.v1"
  deriving DecidableEq, Repr

/-- A rule of `core.rego`: its object, and its body. -/
structure RegoRule where
  output : RegoOutput
  body : PolicyInput → Bool

def denyRule (reason : String) (body : PolicyInput → Bool) : RegoRule :=
  ⟨{ decision := .deny, reason := reason }, body⟩

def allowRule (reason : String) (body : PolicyInput → Bool) : RegoRule :=
  ⟨{ decision := .allow, reason := reason }, body⟩

def approvalRule (reason : String) (body : PolicyInput → Bool) : RegoRule :=
  ⟨{ decision := .requireApproval, reason := reason }, body⟩

/-- The rules that name a domain. -/
def domainRule (domain reason : String) : RegoRule :=
  approvalRule reason fun input => input.domain = .str domain && !input.readOnly

/-- The rules of `core.rego`, in the order of the file. -/
def coreRego : List RegoRule :=
  [denyRule "Destructive or policy-altering actions are denied"
     fun input => input.actionType = "delete_evidence",
   denyRule "Destructive or policy-altering actions are denied"
     fun input => input.actionType = "alter_platform_policy",
   denyRule "AI cannot request execution authority"
     fun input => input.actionType.startsWith "ai.",
   denyRule "AI cannot request execution authority"
     fun input => input.actionType.startsWith "llm.",
   denyRule "AI-requested actions are denied" fun input => input.requestedByAi,
   allowRule "Read-only dry-run is permitted" fun input => input.dryRun && input.readOnly,
   allowRule "Tier-0 read-only collection is permitted"
     fun input => input.readOnly && input.tier = 0,
   approvalRule "Tier-2 actions always require a human" fun input => 2 ≤ input.tier,
   approvalRule "Production impact requires approval"
     fun input => input.environment = .str "production" && !input.readOnly,
   domainRule "identity" "Identity disablement requires approval",
   domainRule "endpoint" "Endpoint containment requires approval",
   domainRule "network" "Network containment requires approval",
   domainRule "cloud" "Cloud mutation requires approval",
   domainRule "tenant" "Tenant policy override requires approval",
   approvalRule "Containment requires auto_containment and confidence >= 0.95"
     fun input => !input.readOnly && !input.autoContainment,
   approvalRule "Containment requires auto_containment and confidence >= 0.95"
     fun input => !input.readOnly && unsure input.confidence]

def defaultOutput : RegoOutput :=
  { decision := .deny, reason := "Default deny" }

/-- The objects of the rules that apply. -/
def applicable (input : PolicyInput) : List RegoOutput :=
  (coreRego.filter fun rule => rule.body input).map (·.output)

/-- A complete rule: no applicable rule gives the default, different objects are an error. -/
def completeRule (outputs : List RegoOutput) : Except String RegoOutput :=
  match outputs with
  | [] => .ok defaultOutput
  | o :: os =>
      if os.all (· = o) then .ok o
      else .error "complete rules must not produce multiple outputs"

def evaluateOpa (input : PolicyInput) : Except String RegoOutput :=
  completeRule (applicable input)

/-- `evaluate`, with what `evaluate_opa` gives when OPA is there. -/
def evaluate (rt : Runtime) (opa : Option (PolicyInput → Except String RegoOutput))
    (input : PolicyInput) : PolicyResult :=
  match opa with
  | none => subsetEvaluate rt input
  | some run =>
      match run input with
      | .ok out =>
          { decision := out.decision, reason := out.reason, policy := out.policy, engine := "opa" }
      | .error text =>
          let fallback := subsetEvaluate rt input
          { fallback with reason := fallback.reason ++ " (OPA failed: " ++ text ++ ")" }

/-! ### Agreement -/

theorem completeRule_ok {outputs : List RegoOutput} {o : RegoOutput}
    (h : completeRule outputs = .ok o) : (outputs = [] ∧ o = defaultOutput) ∨
      (outputs ≠ [] ∧ ∀ o' ∈ outputs, o' = o) := by
  cases outputs with
  | nil => exact .inl ⟨rfl, (Except.ok.inj h).symm⟩
  | cons a os =>
      unfold completeRule at h
      dsimp only at h
      split at h
      · rename_i hall
        obtain rfl := Except.ok.inj h
        refine .inr ⟨by simp, ?_⟩
        intro o' ho'
        rcases List.mem_cons.mp ho' with rfl | ho'
        · rfl
        · simpa using List.all_eq_true.mp hall o' ho'
      · cases h

variable {rt : Runtime} {input : PolicyInput}

/-- Whether a rule with this decision applies. -/
def Applies (input : PolicyInput) (decision : PolicyDecision) : Prop :=
  ∃ o ∈ applicable input, o.decision = decision

/-- If a rule that applies decides as the fallback does, so does OPA: either all rules that apply
give its object, or there is an error and the fallback decides. -/
theorem agree_of_applies (rt : Runtime)
    (h : Applies input (subsetEvaluate rt input).decision) :
    (evaluate rt (some evaluateOpa) input).decision = (subsetEvaluate rt input).decision := by
  obtain ⟨o, ho, hd⟩ := h
  unfold evaluate
  dsimp only
  split
  · rename_i out hout
    rcases completeRule_ok hout with ⟨hnil, -⟩ | ⟨-, hall⟩
    · rw [hnil] at ho
      cases ho
    · rw [← hall o ho]
      exact hd
  · rfl

theorem decision_of_none (h : applicable input = []) :
    (evaluate rt (some evaluateOpa) input).decision = .deny := by
  have hopa : evaluateOpa input = .ok defaultOutput := by
    unfold evaluateOpa
    rw [h]
    rfl
  simp only [evaluate, hopa, defaultOutput]

theorem applies_iff_any {decision : PolicyDecision} : Applies input decision ↔
    (coreRego.any fun rule => rule.body input && rule.output.decision = decision) = true := by
  simp only [Applies, applicable, List.mem_map, List.mem_filter, List.any_eq_true,
    Bool.and_eq_true, decide_eq_true_eq]
  constructor
  · rintro ⟨_, ⟨rule, ⟨hmem, hbody⟩, rfl⟩, hd⟩
    exact ⟨rule, hmem, hbody, hd⟩
  · rintro ⟨rule, hmem, hbody, hd⟩
    exact ⟨rule.output, ⟨rule, ⟨hmem, hbody⟩, rfl⟩, hd⟩

theorem applies_deny_iff : Applies input .deny ↔
    input.actionType ∈ ["delete_evidence", "alter_platform_policy"] ∨
      (input.actionType.startsWith "ai." || input.actionType.startsWith "llm." ||
        input.requestedByAi) = true := by
  rw [applies_iff_any]
  simp [coreRego, denyRule, allowRule, approvalRule, domainRule, or_assoc]

theorem applies_allow_iff : Applies input .allow ↔
    (input.dryRun && input.readOnly) = true ∨ input.readOnly = true ∧ input.tier = 0 := by
  rw [applies_iff_any]
  simp [coreRego, denyRule, allowRule, approvalRule, domainRule]

theorem applies_approval_iff {domain environment : String} (hdomain : input.domain = .str domain)
    (henv : input.environment = .str environment) : Applies input .requireApproval ↔
    2 ≤ input.tier ∨ input.readOnly = false ∧ (environment = "production" ∨
      domain ∈ guardedDomains ∨ input.autoContainment = false ∨
        unsure input.confidence = true) := by
  rw [applies_iff_any]
  simp [coreRego, denyRule, allowRule, approvalRule, domainRule, hdomain, henv, guardedDomains]
  tauto

theorem applicable_eq_nil (hdeny : ¬ Applies input .deny) (hallow : ¬ Applies input .allow)
    (happroval : ¬ Applies input .requireApproval) : applicable input = [] := by
  refine List.eq_nil_iff_forall_not_mem.mpr fun o ho => ?_
  cases hd : o.decision with
  | deny => exact hdeny ⟨o, ho, hd⟩
  | allow => exact hallow ⟨o, ho, hd⟩
  | requireApproval => exact happroval ⟨o, ho, hd⟩

/-- An action that neither the destructive list, nor the AI rules, nor the tier, nor the domain, nor
the confidence holds back; only the environment is left to decide. -/
structure EnvironmentDecides (input : PolicyInput) (domain : String) : Prop where
  notDestructive : input.actionType ∉ ["delete_evidence", "alter_platform_policy"]
  notAi : (input.actionType.startsWith "ai." || input.actionType.startsWith "llm." ||
    input.requestedByAi) = false
  mutates : input.readOnly = false
  lowTier : input.tier < 2
  free : domain ∉ guardedDomains
  auto : input.autoContainment = true
  sure : unsure input.confidence = false

/-- There the fallback asks for approval exactly in a production environment, up to case. -/
theorem EnvironmentDecides.subset {domain environment : String}
    (h : EnvironmentDecides input domain) (hdomain : input.domain = .str domain)
    (henv : input.environment = .str environment) :
    (subsetEvaluate rt input).decision =
      if rt.lower environment = "production" then .requireApproval else .deny := by
  have htier : ¬ 2 ≤ input.tier := by
    have := h.lowTier
    omega
  have hfree : input.domain.text rt ∉ guardedDomains := by
    rw [hdomain]
    exact h.free
  have hlower : rt.lower (input.environment.text rt) = rt.lower environment := by
    rw [henv]
    rfl
  unfold subsetEvaluate
  simp only [h.notDestructive, h.notAi, h.mutates, htier, hfree, h.auto, h.sure, hlower]
  by_cases hp : rt.lower environment = "production" <;> simp [hp]

/-- OPA asks for approval exactly in the environment spelled `production`. -/
theorem EnvironmentDecides.opa {domain environment : String}
    (h : EnvironmentDecides input domain) (hdomain : input.domain = .str domain)
    (henv : input.environment = .str environment) :
    (evaluate rt (some evaluateOpa) input).decision =
      if environment = "production" then .requireApproval else .deny := by
  have htier : ¬ 2 ≤ input.tier := by
    have := h.lowTier
    omega
  obtain ⟨hevidence, hpolicy⟩ : input.actionType ≠ "delete_evidence" ∧
      input.actionType ≠ "alter_platform_policy" := by
    simpa using h.notDestructive
  obtain ⟨⟨hai, hllm⟩, hrequested⟩ : (input.actionType.startsWith "ai." = false ∧
      input.actionType.startsWith "llm." = false) ∧ input.requestedByAi = false := by
    have := h.notAi
    simpa only [Bool.or_eq_false_iff] using this
  obtain ⟨h₁, h₂, h₃, h₄, h₅⟩ : domain ≠ "identity" ∧ domain ≠ "endpoint" ∧
      domain ≠ "network" ∧ domain ≠ "cloud" ∧ domain ≠ "tenant" := by
    simpa [guardedDomains] using h.free
  have happ : applicable input = if environment = "production" then
      [{ decision := .requireApproval, reason := "Production impact requires approval" }]
      else [] := by
    by_cases hp : environment = "production" <;>
      simp [applicable, coreRego, denyRule, allowRule, approvalRule, domainRule, hevidence,
        hpolicy, hai, hllm, hrequested, h.mutates, htier, h.auto, h.sure, hdomain, henv, h₁, h₂,
        h₃, h₄, h₅, hp]
  by_cases hp : environment = "production"
  · rw [if_pos hp] at happ ⊢
    have hopa : evaluateOpa input =
        .ok { decision := .requireApproval, reason := "Production impact requires approval" } := by
      unfold evaluateOpa
      rw [happ]
      rfl
    simp only [evaluate, hopa]
  · rw [if_neg hp] at happ ⊢
    exact decision_of_none happ

/-- Everywhere else a rule applies that decides as the fallback does, or none applies and the
fallback denies too. -/
theorem agree_of_not_environmentDecides (rt : Runtime) {domain environment : String}
    (hdomain : input.domain = .str domain) (henv : input.environment = .str environment)
    (h : ¬ EnvironmentDecides input domain) :
    (evaluate rt (some evaluateOpa) input).decision = (subsetEvaluate rt input).decision := by
  have htext : input.domain.text rt = domain := by
    rw [hdomain]
    rfl
  by_cases hdes : input.actionType ∈ ["delete_evidence", "alter_platform_policy"]
  · have hsub : (subsetEvaluate rt input).decision = .deny := by
      unfold subsetEvaluate
      rw [if_pos hdes]
    refine agree_of_applies rt ?_
    rw [hsub, applies_deny_iff]
    exact .inl hdes
  by_cases hai : (input.actionType.startsWith "ai." || input.actionType.startsWith "llm." ||
      input.requestedByAi) = true
  · have hsub : (subsetEvaluate rt input).decision = .deny := by
      unfold subsetEvaluate
      rw [if_neg hdes, if_pos hai]
    refine agree_of_applies rt ?_
    rw [hsub, applies_deny_iff]
    exact .inr hai
  by_cases hdry : (input.dryRun && input.readOnly) = true
  · have hsub : (subsetEvaluate rt input).decision = .allow := by
      unfold subsetEvaluate
      rw [if_neg hdes, if_neg hai, if_pos hdry]
    refine agree_of_applies rt ?_
    rw [hsub, applies_allow_iff]
    exact .inl hdry
  by_cases htier : 2 ≤ input.tier
  · have hsub : (subsetEvaluate rt input).decision = .requireApproval := by
      unfold subsetEvaluate
      rw [if_neg hdes, if_neg hai, if_neg hdry, if_pos htier]
    refine agree_of_applies rt ?_
    rw [hsub, applies_approval_iff hdomain henv]
    exact .inl htier
  by_cases hro : input.readOnly = true
  · -- A read-only action is allowed at tier 0, and nothing else is said of it.
    by_cases hzero : input.tier = 0
    · have hsub : (subsetEvaluate rt input).decision = .allow := by
        unfold subsetEvaluate
        rw [if_neg hdes, if_neg hai, if_neg hdry, if_neg htier]
        simp [hro, hzero]
      refine agree_of_applies rt ?_
      rw [hsub, applies_allow_iff]
      exact .inr ⟨hro, hzero⟩
    · have hsub : (subsetEvaluate rt input).decision = .deny := by
        unfold subsetEvaluate
        rw [if_neg hdes, if_neg hai, if_neg hdry, if_neg htier]
        simp [hro, hzero]
      rw [hsub]
      refine decision_of_none (applicable_eq_nil ?_ ?_ ?_)
      · rw [applies_deny_iff]
        exact not_or.mpr ⟨hdes, hai⟩
      · rw [applies_allow_iff]
        exact not_or.mpr ⟨hdry, fun hz => hzero hz.2⟩
      · rw [applies_approval_iff hdomain henv]
        simp [htier, hro]
  · -- Otherwise domain or confidence ask for approval, as the environment does not decide.
    have hro : input.readOnly = false := by simpa using hro
    have hheld : domain ∈ guardedDomains ∨ input.autoContainment = false ∨
        unsure input.confidence = true := by
      by_contra hnone
      simp only [not_or, Bool.not_eq_false, Bool.not_eq_true] at hnone
      exact h ⟨hdes, by simpa using hai, hro, by omega, hnone.1, hnone.2.1, hnone.2.2⟩
    have hsub : (subsetEvaluate rt input).decision = .requireApproval := by
      unfold subsetEvaluate
      rw [if_neg hdes, if_neg hai, if_neg hdry, if_neg htier]
      simp only [hro, htext, Bool.not_false, Bool.true_and]
      split
      · rfl
      · rcases hheld with hg | ha | hu
        · simp [hg]
        · by_cases hg : domain ∈ guardedDomains <;> simp [hg, ha]
        · by_cases hg : domain ∈ guardedDomains <;> simp [hg, hu]
    refine agree_of_applies rt ?_
    rw [hsub, applies_approval_iff hdomain henv]
    exact .inr ⟨hro, .inr hheld⟩

/-- OPA and the fallback agree, except where the environment alone decides and is `production` up
to case only. -/
theorem opa_agrees_iff (rt : Runtime) (input : PolicyInput) (environment domain : String)
    (henv : input.environment = .str environment) (hdomain : input.domain = .str domain) :
    (evaluate rt (some evaluateOpa) input).decision = (subsetEvaluate rt input).decision ↔
      ¬ (EnvironmentDecides input domain ∧
        ¬ (rt.lower environment = "production" ↔ environment = "production")) := by
  by_cases hdecides : EnvironmentDecides input domain
  · rw [hdecides.opa hdomain henv, hdecides.subset hdomain henv]
    by_cases hp : environment = "production" <;>
      by_cases hl : rt.lower environment = "production" <;> simp [hp, hl, hdecides]
  · have hagree := agree_of_not_environmentDecides rt hdomain henv hdecides
    simp [hagree, hdecides]

/-- A tier-1 mutation with automatic containment at full confidence, in `Production`. -/
def capitalisedInput : PolicyInput :=
  { actionType := "ticket.update"
    tier := 1
    readOnly := false
    dryRun := false
    environment := .str "Production"
    confidence := .finite 1
    autoContainment := true
    domain := .str "ticket"
    requestedByAi := false }

theorem opa_denies_capitalised_production :
    (evaluate sampleRuntime (some evaluateOpa) capitalisedInput).decision = .deny ∧
      (subsetEvaluate sampleRuntime capitalisedInput).decision = .requireApproval := by
  decide +kernel

theorem opa_agrees_capitalised_tier2 :
    (evaluate sampleRuntime (some evaluateOpa) { capitalisedInput with tier := 2 }).decision =
        (subsetEvaluate sampleRuntime { capitalisedInput with tier := 2 }).decision ↔
      ¬ (EnvironmentDecides { capitalisedInput with tier := 2 } "ticket" ∧
        ¬ (sampleRuntime.lower "Production" = "production" ↔ "Production" = "production")) :=
  opa_agrees_iff sampleRuntime { capitalisedInput with tier := 2 } "Production" "ticket" rfl rfl

end BlueTeam.Broker
