/- GID: BlueTeam/Gateway/Cache
   generality: I
   source: services/ai-gateway/app/gateway.py
   digest: Which histories of calls the cache of the gateway leaves unchanged. -/

import BlueTeam.Gateway.Route
import BlueTeam.Lib.Machine

set_option autoImplicit false
set_option relaxedAutoImplicit false

namespace BlueTeam.Gateway

open BlueTeam.Python BlueTeam.Lib

/-- The arguments of a call of `route`. -/
structure RouteCall where
  request : AIRequest
  aiEnabled : Bool := false
  budget : Option PyFloat := none

section

variable (redact : String → String)

def answer (g : GatewayState) (call : RouteCall) : AIDecision :=
  (route redact g call.request call.aiEnabled call.budget).1

def routed (g : GatewayState) (call : RouteCall) : GatewayState :=
  (route redact g call.request call.aiEnabled call.budget).2

/-- What the function decides when nothing is cached, with the same budget and spend. -/
def uncachedAnswer (g : GatewayState) (call : RouteCall) : AIDecision :=
  answer redact { g with cache := [] } call

/-- The answer is the uncached one, but for the flag that tells where it came from. -/
def Agrees (g : GatewayState) (call : RouteCall) : Prop :=
  { answer redact g call with cached := false } = uncachedAnswer redact g call

/-- Every call of the history gets the answer that it would get without the cache. -/
def CacheTransparent (calls : List RouteCall) : Prop :=
  Machine.Along (routed redact) (Agrees redact) {} calls

def RouteCall.key (call : RouteCall) : String :=
  cacheKey call.request (redact call.request.prompt)

def RouteCall.critical (call : RouteCall) : Bool :=
  call.request.taskType ∈ criticalTasks

/-- The call is decided before the policy, and so its decision is cached. -/
def RouteCall.offline (call : RouteCall) : Bool :=
  call.critical || !call.aiEnabled

/-- The call of a history that cached something under the key. -/
def filler (before : List RouteCall) (key : String) : Option RouteCall :=
  before.find? fun call => call.offline && call.key redact = key

/-- Two calls that are decided before the policy for the same reason. -/
def SameGround (earlier call : RouteCall) : Prop :=
  earlier.critical = call.critical ∧ call.offline = true

instance (earlier call : RouteCall) : Decidable (SameGround earlier call) :=
  inferInstanceAs (Decidable (_ ∧ _))

def offlineReason (call : RouteCall) : String :=
  if call.critical then "Security-critical path must not call a model"
  else "AI gateway disabled — operate offline"

/-- The decision of a call that is decided before the policy. -/
def offlineDecision (call : RouteCall) : AIDecision :=
  { decision := .deterministicOnly
    reason := offlineReason call
    redactedPrompt := some (redact call.request.prompt) }

end

section

variable {redact : String → String} {g : GatewayState} {call : RouteCall}

theorem answer_of_found {found : AIDecision} (h : g.cache.get? (call.key redact) = some found) :
    answer redact g call =
      { found with
        redactedPrompt := some (redact call.request.prompt)
        costEstimate := .finite 0
        cached := true } := by
  unfold answer route
  dsimp only
  unfold RouteCall.key at h
  rw [h]

theorem cache_of_found {found : AIDecision} (h : g.cache.get? (call.key redact) = some found) :
    (routed redact g call).cache = g.cache := by
  unfold routed route
  dsimp only
  unfold RouteCall.key at h
  rw [h]
  rfl

/-- Without an entry, a call before the policy is cached. -/
theorem offline_of_missing (h : g.cache.get? (call.key redact) = none)
    (hoffline : call.offline = true) :
    answer redact g call = offlineDecision redact call ∧
      (routed redact g call).cache = g.cache.set (call.key redact) (offlineDecision redact call) := by
  unfold answer routed route offlineDecision offlineReason
  dsimp only
  unfold RouteCall.key at h ⊢
  rw [h]
  dsimp only
  by_cases hcritical : call.request.taskType ∈ criticalTasks
  · have hflag : call.critical = true := decide_eq_true hcritical
    rw [if_pos hcritical, if_pos hflag]
    exact ⟨rfl, rfl⟩
  · have hflag : call.critical = false := decide_eq_false hcritical
    have hdisabled : call.aiEnabled = false := by
      unfold RouteCall.offline at hoffline
      rw [hflag] at hoffline
      simpa using hoffline
    rw [if_neg hcritical, if_pos hdisabled, hflag]
    exact ⟨rfl, rfl⟩

/-- Without an entry, a call that the policy decides is denied and not cached. -/
theorem policy_of_missing (h : g.cache.get? (call.key redact) = none)
    (hpolicy : call.offline = false) :
    (answer redact g call).decision ≠ .deterministicOnly ∧
      (call.request.sensitivity ∈ ["secret", "restricted"] →
        (answer redact g call).decision = .denyPolicy) ∧
      (routed redact g call).cache = g.cache := by
  unfold RouteCall.offline at hpolicy
  rw [Bool.or_eq_false_iff, Bool.not_eq_false'] at hpolicy
  have hcritical : call.request.taskType ∉ criticalTasks := of_decide_eq_false hpolicy.1
  unfold answer routed route
  dsimp only
  unfold RouteCall.key at h
  rw [h]
  dsimp only
  rw [if_neg hcritical, if_neg (by simp [hpolicy.2])]
  split_ifs with hsecret hbudget
  · exact ⟨nofun, fun _ => rfl, rfl⟩
  · exact ⟨nofun, fun h => absurd h hsecret, rfl⟩
  · exact ⟨nofun, fun h => absurd h hsecret, rfl⟩

theorem uncachedAnswer_eq (h : g.cache.get? (call.key redact) = none) :
    answer redact g call = uncachedAnswer redact g call := by
  unfold uncachedAnswer answer route
  dsimp only
  unfold RouteCall.key at h
  rw [h]
  dsimp only [Dict.get?]
  split_ifs <;> rfl

/-- What a call would get without the cache: the offline decision, or one by the policy. -/
theorem uncachedAnswer_cases (redact : String → String) (g : GatewayState) (call : RouteCall) :
    (call.offline = true → uncachedAnswer redact g call = offlineDecision redact call) ∧
      (call.offline = false → (uncachedAnswer redact g call).decision ≠ .deterministicOnly ∧
        (call.request.sensitivity ∈ ["secret", "restricted"] →
          (uncachedAnswer redact g call).decision = .denyPolicy)) :=
  ⟨fun h => (offline_of_missing rfl h).1,
    fun h => ⟨(policy_of_missing rfl h).1, (policy_of_missing rfl h).2.1⟩⟩

/-- An answer that agrees is denied by the policy where it has to be. -/
theorem Agrees.denied (h : Agrees redact g call) (henabled : call.aiEnabled = true)
    (hcritical : call.critical = false)
    (hsecret : call.request.sensitivity ∈ ["secret", "restricted"]) :
    (answer redact g call).decision = .denyPolicy := by
  have hpolicy : call.offline = false := by
    unfold RouteCall.offline
    rw [henabled, hcritical]
    rfl
  have hdecision := congrArg AIDecision.decision h
  exact hdecision.trans (((uncachedAnswer_cases redact g call).2 hpolicy).2 hsecret)

/-- The cache holds, under each key, the offline decision of the call that filled it. -/
def Filled (redact : String → String) (before : List RouteCall) (g : GatewayState) : Prop :=
  ∀ key, g.cache.get? key = (filler redact before key).map (offlineDecision redact)

theorem filled_nil (redact : String → String) : Filled redact [] {} :=
  fun _ => rfl

theorem filled_step {before : List RouteCall} (h : Filled redact before g) (call : RouteCall) :
    Filled redact (before ++ [call]) (routed redact g call) := by
  intro key
  have hfiller : filler redact (before ++ [call]) key =
      (filler redact before key).or (filler redact [call] key) := List.find?_append ..
  rw [hfiller]
  cases hentry : g.cache.get? (call.key redact) with
  | some found =>
      rw [cache_of_found hentry, h key]
      -- the key of the call was filled before
      cases hold : filler redact before key with
      | some earlier => rfl
      | none =>
          have hother : call.key redact ≠ key := by
            rintro rfl
            have hnone := h (call.key redact)
            rw [hold, hentry] at hnone
            cases hnone
          simp [filler, hother]
  | none =>
      by_cases hoffline : call.offline = true
      · rw [(offline_of_missing hentry hoffline).2]
        by_cases hkey : call.key redact = key
        · subst hkey
          have hnone := h (call.key redact)
          rw [hentry] at hnone
          rw [Dict.get?_set_self, Option.map_eq_none_iff.mp hnone.symm]
          simp [filler, hoffline]
        · rw [Dict.get?_set_of_ne hkey, h key]
          cases filler redact before key <;> simp [filler, hkey]
      · rw [Bool.not_eq_true] at hoffline
        rw [(policy_of_missing hentry hoffline).2.2, h key]
        cases filler redact before key <;> simp [filler, hoffline]

theorem filled_run (redact : String → String) (calls : List RouteCall) :
    Filled redact calls (Machine.run (routed redact) {} calls) := by
  induction calls using List.reverseRecOn with
  | nil => exact filled_nil redact
  | append_singleton before call ih =>
      rw [Machine.run_append]
      exact filled_step ih call

/-- After some calls, a call agrees unless one of them filled its key on other grounds. -/
theorem agrees_iff {before : List RouteCall} (h : Filled redact before g) :
    Agrees redact g call ↔
      ∀ earlier, filler redact before (call.key redact) = some earlier → SameGround earlier call := by
  obtain ⟨hoffline, hpolicy⟩ := uncachedAnswer_cases redact g call
  have hentry := h (call.key redact)
  cases hfiller : filler redact before (call.key redact) with
  | none =>
      rw [hfiller] at hentry
      have hsame : Agrees redact g call := by
        unfold Agrees
        rw [← uncachedAnswer_eq hentry]
        by_cases hground : call.offline = true
        · rw [(offline_of_missing hentry hground).1]
          rfl
        · unfold answer route
          dsimp only
          unfold RouteCall.key at hentry
          rw [hentry]
          split_ifs <;> rfl
      exact ⟨fun _ _ h => (nomatch h), fun _ => hsame⟩
  | some earlier =>
      rw [hfiller] at hentry
      unfold Agrees
      rw [answer_of_found hentry]
      constructor
      · rintro hagrees _ ⟨⟩
        have hground : call.offline = true := by
          by_contra hnot
          exact (hpolicy (Bool.eq_false_iff.mpr hnot)).1 (congrArg AIDecision.decision hagrees).symm
        rw [hoffline hground] at hagrees
        have hreason : offlineReason earlier = offlineReason call :=
          congrArg AIDecision.reason hagrees
        refine ⟨?_, hground⟩
        unfold offlineReason at hreason
        cases hcritical : earlier.critical <;> cases hcritical' : call.critical <;>
          simp [hcritical, hcritical'] at hreason ⊢
      · intro hsame
        obtain ⟨hcritical, hground⟩ := hsame earlier rfl
        rw [hoffline hground]
        unfold offlineDecision offlineReason
        rw [hcritical]

end

/-- The cache is transparent exactly for the histories in which no call finds its key filled by an
earlier one that was decided on other grounds. -/
theorem cache_transparent_iff (redact : String → String) (calls : List RouteCall) :
    CacheTransparent redact calls ↔ ∀ before call after, calls = before ++ call :: after →
      ∀ earlier, filler redact before (call.key redact) = some earlier →
        SameGround earlier call := by
  unfold CacheTransparent
  rw [Machine.along_iff_forall]
  refine forall_congr' fun before => forall_congr' fun call => forall_congr' fun after =>
    imp_congr_right fun _ => ?_
  exact agrees_iff (filled_run redact before)

/-! ### Samples -/

/-- A question about a secret document. -/
def secretRequest : AIRequest where
  tenantId := "ten_a"
  feature := "summary"
  taskType := "explain"
  contextRefs := []
  requestedCapability := "text"
  maxCost := .finite 1
  maxTokens := 100
  sensitivity := "secret"
  structuredOutputSchema := []
  prompt := "what happened"

/-- A decision that was taken while AI was disabled is returned once it is enabled. -/
theorem cache_not_transparent : ¬ CacheTransparent id
    [{ request := secretRequest, aiEnabled := false },
     { request := secretRequest, aiEnabled := true }] := by
  have hground : ¬ SameGround { request := secretRequest, aiEnabled := false }
      { request := secretRequest, aiEnabled := true } := by
    decide
  intro h
  rw [CacheTransparent, Machine.along_iff_forall] at h
  have hagrees := h [{ request := secretRequest, aiEnabled := false }]
    { request := secretRequest, aiEnabled := true } [] rfl
  refine hground ((agrees_iff (filled_run id _)).mp hagrees _ ?_)
  unfold filler
  rw [List.find?_cons_of_pos]
  rw [Bool.and_eq_true, decide_eq_true_eq]
  exact ⟨by decide, rfl⟩

end BlueTeam.Gateway
