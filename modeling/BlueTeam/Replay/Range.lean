/- GID: BlueTeam/Replay/Range
   generality: I
   source: packages/blue-range/blueteam_range/models.py, runner.py
   digest: A scenario is played event by event against a registry, and its outcome is judged. -/

import BlueTeam.Detection.Registry
import BlueTeam.Python.Dict

set_option autoImplicit false
set_option relaxedAutoImplicit false

namespace BlueTeam.Replay

open BlueTeam.Python BlueTeam.Schema BlueTeam.Detection BlueTeam.Lib

structure ExpectedDetection where
  ruleId : String
  minCount : Int := 1
  deriving DecidableEq, Repr

/-- What the runner reads of a `RangeScenario`. -/
structure RangeScenario where
  id : String
  maxDetectionLatencySeconds : PyFloat := .finite 5
  allowedFalsePositiveEnvelope : Int := 0
  events : List CanonicalEvent
  expectedEventCount : Int
  expectedDetections : List ExpectedDetection

structure DetectionAssertion where
  ruleId : String
  expectedMin : Int
  observed : Nat
  passed : Bool
  deriving DecidableEq, Repr

inductive RangeError
  | eventCount (found : Nat) (declared : Int)
  | notSingleTenant
  | unexpected (ruleIds : List String)
  | latency (seconds : Rat) (limit : PyFloat)
  deriving DecidableEq, Repr

/-- The text of an error; `fixed3` is the format `.3f`, `float` is `str` of a float. -/
def RangeError.text (rt : Runtime) (fixed3 : Rat → String) (float : PyFloat → String) :
    RangeError → String
  | .eventCount found declared =>
      "fixture event count " ++ toString found ++ " != declared " ++ toString declared
  | .notSingleTenant => "Blue Range scenario must be single-tenant"
  | .unexpected ruleIds =>
      "unexpected detections exceed envelope: " ++ rt.repr (.arr (ruleIds.map .str))
  | .latency seconds limit =>
      "detection latency " ++ fixed3 seconds ++ "s exceeded " ++ float limit ++ "s"

structure RangeResult where
  scenarioId : String
  passed : Bool
  startedAt : DateTime
  finishedAt : DateTime
  latencySeconds : Rat
  eventCount : Nat
  findings : List Finding
  assertions : List DetectionAssertion
  unexpectedRuleIds : List String
  errors : List RangeError

/-- `latency > limit` -/
def exceeds (latency : Rat) : PyFloat → Bool
  | .finite q => q < latency
  | .negInf => true
  | .inf | .nan => false

/-- `(finished - started).total_seconds()` -/
def totalSeconds (started finished : DateTime) : Except Exn Rat :=
  (finished.minus started).map fun us => (us : Rat) / 1000000

/-- The tenants of the events, as a set. -/
def RangeScenario.tenantIds (scenario : RangeScenario) : List String :=
  toSet (scenario.events.map (·.tenantId))

/-- What the fixture itself gets wrong. -/
def RangeScenario.fixtureErrors (scenario : RangeScenario) : List RangeError :=
  (if scenario.events.length ≠ scenario.expectedEventCount then
    [.eventCount scenario.events.length scenario.expectedEventCount] else []) ++
  (if scenario.tenantIds.length ≠ 1 then [.notSingleTenant] else [])

/-- One turn of the loop over the events: what is found closes its fingerprint for later turns. -/
def playEvent (registry : Registry) (played : DetectionContext × List Finding)
    (event : CanonicalEvent) : Draw (DetectionContext × List Finding) := do
  let produced ← registry event played.1
  pure (played.1.opening produced, played.2 ++ produced)

/-- The events are played in order over a window that holds all of them. -/
def RangeScenario.play (scenario : RangeScenario) (registry : Registry) : Draw (List Finding) := do
  let played ← Exec.loop (playEvent registry) (⟨scenario.events, [], false⟩, []) scenario.events
  pure played.2

/-- `observed.get(rule_id, 0)` -/
def observedCount (findings : List Finding) (ruleId : String) : Nat :=
  findings.countP fun finding => finding.ruleId = ruleId

/-- The keys of `observed`, in the order they came. -/
def observedRules (findings : List Finding) : List String :=
  toSet (findings.map (·.ruleId))

/-- `expected_rules` -/
def RangeScenario.expectedRules (scenario : RangeScenario) : Dict String ExpectedDetection :=
  Dict.index ExpectedDetection.ruleId scenario.expectedDetections

def assertionOf (findings : List Finding) (ruleId : String) (spec : ExpectedDetection) :
    DetectionAssertion :=
  let count := observedCount findings ruleId
  { ruleId := ruleId
    expectedMin := spec.minCount
    observed := count
    passed := spec.minCount ≤ count }

def RangeScenario.assertions (scenario : RangeScenario) (findings : List Finding) :
    List DetectionAssertion :=
  scenario.expectedRules.map fun entry => assertionOf findings entry.1 entry.2

/-- The rules that were observed without being expected. -/
def RangeScenario.unexpected (scenario : RangeScenario) (findings : List Finding) : List String :=
  (observedRules findings).filter fun ruleId => (scenario.expectedRules.get? ruleId).isNone

/-- All errors of a run, in the order they are noticed. -/
def RangeScenario.errors (scenario : RangeScenario) (findings : List Finding) (latency : Rat) :
    List RangeError :=
  scenario.fixtureErrors ++
    (if scenario.allowedFalsePositiveEnvelope < (scenario.unexpected findings).length then
      [.unexpected (scenario.unexpected findings)] else []) ++
    (if exceeds latency scenario.maxDetectionLatencySeconds then
      [.latency latency scenario.maxDetectionLatencySeconds] else [])

def runScenario (rt : Runtime) (scenario : RangeScenario) (registry : Registry) :
    Draw RangeResult := do
  let started ← utcnow rt
  let findings ← scenario.play registry
  let finished ← utcnow rt
  let latency ← Exec.lift (totalSeconds started finished)
  let assertions := scenario.assertions findings
  let errors := scenario.errors findings latency
  pure
    { scenarioId := scenario.id
      passed := errors.isEmpty && assertions.all (·.passed)
      startedAt := started
      finishedAt := finished
      latencySeconds := latency
      eventCount := scenario.events.length
      findings := findings
      assertions := assertions
      unexpectedRuleIds := scenario.unexpected findings
      errors := errors }

/-! ### What a result says -/

/-- A result is judged by the scenario's declarations. -/
structure Judged (scenario : RangeScenario) (result : RangeResult) : Prop where
  passed : result.passed = (result.errors.isEmpty && result.assertions.all (·.passed))
  assertions : result.assertions = scenario.assertions result.findings
  unexpected : result.unexpectedRuleIds = scenario.unexpected result.findings
  errors : result.errors = scenario.errors result.findings result.latencySeconds

theorem runScenario_judged (rt : Runtime) (scenario : RangeScenario) (registry : Registry) :
    Exec.Triple (fun _ => True) (runScenario rt scenario registry)
      (fun result _ => Judged scenario result) (fun _ _ => True) := by
  unfold runScenario
  apply Exec.triple_bind (Q := fun _ _ => True) ⟨fun _ _ => trivial⟩
  intro started
  apply Exec.triple_bind (Q := fun _ _ => True)
  · constructor
    intro t _
    rcases scenario.play registry t with ⟨⟨e⟩ | ⟨findings⟩, t'⟩ <;> trivial
  intro findings
  apply Exec.triple_bind (Q := fun _ _ => True) ⟨fun _ _ => trivial⟩
  intro finished
  apply Exec.triple_bind (Q := fun _ _ => True)
  · exact Exec.triple_lift (fun _ _ _ _ => trivial) (fun _ _ _ _ => trivial)
  intro latency
  apply Exec.triple_pure
  intro _ _
  exact ⟨rfl, rfl, rfl, rfl⟩

/-- What a passed result stands for. -/
structure Passed (scenario : RangeScenario) (result : RangeResult) : Prop where
  observed : ∀ a ∈ result.assertions, a.expectedMin ≤ a.observed
  counted : (scenario.events.length : Int) = scenario.expectedEventCount
  tenant : ∃ tenantId, (∃ event ∈ scenario.events, event.tenantId = tenantId) ∧
    ∀ event ∈ scenario.events, event.tenantId = tenantId
  envelope : (result.unexpectedRuleIds.length : Int) ≤ scenario.allowedFalsePositiveEnvelope

theorem RangeScenario.tenantIds_length_one {scenario : RangeScenario}
    (h : scenario.tenantIds.length = 1) :
    ∃ tenantId, (∃ event ∈ scenario.events, event.tenantId = tenantId) ∧
      ∀ event ∈ scenario.events, event.tenantId = tenantId := by
  obtain ⟨tenantId, htenant⟩ := List.length_eq_one_iff.mp h
  have hmem : ∀ t, t ∈ scenario.events.map (·.tenantId) ↔ t = tenantId := by
    intro t
    rw [← mem_toSet, ← List.mem_singleton, ← htenant]
    rfl
  refine ⟨tenantId, by simpa using (hmem tenantId).mpr rfl, ?_⟩
  intro event hevent
  exact (hmem _).mp (List.mem_map.mpr ⟨event, hevent, rfl⟩)

theorem Judged.of_passed {scenario : RangeScenario} {result : RangeResult}
    (h : Judged scenario result) (hpassed : result.passed = true) : Passed scenario result := by
  rw [h.passed, Bool.and_eq_true, List.isEmpty_iff, List.all_eq_true] at hpassed
  obtain ⟨hclean, hall⟩ := hpassed
  rw [h.errors] at hclean
  unfold RangeScenario.errors RangeScenario.fixtureErrors at hclean
  simp only [List.append_eq_nil_iff] at hclean
  obtain ⟨⟨⟨hcount, htenant⟩, henvelope⟩, -⟩ := hclean
  constructor
  · intro a ha
    have hpass := hall a ha
    rw [h.assertions] at ha
    obtain ⟨entry, -, rfl⟩ := List.mem_map.mp ha
    simpa [assertionOf] using hpass
  · by_contra hne
    rw [if_pos hne] at hcount
    cases hcount
  · apply RangeScenario.tenantIds_length_one
    by_contra hne
    rw [if_pos hne] at htenant
    cases htenant
  · rw [h.unexpected]
    by_contra hlt
    rw [if_pos (by omega)] at henvelope
    cases henvelope

end BlueTeam.Replay
