/- GID: BlueTeam/Detection/Horizon
   generality: I
   source: packages/detection-sdk/blueteam_detection/context.py, registry.py,
     detections/python/catalog.py
   digest: How far back the rules look, and whose events they see. -/

import BlueTeam.Detection.Windows

set_option autoImplicit false
set_option relaxedAutoImplicit false

namespace BlueTeam.Detection

open BlueTeam.Python BlueTeam.Schema BlueTeam.Lib BlueTeam.Lib.Exec

/-- What fails the test without raising may as well not be there. -/
theorem filterRaising_filter {α : Type} {p : α → Except Exn Bool} {q : α → Bool} {as : List α}
    (h : ∀ a ∈ as, q a = false → p a = .ok false) :
    filterRaising p (as.filter q) = filterRaising p as := by
  induction as with
  | nil => rfl
  | cons a as ih =>
      have hrest := ih fun b hb => h b (List.mem_cons_of_mem _ hb)
      rw [List.filter_cons]
      cases hq : q a with
      | true =>
          rw [if_pos rfl, filterRaising, filterRaising, hrest]
      | false =>
          rw [if_neg Bool.false_ne_true, hrest, filterRaising, h a List.mem_cons_self hq]
          cases filterRaising p as <;> rfl

/-- Two contexts that no query of a rule tells apart if it looks back no further than that. -/
structure SameView (horizon : Nat) (event : CanonicalEvent) (c c' : DetectionContext) : Prop where
  queries : ∀ seconds ≤ horizon, ∀ f,
    c.eventsInWindow event seconds f = c'.eventsInWindow event seconds f
  scheduled : c.scheduled = c'.scheduled

/-- What the rule selects depends on the events that its queries can see, and on nothing else. -/
def DetectionRule.LooksBack (rule : DetectionRule) (horizon : Nat) : Prop :=
  ∀ (rt : Runtime) (event : CanonicalEvent) (c c' : DetectionContext),
    SameView horizon event c c' → rule.selects rt c event = rule.selects rt c' event

section

variable {rule : DetectionRule} {horizon horizon' seconds : Nat} {event : CanonicalEvent}
  {c c' : DetectionContext}

theorem SameView.mono (h : SameView horizon event c c') (hle : horizon' ≤ horizon) :
    SameView horizon' event c c' :=
  ⟨fun seconds hseconds f => h.queries seconds (hseconds.trans hle) f, h.scheduled⟩

theorem DetectionRule.LooksBack.mono (h : rule.LooksBack horizon) (hle : horizon ≤ horizon') :
    rule.LooksBack horizon' :=
  fun rt event c c' hview => h rt event c c' (hview.mono hle)

/-! ### The rules of the catalogue -/

theorem passwordSpray_looksBack : passwordSprayRule.LooksBack 600 := by
  intro rt event c c' h
  unfold passwordSprayRule
  dsimp only
  rw [h.queries 600 le_rfl]

theorem bruteForce_looksBack : bruteForceRule.LooksBack 600 := by
  intro rt event c c' h
  unfold bruteForceRule
  dsimp only
  rw [h.queries 600 le_rfl]

theorem repeatedFailures_looksBack : repeatedFailuresRule.LooksBack 900 := by
  intro rt event c c' h
  unfold repeatedFailuresRule
  dsimp only
  rw [h.queries 900 le_rfl]

theorem unusualSuccess_looksBack : unusualSuccessRule.LooksBack 1800 := by
  intro rt event c c' h
  unfold unusualSuccessRule
  dsimp only
  rw [h.queries 1800 le_rfl]

theorem impossibleTravel_looksBack : impossibleTravelRule.LooksBack 7200 := by
  intro rt event c c' h
  unfold impossibleTravelRule
  dsimp only
  rw [h.queries 7200 le_rfl]

theorem mfaFatigue_looksBack : mfaFatigueRule.LooksBack 600 := by
  intro rt event c c' h
  unfold mfaFatigueRule
  dsimp only
  rw [h.queries 600 le_rfl]

theorem horizontalScan_looksBack : horizontalScanRule.LooksBack 120 := by
  intro rt event c c' h
  unfold horizontalScanRule
  dsimp only
  rw [h.queries 120 le_rfl]

theorem verticalScan_looksBack : verticalScanRule.LooksBack 120 := by
  intro rt event c c' h
  unfold verticalScanRule
  dsimp only
  rw [h.queries 120 le_rfl]

theorem rareDestination_looksBack : rareDestinationRule.LooksBack 3600 := by
  intro rt event c c' h
  unfold rareDestinationRule
  dsimp only
  rw [h.queries 3600 le_rfl]

theorem repetitiveBeacon_looksBack : repetitiveBeaconRule.LooksBack 600 := by
  intro rt event c c' h
  unfold repetitiveBeaconRule
  dsimp only
  rw [h.queries 600 le_rfl]

theorem processNetworkChain_looksBack : processNetworkChainRule.LooksBack 180 := by
  intro rt event c c' h
  unfold processNetworkChainRule
  dsimp only
  rw [h.queries 180 le_rfl]

theorem scheduledAuthFailureSweep_looksBack :
    scheduledAuthFailureSweep.LooksBack (24 * 3600) := by
  intro rt event c c' h
  unfold scheduledAuthFailureSweep
  dsimp only
  rw [h.queries (24 * 3600) le_rfl, h.scheduled]

/-- A rule that reads the event alone does not look back at all. -/
theorem looksBack_of_alone (h : ∀ rt event c c', rule.selects rt c event = rule.selects rt c' event)
    (horizon : Nat) : rule.LooksBack horizon :=
  fun rt event c c' _ => h rt event c c'

/-- The rules of the runner look back a day, those of ingestion two hours. -/
def lookBack : Execution → Nat
  | .realtime => 2 * 3600
  | .scheduled => 24 * 3600

theorem defaultRegistry_looksBack :
    ∀ rule ∈ defaultRegistry, rule.LooksBack (lookBack rule.info.execution) := by
  have halone {rule : DetectionRule}
      (h : ∀ rt event c c', rule.selects rt c event = rule.selects rt c' event) :
      rule.LooksBack (lookBack rule.info.execution) := looksBack_of_alone h _
  intro rule hrule
  simp only [defaultRegistry, List.mem_cons, List.not_mem_nil, or_false] at hrule
  rcases hrule with rfl | rfl | rfl | rfl | rfl | rfl | rfl | rfl | rfl | rfl | rfl | rfl | rfl |
    rfl | rfl | rfl | rfl | rfl | rfl | rfl | rfl | rfl | rfl | rfl | rfl | rfl
  · exact passwordSpray_looksBack.mono (by decide)
  · exact bruteForce_looksBack.mono (by decide)
  · exact halone fun _ _ _ _ => rfl
  · exact repeatedFailures_looksBack.mono (by decide)
  · exact unusualSuccess_looksBack.mono (by decide)
  · exact impossibleTravel_looksBack.mono (by decide)
  · exact mfaFatigue_looksBack.mono (by decide)
  · exact halone fun _ _ _ _ => rfl
  · exact halone fun _ _ _ _ => rfl
  · exact horizontalScan_looksBack.mono (by decide)
  · exact verticalScan_looksBack.mono (by decide)
  · exact rareDestination_looksBack.mono (by decide)
  · exact repetitiveBeacon_looksBack.mono (by decide)
  · exact halone fun _ _ _ _ => rfl
  · exact halone fun _ _ _ _ => rfl
  · exact halone fun _ _ _ _ => rfl
  · exact halone fun _ _ _ _ => rfl
  · exact halone fun _ _ _ _ => rfl
  · exact halone fun _ _ _ _ => rfl
  · exact halone fun _ _ _ _ => rfl
  · exact halone fun _ _ _ _ => rfl
  · exact halone fun _ _ _ _ => rfl
  · exact halone fun _ _ _ _ => rfl
  · exact processNetworkChain_looksBack.mono (by decide)
  · exact scheduledAuthFailureSweep_looksBack
  · exact halone fun _ _ _ _ => rfl

/-! ### What the queries see -/

/-- An event of the trigger's tenant, not later than the trigger and not earlier by more than
that. -/
def Recent (horizon : Nat) (event e : CanonicalEvent) : Prop :=
  e.tenantId = event.tenantId ∧ Within horizon event e

instance (horizon : Nat) (event e : CanonicalEvent) : Decidable (Recent horizon event e) :=
  inferInstanceAs (Decidable (_ ∧ _))

/-- The context without the events that are of no use to a query of the trigger. -/
def DetectionContext.keeping (c : DetectionContext) (p : CanonicalEvent → Bool) :
    DetectionContext :=
  { c with window := c.window.filter p }

/-- Nor, where the tenant's time stamps compare with the trigger's, one that is not recent. -/
theorem eventsInWindow_recent (hle : seconds ≤ horizon)
    (hcomparable : ∀ e ∈ c.window, e.tenantId = event.tenantId →
      e.timestamp.Comparable event.timestamp) (f : Filters) :
    (c.keeping fun e => Recent horizon event e).eventsInWindow event seconds f =
      c.eventsInWindow event seconds f := by
  unfold DetectionContext.eventsInWindow DetectionContext.keeping
  cases hsince : event.timestamp.before seconds with
  | error e => rfl
  | ok since =>
      obtain ⟨hinstant, hoffset⟩ := DateTime.before_spec hsince
      refine filterRaising_filter fun e he hold => ?_
      have hnot : ¬ Recent horizon event e := of_decide_eq_false hold
      have hsame : since.Comparable event.timestamp := congrArg Option.isSome hoffset
      have hok : ∃ keep, inWindow event.tenantId since event.timestamp f e = .ok keep :=
        (inWindow_ok_iff hsame).mpr (hcomparable e he)
      obtain ⟨keep, hkeep⟩ := hok
      cases keep with
      | false => exact hkeep
      | true =>
          -- what the query keeps is recent
          obtain ⟨htenant, ⟨-, hearly⟩, ⟨-, hlate⟩, -⟩ := inWindow_true_iff.mp hkeep
          refine absurd ⟨htenant, ?_, hlate⟩ hnot
          have hfurther : (seconds : Int) * DateTime.second ≤ horizon * DateTime.second := by
            unfold DateTime.second
            omega
          omega

/-- A query reads nothing of the context but its window. -/
theorem eventsInWindow_congr (h : c.window = c'.window) (f : Filters) :
    c.eventsInWindow event seconds f = c'.eventsInWindow event seconds f := by
  unfold DetectionContext.eventsInWindow
  rw [h]

/-- Contexts with the same recent events look the same. -/
theorem sameView_of_recent (hscheduled : c.scheduled = c'.scheduled)
    (hcomparable : ∀ e ∈ c.window, e.tenantId = event.tenantId →
      e.timestamp.Comparable event.timestamp)
    (hcomparable' : ∀ e ∈ c'.window, e.tenantId = event.tenantId →
      e.timestamp.Comparable event.timestamp)
    (hrecent : c.window.filter (fun e => Recent horizon event e) =
      c'.window.filter fun e => Recent horizon event e) :
    SameView horizon event c c' := by
  refine ⟨fun seconds hle f => ?_, hscheduled⟩
  rw [← eventsInWindow_recent hle hcomparable, ← eventsInWindow_recent hle hcomparable']
  exact eventsInWindow_congr hrecent f

/-! ### Evaluations -/

theorem runsIn_congr (h : c.scheduled = c'.scheduled) : rule.runsIn c = rule.runsIn c' := by
  unfold DetectionRule.runsIn
  rw [h]

variable (rt : Runtime)

theorem evaluate_congr (hlooks : rule.LooksBack horizon) (hview : SameView horizon event c c')
    (hopen : ∀ fingerprint, fingerprint ∈ c.openFingerprints ↔ fingerprint ∈ c'.openFingerprints) :
    rule.evaluate rt event c = rule.evaluate rt event c' := by
  unfold DetectionRule.evaluate
  rw [hlooks rt event c c' hview]
  simp only [hopen]

/-- Where no rule that runs looks back further, contexts that look the same and have the same open
fingerprints are evaluated alike. -/
theorem evaluateAll_congr {rules : List DetectionRule}
    (hlooks : ∀ rule ∈ rules, rule.runsIn c = true → rule.LooksBack horizon)
    (hview : SameView horizon event c c')
    (hopen : ∀ fingerprint, fingerprint ∈ c.openFingerprints ↔ fingerprint ∈ c'.openFingerprints) :
    evaluateAll rt rules event c = evaluateAll rt rules event c' := by
  unfold evaluateAll
  refine loop_congr (fun findings rule hrule => ?_) []
  rw [← runsIn_congr hview.scheduled]
  by_cases hruns : rule.runsIn c = true
  · rw [if_pos hruns, if_pos hruns, evaluate_congr rt (hlooks rule hrule hruns) hview hopen]
  · rw [if_neg hruns, if_neg hruns]

end

/-- How far back the rules look that run in a context. -/
def DetectionContext.lookBack (c : DetectionContext) : Nat :=
  Detection.lookBack (if c.scheduled then .scheduled else .realtime)

theorem looksBack_of_runsIn {rule : DetectionRule} {c : DetectionContext}
    (hrule : rule ∈ defaultRegistry) (hruns : rule.runsIn c = true) :
    rule.LooksBack c.lookBack := by
  have hlooks := defaultRegistry_looksBack rule hrule
  unfold DetectionRule.runsIn at hruns
  unfold DetectionContext.lookBack
  cases hexecution : rule.info.execution with
  | realtime =>
      rw [hexecution] at hlooks hruns
      rw [if_neg (by simpa using hruns)]
      exact hlooks
  | scheduled =>
      rw [hexecution] at hlooks hruns
      rw [if_pos hruns]
      exact hlooks

end BlueTeam.Detection
