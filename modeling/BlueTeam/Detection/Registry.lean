/- GID: BlueTeam/Detection/Registry
   generality: I
   source: packages/detection-sdk/blueteam_detection/registry.py
   digest: A registry of rules as those who ask it see it. -/

import BlueTeam.Detection.Catalog

set_option autoImplicit false
set_option relaxedAutoImplicit false

namespace BlueTeam.Detection

open BlueTeam.Python BlueTeam.Schema BlueTeam.Lib

/-- `registry.evaluate(event, context)`, for whatever rules are registered. -/
abbrev Registry := CanonicalEvent → DetectionContext → Draw (List Finding)

/-- The registry of some rules of the SDK. -/
def registryOf (rt : Runtime) (rules : List DetectionRule) : Registry :=
  evaluateAll rt rules

/-- A rule finds this for the event: it selects something whose fingerprint is not open. -/
structure DetectionRule.Finds (rt : Runtime) (rule : DetectionRule) (context : DetectionContext)
    (event : CanonicalEvent) (finding : Finding) : Prop where
  selects : ∃ selection, rule.selects rt context event = .ok (some selection) ∧
    finding.fingerprint = rule.fingerprint event.tenantId selection.tail
  closed : finding.fingerprint ∉ context.openFingerprints
  ruleId : finding.ruleId = rule.info.ruleId

theorem findingFromEvents_spec (rt : Runtime) (rule : DetectionRule) (trigger : CanonicalEvent)
    (related : List CanonicalEvent) (fingerprint explanation : String) :
    Exec.Triple (fun _ => True)
      (findingFromEvents rt rule trigger related fingerprint explanation)
      (fun finding _ => finding.fingerprint = fingerprint ∧ finding.ruleId = rule.info.ruleId)
      (fun _ _ => True) := by
  unfold findingFromEvents
  refine Exec.triple_bind (Q := fun _ _ => True) ⟨fun _ _ => trivial⟩ fun id => ?_
  refine Exec.triple_bind (Q := fun _ _ => True) ⟨fun _ _ => trivial⟩ fun createdAt => ?_
  refine Exec.triple_bind (Q := fun _ _ => True) ?_ fun attributes => ?_
  · exact Exec.triple_lift (fun _ _ _ _ => trivial) (fun _ _ _ _ => trivial)
  · exact Exec.triple_pure fun _ _ => ⟨rfl, rfl⟩

theorem evaluate_finds (rt : Runtime) (rule : DetectionRule) (event : CanonicalEvent)
    (context : DetectionContext) :
    Exec.Triple (fun _ => True) (rule.evaluate rt event context)
      (fun findings _ => ∀ finding ∈ findings, rule.Finds rt context event finding)
      (fun _ _ => True) := by
  unfold DetectionRule.evaluate
  refine Exec.triple_bind (Q := fun selected _ => rule.selects rt context event = .ok selected) ?_
    fun selected => ?_
  · exact Exec.triple_lift (fun _ _ h _ => h) (fun _ _ _ _ => trivial)
  · cases selected with
    | none => exact Exec.triple_pure fun _ _ _ hf => absurd hf List.not_mem_nil
    | some selection =>
        dsimp only
        split
        · exact Exec.triple_pure fun _ _ _ hf => absurd hf List.not_mem_nil
        · rename_i hclosed
          apply Exec.triple_from
          intro _ hselects
          apply Exec.triple_bind ((findingFromEvents_spec rt rule event selection.related
            (rule.fingerprint event.tenantId selection.tail) selection.explanation).pre
              fun _ _ => trivial)
          intro finding
          apply Exec.triple_pure
          rintro _ ⟨hfingerprint, hid⟩ other hother
          obtain rfl := List.mem_singleton.mp hother
          refine ⟨⟨selection, hselects, hfingerprint⟩, ?_, hid⟩
          rw [hfingerprint]
          exact hclosed

/-- What a registry finds, one of its rules finds. -/
theorem evaluateAll_finds (rt : Runtime) (rules : List DetectionRule) (event : CanonicalEvent)
    (context : DetectionContext) :
    Exec.Triple (fun _ => True) (evaluateAll rt rules event context)
      (fun findings _ => ∀ finding ∈ findings, ∃ rule ∈ rules, rule.runsIn context = true ∧
        rule.Finds rt context event finding) (fun _ _ => True) := by
  let I : List Finding → List DetectionRule → Ticks → Prop := fun findings rest _ =>
    rest ⊆ rules ∧ ∀ finding ∈ findings, ∃ rule ∈ rules, rule.runsIn context = true ∧
      rule.Finds rt context event finding
  unfold evaluateAll
  apply ((Exec.triple_loop I ?_ [] rules).pre ?_).post
  · intro _ _ hI
    exact hI.2
  · intro findings rule rest
    split
    · rename_i hruns
      constructor
      rintro ticks ⟨hrest, hfound⟩
      have hmore := (evaluate_finds rt rule event context).run ticks trivial
      rw [Exec.bind_run]
      rcases hm : rule.evaluate rt event context ticks with ⟨⟨e⟩ | ⟨more⟩, ticks'⟩
      · trivial
      · rw [hm] at hmore
        refine ⟨fun r hr => hrest (List.mem_cons_of_mem _ hr), ?_⟩
        intro finding hf
        rcases List.mem_append.mp hf with hf | hf
        · exact hfound finding hf
        · exact ⟨rule, hrest List.mem_cons_self, hruns, hmore finding hf⟩
    · apply Exec.triple_pure
      rintro _ ⟨hrest, hfound⟩
      exact ⟨fun r hr => hrest (List.mem_cons_of_mem _ hr), hfound⟩
  · intro _ _
    exact ⟨List.Subset.refl _, fun _ hf => absurd hf List.not_mem_nil⟩

/-- The rule was asked, and its finding is there if it selects something whose fingerprint is not
open. -/
def DetectionRule.Asked (rt : Runtime) (rule : DetectionRule) (context : DetectionContext)
    (event : CanonicalEvent) (findings : List Finding) : Prop :=
  ∃ selected, rule.selects rt context event = .ok selected ∧
    ∀ selection, selected = some selection →
      rule.fingerprint event.tenantId selection.tail ∉ context.openFingerprints →
      ∃ finding ∈ findings, finding.ruleId = rule.info.ruleId

theorem DetectionRule.Asked.mono {rt : Runtime} {rule : DetectionRule} {context : DetectionContext}
    {event : CanonicalEvent} {findings more : List Finding}
    (h : rule.Asked rt context event findings) (hmore : findings ⊆ more) :
    rule.Asked rt context event more := by
  obtain ⟨selected, hselects, hfound⟩ := h
  refine ⟨selected, hselects, fun selection hsome hclosed => ?_⟩
  obtain ⟨finding, hmem, hid⟩ := hfound selection hsome hclosed
  exact ⟨finding, hmore hmem, hid⟩

theorem evaluate_asks (rt : Runtime) (rule : DetectionRule) (event : CanonicalEvent)
    (context : DetectionContext) :
    Exec.Triple (fun _ => True) (rule.evaluate rt event context)
      (fun findings _ => rule.Asked rt context event findings) (fun _ _ => True) := by
  unfold DetectionRule.evaluate
  refine Exec.triple_bind (Q := fun selected _ => rule.selects rt context event = .ok selected) ?_
    fun selected => ?_
  · exact Exec.triple_lift (fun _ _ h _ => h) (fun _ _ _ _ => trivial)
  · cases selected with
    | none =>
        apply Exec.triple_pure
        intro _ hselects
        exact ⟨none, hselects, fun _ hsome => by cases hsome⟩
    | some selection =>
        dsimp only
        split
        · rename_i hopen
          apply Exec.triple_pure
          intro _ hselects
          refine ⟨some selection, hselects, ?_⟩
          rintro _ ⟨⟩ hclosed
          exact absurd hopen hclosed
        · apply Exec.triple_from
          intro _ hselects
          apply Exec.triple_bind ((findingFromEvents_spec rt rule event selection.related
            (rule.fingerprint event.tenantId selection.tail) selection.explanation).pre
              fun _ _ => trivial)
          intro finding
          apply Exec.triple_pure
          rintro _ ⟨-, hid⟩
          exact ⟨some selection, hselects, fun _ _ _ => ⟨finding, List.mem_singleton_self _, hid⟩⟩

/-- A registry that returns has asked each of its rules. -/
theorem evaluateAll_asks (rt : Runtime) {rules : List DetectionRule} {rule : DetectionRule}
    (hrule : rule ∈ rules) {context : DetectionContext} (hruns : rule.runsIn context = true)
    (event : CanonicalEvent) :
    Exec.Triple (fun _ => True) (evaluateAll rt rules event context)
      (fun findings _ => rule.Asked rt context event findings) (fun _ _ => True) := by
  unfold evaluateAll
  apply ((Exec.triple_loop (fun findings rest (_ : Ticks) =>
    rule ∈ rest ∨ rule.Asked rt context event findings) ?_ [] rules).pre ?_).post
  · rintro findings _ (hrest | hasked)
    · cases hrest
    · exact hasked
  · intro findings next rest
    by_cases hnext : next.runsIn context = true
    · rw [if_pos hnext]
      constructor
      intro ticks hstart
      have hmore := (evaluate_asks rt next event context).run ticks trivial
      rw [Exec.bind_run]
      rcases hm : next.evaluate rt event context ticks with ⟨⟨e⟩ | ⟨more⟩, ticks'⟩
      · trivial
      · rw [hm] at hmore
        rcases hstart with hrest | hasked
        · rcases List.mem_cons.mp hrest with rfl | hrest
          · exact .inr (hmore.mono (List.subset_append_right _ _))
          · exact .inl hrest
        · exact .inr (hasked.mono (List.subset_append_left _ _))
    · rw [if_neg hnext]
      apply Exec.triple_pure
      rintro _ (hrest | hasked)
      · rcases List.mem_cons.mp hrest with rfl | hrest
        · exact absurd hruns hnext
        · exact .inl hrest
      · exact .inr hasked
  · intro _ _
    exact .inl hrule

/-- So it is silent where the fingerprint is open. -/
theorem evaluateAll_not_open (rt : Runtime) (rules : List DetectionRule) (event : CanonicalEvent)
    (context : DetectionContext) :
    Exec.Triple (fun _ => True) (evaluateAll rt rules event context)
      (fun findings _ => ∀ finding ∈ findings,
        finding.fingerprint ∉ context.openFingerprints) (fun _ _ => True) := by
  apply (evaluateAll_finds rt rules event context).post
  intro findings _ hfound finding hmem
  obtain ⟨rule, -, -, hfinds⟩ := hfound finding hmem
  exact hfinds.closed

/-- `context.open_fingerprints.add(finding.fingerprint)`, for each finding. -/
def DetectionContext.opening (context : DetectionContext) (findings : List Finding) :
    DetectionContext :=
  { context with
    openFingerprints := context.openFingerprints ++ findings.map (·.fingerprint) }

end BlueTeam.Detection
