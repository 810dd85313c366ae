/- GID: BlueTeam/Playbook/Visit
   generality: I
   digest: Everything one visit of a step can do, and the induction over whole passes. -/

import BlueTeam.Lib.Dependency
import BlueTeam.Lib.Trace
import BlueTeam.Playbook.Engine

set_option autoImplicit false
set_option relaxedAutoImplicit false

namespace BlueTeam.Playbook

/-- The policy's answer for a step, `none` when its tier is off the enumeration. -/
def PlaybookStepDef.decision (step : PlaybookStepDef) : Option PolicyDecision :=
  (ActionTier.ofInt step.tier).map (fun tier => evaluateAction step.actionType (some tier))

/-- The steps on which `evaluate_action` answers `REQUIRE_APPROVAL`. -/
def PlaybookStepDef.Gated (step : PlaybookStepDef) : Prop :=
  step.decision = some .requireApproval

instance (step : PlaybookStepDef) : Decidable step.Gated :=
  inferInstanceAs (Decidable (step.decision = some .requireApproval))

/-- A live run holds a gated step back unless it is among the approved ones. -/
def RunConfig.Holds (cfg : RunConfig) (step : PlaybookStepDef) : Prop :=
  step.Gated ∧ cfg.dryRun = false ∧ step.id ∉ cfg.approvedSteps

/-- All dependencies are in the `completed` set. -/
def RunState.Ready (st : RunState) (step : PlaybookStepDef) : Prop :=
  ∀ dep ∈ step.dependsOn, dep ∈ st.completed

/-- The executor calls of one step, as they stand in the trace. -/
def calls (cfg : RunConfig) (step : PlaybookStepDef)
    (answers : List (Except String JsonObject)) : List TraceEvent :=
  answers.map (fun answer => .call step.id (cfg.request step) answer)

/-- What the retry loop can do: some attempts that raise, then either one that returns or
the end of the allowed attempts. -/
inductive Answered (cfg : RunConfig) (step : PlaybookStepDef) (left attempts : Nat)
    (lastError : Option String) (trace : List TraceEvent) : Attempted → Prop
  | returns (texts : List String) (outputs : JsonObject) (bound : texts.length < left) :
      Answered cfg step left attempts lastError trace
        ⟨attempts + texts.length + 1, none, outputs,
          trace ++ calls cfg step (texts.map .error ++ [.ok outputs])⟩
  | exhausts (texts : List String) (bound : texts.length = left)
      (raised : ∀ text ∈ texts, ∃ earlier, cfg.executor earlier (cfg.request step) = .error text) :
      Answered cfg step left attempts lastError trace
        ⟨attempts + texts.length, texts.getLast?.or lastError, [],
          trace ++ calls cfg step (texts.map .error)⟩

theorem attemptLoop_answered (cfg : RunConfig) (step : PlaybookStepDef) (left attempts : Nat)
    (lastError : Option String) (trace : List TraceEvent) :
    Answered cfg step left attempts lastError trace
      (attemptLoop cfg step left attempts lastError trace) := by
  induction left generalizing attempts lastError trace with
  | zero =>
      have none : Answered cfg step 0 attempts lastError trace _ := .exhausts [] rfl (by simp)
      simpa [attemptLoop, calls] using none
  | succ left ih =>
      simp only [attemptLoop]
      split
      · rename_i outputs answer
        have first : Answered cfg step (left + 1) attempts lastError trace _ :=
          .returns [] outputs (Nat.succ_pos left)
        simpa [calls] using first
      · rename_i text answer
        have rest := ih (attempts + 1) (some text)
          (trace ++ [TraceEvent.call step.id (cfg.request step) (.error text)])
        revert rest
        generalize attemptLoop cfg step left (attempts + 1) (some text)
          (trace ++ [TraceEvent.call step.id (cfg.request step) (.error text)]) = out
        intro rest
        cases rest with
        | returns texts outputs bound =>
            have all : Answered cfg step (left + 1) attempts lastError trace _ :=
              .returns (text :: texts) outputs (by simpa using bound)
            simpa [calls, Nat.add_assoc, Nat.add_comm, Nat.add_left_comm] using all
        | exhausts texts bound raised =>
            have all : Answered cfg step (left + 1) attempts lastError trace _ :=
              .exhausts (text :: texts) (by simpa using bound) (by
                intro t ht
                rcases List.mem_cons.mp ht with rfl | ht
                · exact ⟨_, answer⟩
                · exact raised t ht)
            simpa [calls, List.getLast?_cons, Nat.add_assoc, Nat.add_comm, Nat.add_left_comm]
              using all

/-- Everything one visit can do. The policy never answers `DENY`, so no visit ends there. -/
inductive Visited (cfg : RunConfig) (st : RunState) (step : PlaybookStepDef) : Flow → Prop
  | blocked (dep : String) (needed : dep ∈ step.dependsOn) (missing : dep ∉ st.completed) :
      Visited cfg st step (.next false st)
  | offTier (ready : st.Ready step) (tier : step.decision = none) :
      Visited cfg st step (.raised (st.take step))
  | held (ready : st.Ready step) (holds : cfg.Holds step) :
      Visited cfg st step (.next true ((st.take step).await step))
  | failed (ready : st.Ready step) (tier : step.decision ≠ none) (allowed : ¬ cfg.Holds step)
      (out : Attempted)
      (answered : Answered cfg step (step.retries + 1).toNat 0 none st.trace out)
      (error : out.lastError.getD "" ≠ "") :
      Visited cfg st step (.returned ((st.take step).fail step out))
  | succeeded (ready : st.Ready step) (tier : step.decision ≠ none) (allowed : ¬ cfg.Holds step)
      (out : Attempted)
      (answered : Answered cfg step (step.retries + 1).toNat 0 none st.trace out)
      (quiet : out.lastError.getD "" = "") :
      Visited cfg st step (.next true ((st.take step).succeed step out))

theorem visit_visited (cfg : RunConfig) (st : RunState) (step : PlaybookStepDef) :
    Visited cfg st step (visit cfg st step) := by
  unfold visit
  split_ifs with hdeps
  · obtain ⟨dep, needed, missing⟩ := List.any_eq_true.mp hdeps
    exact .blocked dep needed (by simpa using missing)
  · have ready : st.Ready step := by
      intro dep needed
      by_contra missing
      exact hdeps (List.any_eq_true.mpr ⟨dep, needed, by simpa using missing⟩)
    split
    · rename_i tier
      exact .offTier ready (by simp [PlaybookStepDef.decision, tier])
    · rename_i tier htier
      have hdecision : step.decision = some (evaluateAction step.actionType (some tier)) := by
        simp [PlaybookStepDef.decision, htier]
      dsimp only
      split_ifs with hheld hdeny
      · exact .held ready ⟨hdecision.trans (congrArg some hheld.1), hheld.2⟩
      · exact absurd hdeny (evaluateAction_ne_deny _ _)
      · have allowed : ¬ cfg.Holds step := by
          rintro ⟨gated, live⟩
          exact hheld ⟨Option.some.inj (hdecision.symm.trans gated), live⟩
        unfold executeStep
        have answered := attemptLoop_answered cfg step (step.retries + 1).toNat 0 none
          (st.take step).trace
        dsimp only
        split_ifs with herror
        · exact .failed ready (by simp [hdecision]) allowed _ answered herror
        · exact .succeeded ready (by simp [hdecision]) allowed _ answered (by simpa using herror)

def Flow.state : Flow → RunState
  | .next _ st => st
  | .returned st => st
  | .raised st => st

/-- Postconditions of a visit or a pass, one for each way to leave it. -/
def Flow.Ends (P Q R : RunState → Prop) : Flow → Prop
  | .next _ st => P st
  | .returned st => Q st
  | .raised st => R st

/-- Postconditions of the scheduling loop; running out of fuel leaves the invariant. -/
def LoopEnd.Ends (P Q R : RunState → Prop) : LoopEnd → Prop
  | .drained st => P st
  | .returned st => Q st
  | .raised st => R st
  | .outOfFuel st => P st

def RunState.PendingIds (st : RunState) : Prop := (st.pending.map (·.id)).Nodup

@[simp] theorem RunState.take_pending (st : RunState) (step : PlaybookStepDef) :
    (st.take step).pending = st.pending.filter (fun item => item.id ≠ step.id) := rfl

@[simp] theorem RunState.take_completed (st : RunState) (step : PlaybookStepDef) :
    (st.take step).completed = st.completed := rfl

@[simp] theorem RunState.take_steps (st : RunState) (step : PlaybookStepDef) :
    (st.take step).steps = st.steps := rfl

@[simp] theorem RunState.take_approvalRequired (st : RunState) (step : PlaybookStepDef) :
    (st.take step).approvalRequired = st.approvalRequired := rfl

@[simp] theorem RunState.take_trace (st : RunState) (step : PlaybookStepDef) :
    (st.take step).trace = st.trace := rfl

/-- A visit leaves the pending steps alone or removes exactly the visited one. -/
theorem Visited.pending {cfg : RunConfig} {st : RunState} {step : PlaybookStepDef} {flow : Flow}
    (h : Visited cfg st step flow) :
    flow = .next false st ∨
      flow.state.pending = st.pending.filter (fun item => item.id ≠ step.id) := by
  cases h with
  | blocked => exact .inl rfl
  | offTier | held | failed | succeeded => exact .inr rfl

theorem Visited.pending_sublist {cfg : RunConfig} {st : RunState} {step : PlaybookStepDef}
    {flow : Flow} (h : Visited cfg st step flow) :
    flow.state.pending.Sublist st.pending := by
  rcases h.pending with rfl | hp
  · exact List.Sublist.refl _
  · rw [hp]
    exact List.filter_sublist

theorem Visited.mem_pending {cfg : RunConfig} {st : RunState} {step other : PlaybookStepDef}
    {flow : Flow} (h : Visited cfg st step flow) (ho : other ∈ st.pending)
    (hne : other.id ≠ step.id) : other ∈ flow.state.pending := by
  rcases h.pending with rfl | hp
  · exact ho
  · rw [hp]
    exact List.mem_filter.mpr ⟨ho, by simpa using hne⟩

/-- A visit rule is a rule for passes: each step of the snapshot is still pending when its
turn comes. -/
theorem pass_ends {cfg : RunConfig} {P Q R : RunState → Prop}
    (hvisit : ∀ st step flow, P st → step ∈ st.pending → Visited cfg st step flow →
      flow.Ends P Q R)
    (snapshot : List PlaybookStepDef) (progress : Bool) (st : RunState)
    (distinct : (snapshot.map (·.id)).Nodup) (sub : ∀ step ∈ snapshot, step ∈ st.pending)
    (hst : P st) : (pass cfg snapshot progress st).Ends P Q R := by
  induction snapshot generalizing progress st with
  | nil => exact hst
  | cons step rest ih =>
      have visited := visit_visited cfg st step
      have after := hvisit st step _ hst (sub step (by simp)) visited
      have remain : ∀ other ∈ rest, other ∈ (visit cfg st step).state.pending := by
        intro other ho
        refine visited.mem_pending (sub other (by simp [ho])) ?_
        intro same
        exact (List.nodup_cons.mp distinct).1 (List.mem_map.mpr ⟨other, ho, same⟩)
      simp only [pass]
      cases hflow : visit cfg st step with
      | next moved st' =>
          rw [hflow] at after remain
          exact ih _ st' (List.nodup_cons.mp distinct).2 remain after
      | returned st' =>
          rw [hflow] at after
          exact after
      | raised st' =>
          rw [hflow] at after
          exact after

theorem pass_pendingIds {cfg : RunConfig} {st st' : RunState} {progress : Bool}
    (distinct : st.PendingIds) (h : pass cfg st.pending false st = .next progress st') :
    st'.PendingIds := by
  have ends := pass_ends (P := RunState.PendingIds) (Q := fun _ => True)
    (R := fun _ => True) (fun r step flow hr _ (hv : Visited cfg r step flow) => by
      have kept : flow.state.PendingIds := hr.sublist (hv.pending_sublist.map _)
      cases flow with
      | next moved s => exact kept
      | returned s => trivial
      | raised s => trivial) st.pending false st distinct (fun _ h => h) distinct
  rwa [h] at ends

/-- The induction over a whole run: what every visit establishes holds when the loop ends. -/
theorem scheduleLoop_ends {cfg : RunConfig} {P Q R : RunState → Prop}
    (hvisit : ∀ st step flow, P st → step ∈ st.pending → Visited cfg st step flow →
      flow.Ends P Q R)
    (fuel : Nat) (st : RunState) (distinct : st.PendingIds) (hst : P st) :
    (scheduleLoop cfg fuel st).Ends P Q R := by
  induction fuel generalizing st with
  | zero => exact hst
  | succ fuel ih =>
      simp only [scheduleLoop]
      split_ifs
      · exact hst
      · have ends := pass_ends hvisit st.pending false st distinct (fun _ h => h) hst
        cases hpass : pass cfg st.pending false st with
        | next progress st' =>
            rw [hpass] at ends
            cases progress with
            | true => exact ih st' (pass_pendingIds distinct hpass) ends
            | false => exact ends
        | returned st' =>
            rw [hpass] at ends
            exact ends
        | raised st' =>
            rw [hpass] at ends
            exact ends

theorem pass_progress_kept {cfg : RunConfig} (snapshot : List PlaybookStepDef) (st st' : RunState) :
    pass cfg snapshot true st ≠ .next false st' := by
  induction snapshot generalizing st with
  | nil => simp [pass]
  | cons step rest ih =>
      simp only [pass, Bool.true_or]
      cases visit cfg st step with
      | next moved s => exact ih s
      | returned s => simp
      | raised s => simp

/-- A pass without progress changed nothing and met only blocked steps. -/
theorem pass_idle {cfg : RunConfig} (snapshot : List PlaybookStepDef) (st st' : RunState)
    (h : pass cfg snapshot false st = .next false st') :
    st' = st ∧ ∀ step ∈ snapshot, ¬ st.Ready step := by
  induction snapshot generalizing st with
  | nil =>
      simp only [pass, Flow.next.injEq, true_and] at h
      exact ⟨h.symm, by simp⟩
  | cons step rest ih =>
      have visited := visit_visited cfg st step
      simp only [pass] at h
      cases hflow : visit cfg st step with
      | returned s => simp [hflow] at h
      | raised s => simp [hflow] at h
      | next moved s =>
          simp only [hflow, Bool.false_or] at h
          rw [hflow] at visited
          cases visited with
          | blocked dep needed missing =>
              obtain ⟨rfl, hrest⟩ := ih st h
              refine ⟨rfl, ?_⟩
              intro other ho
              rcases List.mem_cons.mp ho with rfl | ho
              · exact fun ready => missing (ready dep needed)
              · exact hrest other ho
          | held ready holds => exact absurd h (pass_progress_kept rest _ st')
          | succeeded ready tier allowed out answered quiet =>
              exact absurd h (pass_progress_kept rest _ st')

/-- A pass that reports progress has removed a step from the pending ones. -/
theorem pass_shrinks {cfg : RunConfig} (snapshot : List PlaybookStepDef) (st st' : RunState)
    (distinct : (snapshot.map (·.id)).Nodup) (sub : ∀ step ∈ snapshot, step ∈ st.pending)
    (h : pass cfg snapshot false st = .next true st') : st'.pending.length < st.pending.length := by
  have keep : ∀ (rest : List PlaybookStepDef) (s : RunState), (rest.map (·.id)).Nodup →
      (∀ step ∈ rest, step ∈ s.pending) → s.pending.length < st.pending.length →
      pass cfg rest true s = .next true st' → st'.pending.length < st.pending.length := by
    intro rest s hdistinct hsub hlt hpass
    have ends := pass_ends (P := fun r => r.pending.length < st.pending.length)
      (Q := fun _ => True) (R := fun _ => True) (fun r step flow hr _ (hv : Visited cfg r step flow) => by
        have kept := lt_of_le_of_lt hv.pending_sublist.length_le hr
        cases flow with
        | next moved s => exact kept
        | returned s => trivial
        | raised s => trivial) rest true s hdistinct hsub hlt
    rwa [hpass] at ends
  induction snapshot with
  | nil => simp [pass] at h
  | cons step rest ih =>
      have visited := visit_visited cfg st step
      have hstep := sub step (by simp)
      have hrest := (List.nodup_cons.mp distinct).2
      simp only [pass] at h
      cases hflow : visit cfg st step with
      | returned s => simp [hflow] at h
      | raised s => simp [hflow] at h
      | next moved s =>
          simp only [hflow, Bool.false_or] at h
          rw [hflow] at visited
          rcases visited.pending with hblocked | hp
          · obtain ⟨rfl, rfl⟩ := Flow.next.injEq .. ▸ hblocked
            exact ih hrest (fun other ho => sub other (by simp [ho])) h
          · have hmem : ∀ other ∈ rest, other ∈ s.pending := by
              intro other ho
              refine visited.mem_pending (sub other (by simp [ho])) ?_
              intro same
              exact (List.nodup_cons.mp distinct).1 (List.mem_map.mpr ⟨other, ho, same⟩)
            have hlt : s.pending.length < st.pending.length := by
              change s.pending = _ at hp
              rw [hp]
              exact List.length_filter_lt_length_iff_exists.mpr ⟨step, hstep, by simp⟩
            cases visited with
            | blocked dep needed missing => exact absurd hlt (lt_irrefl _)
            | held ready holds => exact keep rest _ hrest hmem hlt h
            | succeeded ready tier allowed out answered quiet => exact keep rest _ hrest hmem hlt h

/-- As many passes as there are pending steps, and one more, always suffice. -/
theorem scheduleLoop_terminates (cfg : RunConfig) (fuel : Nat) (st : RunState)
    (distinct : st.PendingIds) (enough : st.pending.length < fuel) :
    ∀ st', scheduleLoop cfg fuel st ≠ .outOfFuel st' := by
  induction fuel generalizing st with
  | zero => omega
  | succ fuel ih =>
      intro st'
      simp only [scheduleLoop]
      split_ifs
      · simp
      · cases hpass : pass cfg st.pending false st with
        | returned s => simp
        | raised s => simp
        | next progress s =>
            cases progress with
            | false => simp
            | true =>
                have shrinks := pass_shrinks st.pending st s distinct (fun _ h => h) hpass
                exact ih s (pass_pendingIds distinct hpass) (by omega) st'

/-- A loop that ends by itself leaves only blocked steps behind. -/
theorem scheduleLoop_drained (cfg : RunConfig) (fuel : Nat) (st st' : RunState)
    (h : scheduleLoop cfg fuel st = .drained st') : ∀ step ∈ st'.pending, ¬ st'.Ready step := by
  induction fuel generalizing st with
  | zero => simp [scheduleLoop] at h
  | succ fuel ih =>
      simp only [scheduleLoop] at h
      split_ifs at h with hempty
      · obtain rfl := LoopEnd.drained.inj h
        simp [List.isEmpty_iff.mp hempty]
      · cases hpass : pass cfg st.pending false st with
        | returned s => simp [hpass] at h
        | raised s => simp [hpass] at h
        | next progress s =>
            cases progress with
            | true => exact ih s (by simpa [hpass] using h)
            | false =>
                obtain ⟨rfl, blocked⟩ := pass_idle st.pending st s hpass
                obtain rfl : s = st' := by simpa [hpass] using h
                exact blocked

end BlueTeam.Playbook
