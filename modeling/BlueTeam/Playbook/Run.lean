/- GID: BlueTeam/Playbook/Run
   generality: I
   digest: What one run of a playbook can do, over every dependency graph and executor. -/

import BlueTeam.Playbook.Visit

set_option autoImplicit false
set_option relaxedAutoImplicit false

namespace BlueTeam.Playbook

open BlueTeam.Lib.Dependency
open BlueTeam.Lib.Trace

def TraceEvent.record? : TraceEvent → Option StepRun
  | .call _ _ _ => none
  | .record stepRun => some stepRun

def recordsIn (trace : List TraceEvent) : List StepRun := trace.filterMap TraceEvent.record?

/-- The answers of the executor to the calls made for one step id. -/
def callsOf (id : String) (trace : List TraceEvent) : List (Except String JsonObject) :=
  trace.filterMap fun
    | .call stepId _ answer => if stepId = id then some answer else none
    | .record _ => none

def Succeeded (steps : List StepRun) (id : String) : Prop :=
  ∃ r ∈ steps, r.stepId = id ∧ r.status = .success

def Awaiting (steps : List StepRun) (id : String) : Prop :=
  ∃ r ∈ steps, r.stepId = id ∧ r.status = .awaitingApproval

/-- The dependency relation of a playbook on step ids. -/
def DependsOn (all : List PlaybookStepDef) (a b : String) : Prop :=
  ∃ s ∈ all, s.id = a ∧ b ∈ s.dependsOn

/-- The id names a step that the run would not hold back. -/
def Admits (cfg : RunConfig) (all : List PlaybookStepDef) (id : String) : Prop :=
  ∃ s ∈ all, s.id = id ∧ ¬ cfg.Holds s

/-- A call is made for a step of the playbook that is not held back, with that step's
arguments, and after its dependencies have been recorded as successes. -/
def CallOk (cfg : RunConfig) (all : List PlaybookStepDef) (before : List TraceEvent) :
    TraceEvent → Prop
  | .call id request _ =>
      ∃ s ∈ all, s.id = id ∧ request = cfg.request s ∧ ¬ cfg.Holds s ∧
        ∀ dep ∈ s.dependsOn, Succeeded (recordsIn before) dep
  | .record _ => True

/-- The state after a step has been taken, called with these answers and recorded. -/
def RunState.extend (st : RunState) (cfg : RunConfig) (step : PlaybookStepDef)
    (answers : List (Except String JsonObject)) (r : StepRun) : RunState where
  completed := if r.status = .success then st.completed ++ [r.stepId] else st.completed
  pending := st.pending.filter (fun item => item.id ≠ step.id)
  steps := st.steps ++ [r]
  approvalRequired :=
    if r.status = .awaitingApproval then st.approvalRequired ++ [r.stepId] else st.approvalRequired
  trace := st.trace ++ calls cfg step answers ++ [.record r]

/-- The conditions under which a visit extends the state. -/
structure Extension (cfg : RunConfig) (st : RunState) (step : PlaybookStepDef)
    (answers : List (Except String JsonObject)) (r : StepRun) : Prop where
  named : r.stepId = step.id
  ready : st.Ready step
  tier : step.decision ≠ none
  held : cfg.Holds step → answers = [] ∧ r.status = .awaitingApproval
  awaits : r.status = .awaitingApproval → cfg.Holds step
  bound : answers.length ≤ (step.retries + 1).toNat
  once : answers.countP (·.isOk) ≤ 1

theorem Answered.effect {cfg : RunConfig} {step : PlaybookStepDef} {left : Nat}
    {trace : List TraceEvent} {out : Attempted}
    (h : Answered cfg step left 0 none trace out) :
    ∃ answers, out.trace = trace ++ calls cfg step answers ∧ answers.length ≤ left ∧
      answers.countP (·.isOk) ≤ 1 := by
  cases h with
  | returns texts outputs bound =>
      refine ⟨_, rfl, by simpa using Nat.succ_le_of_lt bound, ?_⟩
      simp [List.countP_append, List.countP_map, Function.comp_def, Except.isOk, Except.toBool]
  | exhausts texts bound raised =>
      refine ⟨_, rfl, by simp [bound], ?_⟩
      simp [List.countP_map, Function.comp_def, Except.isOk, Except.toBool]

/-- Every visit either leaves the state, raises, or extends it by one record; a failed
record is exactly what makes the run return early. -/
theorem Visited.effect {cfg : RunConfig} {st : RunState} {step : PlaybookStepDef} {flow : Flow}
    (h : Visited cfg st step flow) :
    (flow = .next false st ∧ ¬ st.Ready step) ∨
    (flow = .raised (st.take step) ∧ step.decision = none) ∨
    ∃ answers r, Extension cfg st step answers r ∧
      ((flow = .next true (st.extend cfg step answers r) ∧
          (r.status = .success ∨ r.status = .awaitingApproval)) ∨
        (flow = .returned (st.extend cfg step answers r) ∧ r.status = .failed)) := by
  cases h with
  | blocked dep needed missing => exact .inl ⟨rfl, fun ready => missing (ready dep needed)⟩
  | offTier ready tier => exact .inr (.inl ⟨rfl, tier⟩)
  | held ready holds =>
      refine .inr (.inr ⟨[], awaitingRun step, ⟨rfl, ready,
        by rw [holds.1]; simp, fun _ => ⟨rfl, rfl⟩, fun _ => holds, by simp, by simp⟩, .inl ⟨?_, .inr rfl⟩⟩)
      simp [RunState.await, RunState.append, RunState.extend, RunState.take, calls, awaitingRun]
  | failed ready tier allowed out answered error =>
      obtain ⟨answers, htrace, bound, once⟩ := answered.effect
      refine .inr (.inr ⟨answers, failedRun step out, ⟨rfl, ready, tier,
        fun hold => absurd hold allowed, by simp [failedRun], bound, once⟩, .inr ⟨?_, rfl⟩⟩)
      simp [RunState.fail, RunState.append, RunState.extend, RunState.take, htrace, failedRun]
  | succeeded ready tier allowed out answered quiet =>
      obtain ⟨answers, htrace, bound, once⟩ := answered.effect
      refine .inr (.inr ⟨answers, successRun step out, ⟨rfl, ready, tier,
        fun hold => absurd hold allowed, by simp [successRun], bound, once⟩, .inl ⟨?_, .inl rfl⟩⟩)
      simp [RunState.succeed, RunState.append, RunState.extend, RunState.take, htrace, successRun]

/-- The invariant of the scheduling loop, for any playbook and any executor. -/
structure RunInv (cfg : RunConfig) (all : List PlaybookStepDef) (st : RunState) : Prop where
  sublist : st.pending.Sublist all
  records : recordsIn st.trace = st.steps
  completed : ∀ d, d ∈ st.completed ↔ Succeeded st.steps d
  awaiting : ∀ d, d ∈ st.approvalRequired ↔ Awaiting st.steps d
  known : ∀ r ∈ st.steps, ∃ s ∈ all, s.id = r.stepId ∧ s.decision ≠ none ∧ st.Ready s ∧
    (r.status = .awaitingApproval → cfg.Holds s)
  settled : ∀ r ∈ st.steps, ∀ s ∈ st.pending, s.id ≠ r.stepId
  distinct : (st.steps.map (·.stepId)).Nodup
  calls : Always (CallOk cfg all) st.trace
  fresh : ∀ s ∈ st.pending, callsOf s.id st.trace = []
  bounded : ∀ s ∈ all, (callsOf s.id st.trace).length ≤ (s.retries + 1).toNat
  once : ∀ id, (callsOf id st.trace).countP (·.isOk) ≤ 1
  enabled : ∀ d ∈ st.completed, Enabled (DependsOn all) (Admits cfg all) d

theorem RunInv.initial (cfg : RunConfig) (all : List PlaybookStepDef) :
    RunInv cfg all { pending := all } where
  sublist := List.Sublist.refl _
  records := rfl
  completed := by simp [Succeeded]
  awaiting := by simp [Awaiting]
  known := by simp
  settled := by simp
  distinct := by simp
  calls := always_nil
  fresh := by simp [callsOf]
  bounded := by simp [callsOf]
  once := by simp [callsOf]
  enabled := by simp

@[simp] theorem recordsIn_append (l m : List TraceEvent) :
    recordsIn (l ++ m) = recordsIn l ++ recordsIn m := by
  simp [recordsIn]

@[simp] theorem recordsIn_calls (cfg : RunConfig) (step : PlaybookStepDef)
    (answers : List (Except String JsonObject)) : recordsIn (calls cfg step answers) = [] := by
  simp [recordsIn, calls, TraceEvent.record?]

@[simp] theorem recordsIn_record (r : StepRun) : recordsIn [.record r] = [r] := rfl

@[simp] theorem callsOf_append (id : String) (l m : List TraceEvent) :
    callsOf id (l ++ m) = callsOf id l ++ callsOf id m := by
  simp [callsOf]

@[simp] theorem callsOf_record (id : String) (r : StepRun) : callsOf id [.record r] = [] := rfl

@[simp] theorem callsOf_calls (id : String) (cfg : RunConfig) (step : PlaybookStepDef)
    (answers : List (Except String JsonObject)) :
    callsOf id (calls cfg step answers) = if step.id = id then answers else [] := by
  induction answers with
  | nil => simp [callsOf, calls]
  | cons answer answers ih =>
      simp only [calls, List.map_cons, callsOf, List.filterMap_cons] at ih ⊢
      split_ifs with h <;> simp_all

theorem eq_of_id_eq {all : List PlaybookStepDef} (distinct : (all.map (·.id)).Nodup)
    {s t : PlaybookStepDef} (hs : s ∈ all) (ht : t ∈ all) (h : s.id = t.id) : s = t :=
  List.inj_on_of_nodup_map distinct hs ht h

theorem Succeeded.append {steps : List StepRun} {d : String} (h : Succeeded steps d)
    (more : List StepRun) : Succeeded (steps ++ more) d := by
  obtain ⟨r, hr, hd⟩ := h
  exact ⟨r, List.mem_append_left _ hr, hd⟩

theorem callOk_stable (cfg : RunConfig) (all : List PlaybookStepDef)
    (before more : List TraceEvent) (e : TraceEvent) (h : CallOk cfg all before e) :
    CallOk cfg all (before ++ more) e := by
  cases e with
  | record r => trivial
  | call id request answer =>
      obtain ⟨s, hs, hid, hrequest, allowed, deps⟩ := h
      refine ⟨s, hs, hid, hrequest, allowed, ?_⟩
      intro dep hdep
      rw [recordsIn_append]
      exact (deps dep hdep).append _

theorem RunInv.extend {cfg : RunConfig} {all : List PlaybookStepDef} {st : RunState}
    {step : PlaybookStepDef} {answers : List (Except String JsonObject)} {r : StepRun}
    (inv : RunInv cfg all st) (ids : (all.map (·.id)).Nodup) (hstep : step ∈ st.pending)
    (ext : Extension cfg st step answers r) : RunInv cfg all (st.extend cfg step answers r) := by
  have hall : step ∈ all := inv.sublist.subset hstep
  have hfresh := inv.fresh step hstep
  have unrecorded : ∀ r' ∈ st.steps, r'.stepId ≠ step.id :=
    fun r' hr' h => inv.settled r' hr' step hstep h.symm
  have deps : ∀ dep ∈ step.dependsOn, Succeeded (recordsIn st.trace) dep := by
    intro dep hdep
    rw [inv.records]
    exact (inv.completed dep).mp (ext.ready dep hdep)
  have grow : ∀ dep ∈ st.completed, dep ∈ (st.extend cfg step answers r).completed := by
    intro dep hdep
    simp only [RunState.extend]
    split_ifs
    · exact List.mem_append_left _ hdep
    · exact hdep
  refine ⟨?_, ?_, ?_, ?_, ?_, ?_, ?_, ?_, ?_, ?_, ?_, ?_⟩
  · exact List.filter_sublist.trans inv.sublist
  · simp [RunState.extend, inv.records]
  · intro d
    have old := inv.completed d
    by_cases hs : r.status = .success
    · simp [RunState.extend, hs, old, Succeeded, or_and_right, exists_or, eq_comm]
    · simp [RunState.extend, hs, old, Succeeded, or_and_right, exists_or]
  · intro d
    have old := inv.awaiting d
    by_cases hs : r.status = .awaitingApproval
    · simp [RunState.extend, hs, old, Awaiting, or_and_right, exists_or, eq_comm]
    · simp [RunState.extend, hs, old, Awaiting, or_and_right, exists_or]
  · intro r' hr'
    rcases List.mem_append.mp hr' with hr' | hr'
    · obtain ⟨s, hs, hid, htier, hready, hheld⟩ := inv.known r' hr'
      exact ⟨s, hs, hid, htier, fun dep hdep => grow dep (hready dep hdep), hheld⟩
    · obtain rfl := List.mem_singleton.mp hr'
      exact ⟨step, hall, ext.named.symm, ext.tier, fun dep hdep => grow dep (ext.ready dep hdep),
        ext.awaits⟩
  · intro r' hr' s hs
    obtain ⟨hpending, hne⟩ := List.mem_filter.mp hs
    rcases List.mem_append.mp hr' with hr' | hr'
    · exact inv.settled r' hr' s hpending
    · obtain rfl := List.mem_singleton.mp hr'
      rw [ext.named]
      simpa using hne
  · simp only [RunState.extend, List.map_append, List.map_cons, List.map_nil]
    refine List.nodup_append.mpr ⟨inv.distinct, by simp, ?_⟩
    intro a ha b hb
    obtain ⟨r', hr', rfl⟩ := List.mem_map.mp ha
    rw [List.mem_singleton.mp hb, ext.named]
    exact unrecorded r' hr'
  · refine (always_concat _ _).mpr ⟨?_, trivial⟩
    refine inv.calls.append_of_stable (callOk_stable cfg all) ?_
    intro e he
    obtain ⟨answer, hanswer, rfl⟩ := List.mem_map.mp he
    refine ⟨step, hall, rfl, rfl, ?_, deps⟩
    intro holds
    rw [(ext.held holds).1] at hanswer
    simp at hanswer
  · intro s hs
    obtain ⟨hpending, hne⟩ := List.mem_filter.mp hs
    have hne : ¬ step.id = s.id := fun h => by simp [h] at hne
    simp [RunState.extend, inv.fresh s hpending, hne]
  · intro s hs
    by_cases hid : step.id = s.id
    · obtain rfl := eq_of_id_eq ids hall hs hid
      simpa [RunState.extend, hfresh] using ext.bound
    · simpa [RunState.extend, hid] using inv.bounded s hs
  · intro id
    by_cases hid : step.id = id
    · subst hid
      simpa [RunState.extend, hfresh] using ext.once
    · simpa [RunState.extend, hid] using inv.once id
  · have hnew : r.status = .success → Enabled (DependsOn all) (Admits cfg all) step.id := by
      intro hs
      refine .intro ⟨step, hall, rfl, ?_⟩ ?_
      · intro holds
        rw [(ext.held holds).2] at hs
        simp at hs
      · rintro d ⟨s, hsall, hsid, hd⟩
        obtain rfl := eq_of_id_eq ids hsall hall hsid
        exact inv.enabled d (ext.ready d hd)
    intro d hd
    simp only [RunState.extend] at hd
    split_ifs at hd with hs
    · rcases List.mem_append.mp hd with hd | hd
      · exact inv.enabled d hd
      · rw [List.mem_singleton.mp hd, ext.named]
        exact hnew hs
    · exact inv.enabled d hd

theorem RunInv.take {cfg : RunConfig} {all : List PlaybookStepDef} {st : RunState}
    (inv : RunInv cfg all st) (step : PlaybookStepDef) : RunInv cfg all (st.take step) where
  sublist := List.filter_sublist.trans inv.sublist
  records := inv.records
  completed := inv.completed
  awaiting := inv.awaiting
  known := inv.known
  settled := fun r hr s hs => inv.settled r hr s (List.mem_filter.mp hs).1
  distinct := inv.distinct
  calls := inv.calls
  fresh := fun s hs => inv.fresh s (List.mem_filter.mp hs).1
  bounded := inv.bounded
  once := inv.once
  enabled := inv.enabled

theorem RunInv.visit {cfg : RunConfig} {all : List PlaybookStepDef} {st : RunState}
    {step : PlaybookStepDef} {flow : Flow} (inv : RunInv cfg all st)
    (ids : (all.map (·.id)).Nodup) (hstep : step ∈ st.pending) (h : Visited cfg st step flow) :
    RunInv cfg all flow.state := by
  rcases h.effect with ⟨rfl, -⟩ | ⟨rfl, -⟩ | ⟨answers, r, ext, ⟨rfl, -⟩ | ⟨rfl, -⟩⟩
  · exact inv
  · exact inv.take step
  · exact inv.extend ids hstep ext
  · exact inv.extend ids hstep ext

/-- Every step is still pending or has a record. -/
def Covered (all : List PlaybookStepDef) (st : RunState) : Prop :=
  ∀ s ∈ all, s ∈ st.pending ∨ ∃ r ∈ st.steps, r.stepId = s.id

/-- No step has failed so far. -/
def Quiet (st : RunState) : Prop :=
  ∀ r ∈ st.steps, r.status = .success ∨ r.status = .awaitingApproval

theorem Covered.extend {cfg : RunConfig} {all : List PlaybookStepDef} {st : RunState}
    {step : PlaybookStepDef} {answers : List (Except String JsonObject)} {r : StepRun}
    (covered : Covered all st) (named : r.stepId = step.id) :
    Covered all (st.extend cfg step answers r) := by
  intro s hs
  by_cases hid : s.id = step.id
  · exact .inr ⟨r, by simp [RunState.extend], named.trans hid.symm⟩
  · rcases covered s hs with hp | ⟨r', hr', hid'⟩
    · exact .inl (List.mem_filter.mpr ⟨hp, by simpa using hid⟩)
    · exact .inr ⟨r', by simp [RunState.extend, hr'], hid'⟩

theorem scheduleLoop_run (cfg : RunConfig) (all : List PlaybookStepDef)
    (ids : (all.map (·.id)).Nodup) (fuel : Nat) :
    (scheduleLoop cfg fuel { pending := all }).Ends
      (fun st => RunInv cfg all st ∧ Covered all st ∧ Quiet st)
      (fun st => RunInv cfg all st ∧ ∃ r ∈ st.steps, r.status = .failed)
      (fun st => RunInv cfg all st ∧ ∃ s ∈ all, s.decision = none) := by
  refine scheduleLoop_ends ?_ fuel _ ids
    ⟨RunInv.initial cfg all, fun s hs => .inl hs, by simp [Quiet]⟩
  rintro st step flow ⟨inv, covered, quiet⟩ hstep visited
  have after := inv.visit ids hstep visited
  rcases visited.effect with ⟨rfl, -⟩ | ⟨rfl, tier⟩ | ⟨answers, r, ext, ⟨rfl, hs⟩ | ⟨rfl, hs⟩⟩
  · exact ⟨inv, covered, quiet⟩
  · exact ⟨after, step, inv.sublist.subset hstep, tier⟩
  · refine ⟨after, covered.extend ext.named, ?_⟩
    intro r' hr'
    rcases List.mem_append.mp hr' with hr' | hr'
    · exact quiet r' hr'
    · rw [List.mem_singleton.mp hr']
      exact hs
  · exact ⟨after, r, by simp [RunState.extend], hs⟩

private theorem putStep_ids (pending : List PlaybookStepDef) (step : PlaybookStepDef) :
    (putStep pending step).map (·.id) =
      if step.id ∈ pending.map (·.id) then pending.map (·.id)
      else pending.map (·.id) ++ [step.id] := by
  have hany : pending.any (fun item => item.id = step.id) = true ↔
      step.id ∈ pending.map (·.id) := by
    simp [List.any_eq_true]
  unfold putStep
  split_ifs with h₁ h₂ h₂
  · rw [List.map_map]
    refine List.map_congr_left ?_
    intro item _
    simp only [Function.comp_apply]
    split_ifs with h
    · exact h.symm
    · rfl
  · exact absurd (hany.mp h₁) h₂
  · exact absurd (hany.mpr h₂) h₁
  · simp

private theorem pendingOf_ids_fold (steps acc : List PlaybookStepDef)
    (h : (acc.map (·.id)).Nodup) : ((steps.foldl putStep acc).map (·.id)).Nodup := by
  induction steps generalizing acc with
  | nil => exact h
  | cons step steps ih =>
      refine ih _ ?_
      rw [putStep_ids]
      split_ifs with hmem
      · exact h
      · exact List.nodup_append.mpr ⟨h, by simp, by
          intro a ha b hb
          rw [List.mem_singleton.mp hb]
          rintro rfl
          exact hmem ha⟩

/-- A dict comprehension has distinct keys, whatever the list repeats. -/
theorem pendingOf_ids (steps : List PlaybookStepDef) :
    ((pendingOf steps).map (·.id)).Nodup :=
  pendingOf_ids_fold steps [] (by simp)

private theorem pendingOf_fold_of_nodup (steps acc : List PlaybookStepDef)
    (h : ((acc ++ steps).map (·.id)).Nodup) : steps.foldl putStep acc = acc ++ steps := by
  induction steps generalizing acc with
  | nil => simp
  | cons step steps ih =>
      have hnew : putStep acc step = acc ++ [step] := by
        unfold putStep
        rw [if_neg]
        intro hany
        obtain ⟨item, hitem, hid⟩ := List.any_eq_true.mp hany
        have hsplit := (List.nodup_append.mp (by simpa using h :
          (acc.map (·.id) ++ (step.id :: steps.map (·.id))).Nodup)).2.2
        exact hsplit item.id (List.mem_map_of_mem hitem) step.id (by simp) (by simpa using hid)
      rw [List.foldl_cons, hnew, ih _ (by simpa using h)]
      simp

theorem pendingOf_of_nodup {steps : List PlaybookStepDef} (h : (steps.map (·.id)).Nodup) :
    pendingOf steps = steps :=
  pendingOf_fold_of_nodup steps [] (by simpa using h)

/-- How a run that the cache did not answer can end. -/
inductive Started (env : Env) (e : PlaybookEngine) (playbook : PlaybookDef) (tenantId : String)
    (dryRun : Bool) (key : String) (approvedSteps : List String) : Result → Prop
  | settled (st : RunState)
      (inv : RunInv (e.config env dryRun approvedSteps) (pendingOf playbook.steps) st)
      (covered : Covered (pendingOf playbook.steps) st) (quiet : Quiet st)
      (blocked : ∀ step ∈ st.pending, ¬ st.Ready step) :
      Started env e playbook tenantId dryRun key approvedSteps
        (e.finish env playbook tenantId dryRun key (settle st).1 (settle st).2)
  | failed (st : RunState)
      (inv : RunInv (e.config env dryRun approvedSteps) (pendingOf playbook.steps) st)
      (r : StepRun) (recorded : r ∈ st.steps) (status : r.status = .failed) :
      Started env e playbook tenantId dryRun key approvedSteps
        (e.finish env playbook tenantId dryRun key .failed st)
  | raised (st : RunState)
      (inv : RunInv (e.config env dryRun approvedSteps) (pendingOf playbook.steps) st)
      (s : PlaybookStepDef) (member : s ∈ pendingOf playbook.steps) (tier : s.decision = none) :
      Started env e playbook tenantId dryRun key approvedSteps
        (.error .valueError, { e with trace := e.trace ++ st.trace, ticks := e.ticks + 1 })

theorem start_started (env : Env) (e : PlaybookEngine) (playbook : PlaybookDef)
    (tenantId : String) (dryRun : Bool) (key : String) (approvedSteps : List String) :
    Started env e playbook tenantId dryRun key approvedSteps
      (e.start env playbook tenantId dryRun key approvedSteps) := by
  have ids := pendingOf_ids playbook.steps
  have ends := scheduleLoop_run (e.config env dryRun approvedSteps) _ ids
    ((pendingOf playbook.steps).length + 1)
  have total := scheduleLoop_terminates (e.config env dryRun approvedSteps)
    ((pendingOf playbook.steps).length + 1) { pending := pendingOf playbook.steps } ids
    (Nat.lt_succ_self _)
  unfold PlaybookEngine.start
  dsimp only
  cases hloop : scheduleLoop (e.config env dryRun approvedSteps)
      ((pendingOf playbook.steps).length + 1) { pending := pendingOf playbook.steps } with
  | drained st =>
      rw [hloop] at ends
      exact .settled st ends.1 ends.2.1 ends.2.2 (scheduleLoop_drained _ _ _ _ hloop)
  | returned st =>
      rw [hloop] at ends
      obtain ⟨inv, r, recorded, status⟩ := ends
      exact .failed st inv r recorded status
  | raised st =>
      rw [hloop] at ends
      obtain ⟨inv, s, member, tier⟩ := ends
      exact .raised st inv s member tier
  | outOfFuel st => exact absurd hloop (total st)

/-- The id can never become ready: it leads to an unknown step or to a dependency cycle. -/
def Stuck (all : List PlaybookStepDef) (id : String) : Prop :=
  ∃ target, Relation.ReflTransGen (DependsOn all) id target ∧
    (target ∉ all.map (·.id) ∨ Relation.TransGen (DependsOn all) target target)

theorem RunInv.not_succeeded_of_stuck {cfg : RunConfig} {all : List PlaybookStepDef}
    {st : RunState} (inv : RunInv cfg all st) {id : String} (stuck : Stuck all id) :
    ¬ Succeeded st.steps id := by
  obtain ⟨target, path, hstuck⟩ := stuck
  intro hs
  refine not_enabled_of_stuck path ?_ (inv.enabled id ((inv.completed id).mpr hs))
  rcases hstuck with hunknown | hcycle
  · refine .inl ?_
    rintro ⟨s, hs, hid, -⟩
    exact hunknown (List.mem_map.mpr ⟨s, hs, hid⟩)
  · exact .inr hcycle

theorem RunInv.status_of_succeeded {cfg : RunConfig} {all : List PlaybookStepDef} {st : RunState}
    (inv : RunInv cfg all st) {r : StepRun} (hr : r ∈ st.steps)
    (success : Succeeded st.steps r.stepId) : r.status = .success := by
  obtain ⟨r', hr', hid, hs⟩ := success
  obtain rfl := List.inj_on_of_nodup_map inv.distinct hr' hr hid
  exact hs

/-- The trace and the records after the final test differ from those before it at most by
the record named `dag`. -/
theorem settle_trace (st : RunState) :
    (settle st).2 = st ∨ (settle st).2 = st.append dagFailure := by
  unfold settle
  split_ifs <;> simp

theorem settle_approvalRequired (st : RunState) :
    (settle st).2.approvalRequired = st.approvalRequired := by
  rcases settle_trace st with h | h <;> rw [h]
  rfl

theorem callsOf_settle (st : RunState) (id : String) :
    callsOf id (settle st).2.trace = callsOf id st.trace := by
  rcases settle_trace st with h | h <;> rw [h]
  simp [RunState.append]

theorem recordsIn_settle {st : RunState} (h : recordsIn st.trace = st.steps) :
    recordsIn (settle st).2.trace = (settle st).2.steps := by
  rcases settle_trace st with hs | hs <;> rw [hs]
  · exact h
  · simp [RunState.append, h]

theorem calls_settle {cfg : RunConfig} {all : List PlaybookStepDef} {st : RunState}
    (h : Always (CallOk cfg all) st.trace) : Always (CallOk cfg all) (settle st).2.trace := by
  rcases settle_trace st with hs | hs <;> rw [hs]
  · exact h
  · exact (always_concat _ _).mpr ⟨h, trivial⟩

theorem mem_settle_steps (st : RunState) (r : StepRun) :
    r ∈ (settle st).2.steps → r ∈ st.steps ∨ r = dagFailure := by
  rcases settle_trace st with h | h <;> rw [h]
  · exact .inl
  · simp [RunState.append]

theorem steps_subset_settle (st : RunState) (r : StepRun) (h : r ∈ st.steps) :
    r ∈ (settle st).2.steps := by
  rcases settle_trace st with hs | hs <;> rw [hs]
  · exact h
  · simp [RunState.append, h]

theorem settle_completed_iff (st : RunState) :
    (settle st).1 = .completed ↔ st.approvalRequired = [] ∧ st.pending = [] := by
  unfold settle
  split_ifs with h₁ h₂ <;> simp_all

theorem settle_failed_iff (st : RunState) :
    (settle st).1 = .failed ↔ st.approvalRequired = [] ∧ st.pending ≠ [] := by
  unfold settle
  split_ifs with h₁ h₂ <;> simp_all

section Dag

variable {cfg : RunConfig} {all : List PlaybookStepDef} {st : RunState}

theorem RunInv.steps_nodup_settle (inv : RunInv cfg all st) (noDag : "dag" ∉ all.map (·.id)) :
    ((settle st).2.steps.map (·.stepId)).Nodup := by
  rcases settle_trace st with h | h <;> rw [h]
  · exact inv.distinct
  · simp only [RunState.append, List.map_append, List.map_cons, List.map_nil]
    refine List.nodup_append.mpr ⟨inv.distinct, by simp, ?_⟩
    intro a ha b hb hab
    obtain ⟨r, hr, rfl⟩ := List.mem_map.mp ha
    obtain ⟨s, hs, hid, -⟩ := inv.known r hr
    rw [List.mem_singleton.mp hb] at hab
    exact noDag (List.mem_map.mpr ⟨s, hs, hid.trans hab⟩)

/-- A settled run is completed exactly when every step has succeeded. -/
theorem RunInv.settle_completed (inv : RunInv cfg all st) (covered : Covered all st)
    (quiet : Quiet st) :
    (settle st).1 = .completed ↔ ∀ s ∈ all, Succeeded (settle st).2.steps s.id := by
  rw [settle_completed_iff]
  constructor
  · rintro ⟨hwait, hpending⟩ s hs
    rcases covered s hs with hp | ⟨r, hr, hid⟩
    · simp [hpending] at hp
    · refine ⟨r, steps_subset_settle st r hr, hid, ?_⟩
      rcases quiet r hr with hq | hq
      · exact hq
      · have := (inv.awaiting s.id).mpr ⟨r, hr, hid, hq⟩
        simp [hwait] at this
  · intro hall
    have success : ∀ s ∈ all, Succeeded st.steps s.id := by
      intro s hs
      obtain ⟨r, hr, hid, hstatus⟩ := hall s hs
      rcases mem_settle_steps st r hr with hr | rfl
      · exact ⟨r, hr, hid, hstatus⟩
      · simp [dagFailure] at hstatus
    constructor
    · by_contra hwait
      obtain ⟨d, hd⟩ := List.exists_mem_of_ne_nil _ hwait
      obtain ⟨r, hr, hid, hstatus⟩ := (inv.awaiting d).mp hd
      obtain ⟨s, hs, hsid, -⟩ := inv.known r hr
      have := inv.status_of_succeeded hr (hsid ▸ success s hs)
      simp [hstatus] at this
    · by_contra hpending
      obtain ⟨s, hs⟩ := List.exists_mem_of_ne_nil _ hpending
      obtain ⟨r, hr, hid, -⟩ := success s (inv.sublist.subset hs)
      exact inv.settled r hr s hs hid.symm

/-- A settled run with a stuck step and nothing to approve has failed. -/
theorem RunInv.settle_stuck (inv : RunInv cfg all st) (covered : Covered all st)
    (quiet : Quiet st) {s : PlaybookStepDef} (hs : s ∈ all) (stuck : Stuck all s.id)
    (noWait : ∀ r ∈ (settle st).2.steps, r.status ≠ .awaitingApproval) :
    (settle st).1 = .failed := by
  have noWait' : ∀ r ∈ st.steps, r.status ≠ .awaitingApproval :=
    fun r hr => noWait r (steps_subset_settle st r hr)
  rw [settle_failed_iff]
  constructor
  · by_contra hwait
    obtain ⟨d, hd⟩ := List.exists_mem_of_ne_nil _ hwait
    obtain ⟨r, hr, -, hstatus⟩ := (inv.awaiting d).mp hd
    exact noWait' r hr hstatus
  · rcases covered s hs with hp | ⟨r, hr, hid⟩
    · exact List.ne_nil_of_mem hp
    · rcases quiet r hr with hq | hq
      · exact absurd ⟨r, hr, hid, hq⟩ (inv.not_succeeded_of_stuck stuck)
      · exact absurd hq (noWait' r hr)

end Dag

theorem callsOf_eq_nil_of_holds {cfg : RunConfig} {all : List PlaybookStepDef}
    {trace : List TraceEvent} (h : Always (CallOk cfg all) trace) (ids : (all.map (·.id)).Nodup)
    {s : PlaybookStepDef} (hs : s ∈ all) (holds : cfg.Holds s) : callsOf s.id trace = [] := by
  rw [callsOf, List.filterMap_eq_nil_iff]
  intro event hevent
  cases event with
  | record r => rfl
  | call id request answer =>
      obtain ⟨pre, post, rfl⟩ := List.append_of_mem hevent
      obtain ⟨t, ht, hid, -, allowed, -⟩ := h pre _ post rfl
      refine if_neg ?_
      rintro rfl
      obtain rfl := eq_of_id_eq ids ht hs hid
      exact allowed holds

theorem decision_isSome_iff (s : PlaybookStepDef) :
    s.decision ≠ none ↔ 0 ≤ s.tier ∧ s.tier ≤ 2 := by
  rw [← ActionTier.ofInt_isSome_iff, Option.isSome_iff_ne_none]
  simp [PlaybookStepDef.decision]

theorem run_of_fresh (env : Env) (e : PlaybookEngine) (playbook : PlaybookDef) (tenantId : String)
    (dryRun : Bool) (idempotencyKey : Option String) (approvedSteps : List String)
    (fresh : idempotencyKeyOf playbook tenantId idempotencyKey ∉ e.byIdempotency) :
    e.run env playbook tenantId dryRun idempotencyKey approvedSteps =
      e.start env playbook tenantId dryRun (idempotencyKeyOf playbook tenantId idempotencyKey)
        approvedSteps := by
  simp [PlaybookEngine.run, AList.lookup_eq_none.mpr fresh]

/-- One run under a fresh key, for every dependency graph, approval set and executor: it
returns, executes steps only after their dependencies, at most once and `retries + 1` times
each, keeps unapproved gated steps back, and reports completion and deadlock faithfully. -/
theorem run_executes_dag (env : Env) (e : PlaybookEngine) (playbook : PlaybookDef)
    (tenantId : String) (dryRun : Bool) (idempotencyKey : Option String)
    (approvedSteps : List String)
    (ids : (playbook.steps.map (·.id)).Nodup) (noDag : "dag" ∉ playbook.steps.map (·.id))
    (tiers : ∀ s ∈ playbook.steps, 0 ≤ s.tier ∧ s.tier ≤ 2)
    (retries : ∀ s ∈ playbook.steps, 0 ≤ s.retries)
    (fresh : idempotencyKeyOf playbook tenantId idempotencyKey ∉ e.byIdempotency) :
    ∃ run trace,
      (e.run env playbook tenantId dryRun idempotencyKey approvedSteps).1 = .ok run ∧
      (e.run env playbook tenantId dryRun idempotencyKey approvedSteps).2.trace =
        e.trace ++ trace ∧
      recordsIn trace = run.steps ∧
      (∀ pre id request answer post, trace = pre ++ .call id request answer :: post →
        ∃ s ∈ playbook.steps, s.id = id ∧ request = ⟨s.actionType, s.params, dryRun⟩ ∧
          ∀ dep ∈ s.dependsOn, Succeeded (recordsIn pre) dep) ∧
      (∀ s ∈ playbook.steps, (run.steps.map (·.stepId)).count s.id ≤ 1 ∧
        ((callsOf s.id trace).length : Int) ≤ s.retries + 1) ∧
      (dryRun = false → ∀ s ∈ playbook.steps, s.Gated → s.id ∉ approvedSteps →
        callsOf s.id trace = []) ∧
      (run.status = .completed ↔ ∀ s ∈ playbook.steps, Succeeded run.steps s.id) ∧
      ((∃ s ∈ playbook.steps, Stuck playbook.steps s.id) →
        (∀ r ∈ run.steps, r.status ≠ .awaitingApproval) → run.status = .failed) := by
  rw [run_of_fresh env e playbook tenantId dryRun idempotencyKey approvedSteps fresh]
  have started := start_started env e playbook tenantId dryRun
    (idempotencyKeyOf playbook tenantId idempotencyKey) approvedSteps
  have same : pendingOf playbook.steps = playbook.steps := pendingOf_of_nodup ids
  have budget : ∀ s ∈ playbook.steps, ((s.retries + 1).toNat : Int) = s.retries + 1 := by
    intro s hs
    have := retries s hs
    omega
  revert started
  generalize e.start env playbook tenantId dryRun
    (idempotencyKeyOf playbook tenantId idempotencyKey) approvedSteps = result
  intro started
  cases started with
  | settled st inv covered quiet blocked =>
      rw [same] at inv covered
      refine ⟨_, (settle st).2.trace, rfl, rfl, recordsIn_settle inv.records, ?_, ?_, ?_,
        inv.settle_completed covered quiet, ?_⟩
      · intro pre id request answer post hsplit
        obtain ⟨s, hs, hid, hrequest, -, deps⟩ := calls_settle inv.calls pre _ post hsplit
        exact ⟨s, hs, hid, hrequest, deps⟩
      · intro s hs
        refine ⟨List.nodup_iff_count_le_one.mp (inv.steps_nodup_settle noDag) s.id, ?_⟩
        rw [callsOf_settle, ← budget s hs]
        exact_mod_cast inv.bounded s hs
      · intro live s hs gated unapproved
        rw [callsOf_settle]
        exact callsOf_eq_nil_of_holds inv.calls ids hs ⟨gated, live, unapproved⟩
      · rintro ⟨s, hs, stuck⟩ noWait
        exact inv.settle_stuck covered quiet hs stuck noWait
  | failed st inv r recorded status =>
      rw [same] at inv
      refine ⟨_, st.trace, rfl, rfl, inv.records, ?_, ?_, ?_, ?_, fun _ _ => rfl⟩
      · intro pre id request answer post hsplit
        obtain ⟨s, hs, hid, hrequest, -, deps⟩ := inv.calls pre _ post hsplit
        exact ⟨s, hs, hid, hrequest, deps⟩
      · intro s hs
        refine ⟨List.nodup_iff_count_le_one.mp inv.distinct s.id, ?_⟩
        rw [← budget s hs]
        exact_mod_cast inv.bounded s hs
      · intro live s hs gated unapproved
        exact callsOf_eq_nil_of_holds inv.calls ids hs ⟨gated, live, unapproved⟩
      · refine ⟨fun h => by simp at h, ?_⟩
        intro hall
        obtain ⟨s, hs, hid, -⟩ := inv.known r recorded
        have := inv.status_of_succeeded recorded (hid ▸ hall s hs)
        simp [status] at this
  | raised st inv s member tier =>
      rw [same] at member
      exact absurd tier ((decision_isSome_iff s).mpr (tiers s member))

/-- `CATALOGUE["pb.contain_host_t0"]`. -/
def containHostT0 : PlaybookDef where
  playbookId := "pb.contain_host_t0"
  name := "Collect then plan isolate"
  steps :=
    [{ id := "collect", actionType := "collect.windows.processes", retries := 1 },
      { id := "isolate", actionType := "isolate.host", tier := 2, dependsOn := ["collect"],
        rollbackAction := some "release.host" }]

/-- The engine's default executor, with numbered ids and a counter for a clock. -/
def sampleEnv : Env where
  executor := defaultExecutor
  newId := fun n => "pbr_" ++ toString n
  now := fun n => toString n

theorem run_executes_dag_containHostT0 :
    ∃ run trace, (({} : PlaybookEngine).run sampleEnv containHostT0 "ten_a" false (some "k")).1 =
        .ok run ∧ recordsIn trace = run.steps ∧ callsOf "isolate" trace = [] := by
  obtain ⟨run, trace, hrun, -, hrecords, -, -, hheld, -⟩ :=
    run_executes_dag sampleEnv {} containHostT0 "ten_a" false (some "k") [] (by decide) (by decide)
      (by decide) (by decide) (by decide)
  exact ⟨run, trace, hrun, hrecords, hheld rfl containHostT0.steps[1] (by decide) (by decide)
    (by decide)⟩

end BlueTeam.Playbook
