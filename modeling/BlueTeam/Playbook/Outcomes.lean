/- GID: BlueTeam/Playbook/Outcomes
   generality: I
   source: packages/playbook-sdk/blueteam_playbook/engine.py
   digest: What the record of a step says about the answers of the executor. -/

import BlueTeam.Playbook.Run

set_option autoImplicit false
set_option relaxedAutoImplicit false

namespace BlueTeam.Playbook

open BlueTeam.Lib.Trace

/-- All attempts that the step allows were made, and each of them raised. -/
structure Exhausted (step : PlaybookStepDef) (answers : List (Except String JsonObject)) : Prop where
  attempted : answers ≠ []
  all : (answers.length : Int) = step.retries + 1
  raised : ∀ answer ∈ answers, ∃ text, answer = .error text

/-- The records of a run are true to its trace: a success carries the outputs of a last attempt that
returned, and a step whose attempts all raised is a failure that nothing comes after. -/
structure Honest (all : List PlaybookStepDef) (steps : List StepRun) (trace : List TraceEvent) :
    Prop where
  success : ∀ r ∈ steps, r.status = .success → (∃ step ∈ all, step.id = r.stepId) ∧
    (callsOf r.stepId trace).getLast? = some (.ok r.outputs)
  failure : ∀ step ∈ all, Exhausted step (callsOf step.id trace) →
    (∃ r ∈ steps, r.stepId = step.id ∧ r.status = .failed) ∧
      ∀ d ∈ all, step.id ∈ d.dependsOn → callsOf d.id trace = []

/-- The last attempt of a step did not raise without a text, and a step that allows no attempt had no
turn. -/
structure Spoken (cfg : RunConfig) (all : List PlaybookStepDef) (steps : List StepRun)
    (trace : List TraceEvent) : Prop where
  text : ∀ step ∈ all, (callsOf step.id trace).getLast? ≠ some (.error "")
  attempts : ∀ step ∈ all, step.retries < 0 →
    ∀ r ∈ steps, r.stepId = step.id → r = dagFailure ∨ cfg.Holds step

/-- The record of a step and the answers to its attempts. -/
inductive RecordOf (cfg : RunConfig) (step : PlaybookStepDef) (r : StepRun) :
    List (Except String JsonObject) → Prop
  | held (holds : cfg.Holds step) (status : r.status = .awaitingApproval) : RecordOf cfg step r []
  | returned (texts : List String) (bound : texts.length < (step.retries + 1).toNat)
      (status : r.status = .success) : RecordOf cfg step r (texts.map .error ++ [.ok r.outputs])
  | failed (texts : List String) (bound : texts.length = (step.retries + 1).toNat)
      (last : texts.getLast?.getD "" ≠ "") (status : r.status = .failed) :
      RecordOf cfg step r (texts.map .error)
  -- the message is missing or empty, and `if last_error:` does not see it
  | mute (allowed : ¬ cfg.Holds step) (texts : List String)
      (bound : texts.length = (step.retries + 1).toNat) (last : texts.getLast?.getD "" = "")
      (status : r.status = .success) : RecordOf cfg step r (texts.map .error)

section

variable {cfg : RunConfig} {all : List PlaybookStepDef} {st : RunState} {step : PlaybookStepDef}

/-- What the attempts leave behind: the outputs of the last one, or the text of its exception. -/
theorem Answered.outcome {left : Nat} {trace : List TraceEvent} {out : Attempted}
    (h : Answered cfg step left 0 none trace out) :
    ∃ texts : List String,
      (texts.length < left ∧ out.lastError = none ∧
        out.trace = trace ++ calls cfg step (texts.map .error ++ [.ok out.outputs])) ∨
      (texts.length = left ∧ out.lastError = texts.getLast? ∧
        out.trace = trace ++ calls cfg step (texts.map .error)) := by
  cases h with
  | returns texts outputs bound => exact ⟨texts, .inl ⟨bound, rfl, rfl⟩⟩
  | exhausts texts bound raised => exact ⟨texts, .inr ⟨bound, Option.or_none, rfl⟩⟩

/-- A visit that leaves a record has made the calls it is about. -/
theorem Visited.recorded {flow : Flow} (h : Visited cfg st step flow) :
    flow.state = st ∨ flow.state = st.take step ∨
      ∃ answers r, r.stepId = step.id ∧ RecordOf cfg step r answers ∧
        flow.state = st.extend cfg step answers r := by
  cases h with
  | blocked => exact .inl rfl
  | offTier => exact .inr (.inl rfl)
  | held ready holds =>
      refine .inr (.inr ⟨[], awaitingRun step, rfl, .held holds rfl, ?_⟩)
      simp [Flow.state, RunState.await, RunState.append, RunState.extend, RunState.take, calls,
        awaitingRun]
  | failed ready tier allowed out answered error =>
      rcases answered.outcome with ⟨texts, ⟨-, hlast, -⟩ | ⟨bound, hlast, htrace⟩⟩
      · rw [hlast] at error
        exact absurd rfl error
      · rw [hlast] at error
        refine .inr (.inr ⟨texts.map .error, failedRun step out, rfl, .failed texts bound error rfl,
          ?_⟩)
        simp [Flow.state, RunState.fail, RunState.append, RunState.extend, RunState.take, failedRun,
          htrace]
  | succeeded ready tier allowed out answered quiet =>
      rcases answered.outcome with ⟨texts, ⟨bound, -, htrace⟩ | ⟨bound, hlast, htrace⟩⟩
      · refine .inr (.inr ⟨texts.map .error ++ [.ok out.outputs], successRun step out, rfl,
          .returned texts bound rfl, ?_⟩)
        simp [Flow.state, RunState.succeed, RunState.append, RunState.extend, RunState.take,
          successRun, htrace]
      · rw [hlast] at quiet
        refine .inr (.inr ⟨texts.map .error, successRun step out, rfl,
          .mute allowed texts bound quiet rfl, ?_⟩)
        simp [Flow.state, RunState.succeed, RunState.append, RunState.extend, RunState.take,
          successRun, htrace]

section

variable {r : StepRun} {answers : List (Except String JsonObject)}

theorem last_of_texts {texts : List String} (hne : texts ≠ [])
    (hlast : texts.getLast?.getD "" = "") :
    (texts.map (Except.error : String → Except String JsonObject)).getLast? = some (.error "") := by
  obtain ⟨text, htext⟩ := Option.ne_none_iff_exists'.mp (mt List.getLast?_eq_none_iff.mp hne)
  rw [htext] at hlast
  obtain rfl : text = "" := hlast
  rw [List.getLast?_map, htext]
  rfl

theorem RecordOf.success_of_mute (h : RecordOf cfg step r answers)
    (hlast : answers.getLast? = some (.error "")) : r.status = .success := by
  cases h with
  | held => cases hlast
  | returned texts bound status => exact status
  | mute allowed texts bound last status => exact status
  | failed texts bound last status =>
      rw [List.getLast?_map] at hlast
      obtain ⟨text, htext, herror⟩ := Option.map_eq_some_iff.mp hlast
      rw [htext, Except.error.inj herror] at last
      exact absurd rfl last

theorem RecordOf.success_of_negative (h : RecordOf cfg step r answers) (hretries : step.retries < 0) :
    cfg.Holds step ∨ answers = [] ∧ r.status = .success := by
  have hnone : (step.retries + 1).toNat = 0 := by omega
  cases h with
  | held holds => exact .inl holds
  | returned texts bound => omega
  | failed texts bound last status =>
      obtain rfl := List.length_eq_zero_iff.mp (bound.trans hnone)
      exact absurd rfl last
  | mute allowed texts bound last status =>
      obtain rfl := List.length_eq_zero_iff.mp (bound.trans hnone)
      exact .inr ⟨rfl, status⟩

theorem RecordOf.last_of_success (h : RecordOf cfg step r answers) (hstatus : r.status = .success) :
    answers.getLast? = some (.ok r.outputs) ∨ answers.getLast? = some (.error "") ∨
      step.retries < 0 ∧ ¬ cfg.Holds step := by
  cases h with
  | held holds status =>
      rw [hstatus] at status
      cases status
  | failed texts bound last status =>
      rw [hstatus] at status
      cases status
  | returned texts => exact .inl (by simp)
  | mute allowed texts bound last =>
      by_cases hnil : texts = []
      · rw [hnil, List.length_nil] at bound
        exact .inr (.inr ⟨by omega, allowed⟩)
      · exact .inr (.inl (last_of_texts hnil last))

theorem RecordOf.failed_of_exhausted (h : RecordOf cfg step r answers)
    (hexhausted : Exhausted step answers) :
    r.status = .failed ∨ answers.getLast? = some (.error "") := by
  cases h with
  | held => exact absurd rfl hexhausted.attempted
  | returned texts =>
      obtain ⟨text, htext⟩ := hexhausted.raised (.ok r.outputs) (by simp)
      cases htext
  | failed texts bound last status => exact .inl status
  | mute allowed texts bound last =>
      refine .inr (last_of_texts ?_ last)
      rintro rfl
      exact hexhausted.attempted rfl

end

/-- Every record is about the calls of its step, and every call has a record. -/
structure Accounted (cfg : RunConfig) (all : List PlaybookStepDef) (st : RunState) : Prop where
  records : ∀ r ∈ st.steps, ∃ step ∈ all, step.id = r.stepId ∧
    RecordOf cfg step r (callsOf step.id st.trace)
  calls : ∀ id, callsOf id st.trace ≠ [] → ∃ r ∈ st.steps, r.stepId = id

theorem accounted_initial : Accounted cfg all { pending := all } where
  records := by simp
  calls := by simp [callsOf]

theorem Accounted.take (h : Accounted cfg all st) : Accounted cfg all (st.take step) where
  records := h.records
  calls := h.calls

theorem Accounted.extend {answers : List (Except String JsonObject)} {r : StepRun}
    (h : Accounted cfg all st) (inv : RunInv cfg all st) (hstep : step ∈ st.pending)
    (named : r.stepId = step.id) (recorded : RecordOf cfg step r answers) :
    Accounted cfg all (st.extend cfg step answers r) where
  records := by
    intro r' hr'
    rcases List.mem_append.mp hr' with hr' | hr'
    · obtain ⟨s, hs, hid, hrecorded⟩ := h.records r' hr'
      have hne : step.id ≠ s.id := by
        rw [hid]
        exact inv.settled r' hr' step hstep
      refine ⟨s, hs, hid, ?_⟩
      simpa [RunState.extend, hne] using hrecorded
    · obtain rfl := List.mem_singleton.mp hr'
      refine ⟨step, inv.sublist.subset hstep, named.symm, ?_⟩
      simpa [RunState.extend, inv.fresh step hstep] using recorded
  calls := by
    intro id hcalls
    by_cases hid : step.id = id
    · exact ⟨r, by simp [RunState.extend], named.trans hid⟩
    · have hold : callsOf id st.trace ≠ [] := by simpa [RunState.extend, hid] using hcalls
      obtain ⟨r', hr', hid'⟩ := h.calls id hold
      exact ⟨r', by simp [RunState.extend, hr'], hid'⟩

theorem Accounted.visit {flow : Flow} (h : Accounted cfg all st) (inv : RunInv cfg all st)
    (hstep : step ∈ st.pending) (visited : Visited cfg st step flow) :
    Accounted cfg all flow.state := by
  rcases visited.recorded with hsame | htake | ⟨answers, r, named, recorded, hextend⟩
  · rw [hsame]
    exact h
  · rw [htake]
    exact h.take
  · rw [hextend]
    exact h.extend inv hstep named recorded

theorem scheduleLoop_accounted (ids : (all.map (·.id)).Nodup) (fuel : Nat) :
    (scheduleLoop cfg fuel { pending := all }).Ends
      (fun st => RunInv cfg all st ∧ Accounted cfg all st)
      (fun st => RunInv cfg all st ∧ Accounted cfg all st)
      (fun st => RunInv cfg all st ∧ Accounted cfg all st) := by
  refine scheduleLoop_ends ?_ fuel _ ids ⟨RunInv.initial cfg all, accounted_initial⟩
  rintro st step flow ⟨inv, accounted⟩ hstep visited
  have after := inv.visit ids hstep visited
  have after' := accounted.visit inv hstep visited
  cases flow with
  | next moved st' => exact ⟨after, after'⟩
  | returned st' => exact ⟨after, after'⟩
  | raised st' => exact ⟨after, after'⟩

/-- A call comes after the successes of all steps it depends on. -/
theorem RunInv.succeeded_of_called (inv : RunInv cfg all st) (ids : (all.map (·.id)).Nodup)
    {d : PlaybookStepDef} (hd : d ∈ all) (hcalls : callsOf d.id st.trace ≠ []) :
    ∀ dep ∈ d.dependsOn, Succeeded st.steps dep := by
  intro dep hdep
  obtain ⟨answer, hanswer⟩ := List.exists_mem_of_ne_nil _ hcalls
  obtain ⟨event, hevent, hcall⟩ := List.mem_filterMap.mp hanswer
  cases event with
  | record r => cases hcall
  | call id request answer =>
      have hid : id = d.id := by
        by_contra hne
        simp [hne] at hcall
      obtain ⟨pre, post, htrace⟩ := List.append_of_mem hevent
      obtain ⟨s, hs, hsid, -, -, deps⟩ := inv.calls pre _ post htrace
      obtain rfl := eq_of_id_eq ids hs hd (hsid.trans hid)
      have hsucceeded := (deps dep hdep).append (recordsIn (.call id request answer :: post))
      rwa [← recordsIn_append, ← htrace, inv.records] at hsucceeded

/-- The records are true to the trace exactly if no failure was mute. -/
theorem Accounted.honest_iff (h : Accounted cfg all st) (inv : RunInv cfg all st)
    (ids : (all.map (·.id)).Nodup) {steps : List StepRun} {trace : List TraceEvent}
    (hsub : ∀ r ∈ st.steps, r ∈ steps) (hsteps : ∀ r ∈ steps, r ∈ st.steps ∨ r = dagFailure)
    (htrace : ∀ id, callsOf id trace = callsOf id st.trace) :
    Honest all steps trace ↔ Spoken cfg all steps trace := by
  have hrecorded : ∀ step ∈ all, ∀ r ∈ st.steps, r.stepId = step.id →
      RecordOf cfg step r (callsOf step.id trace) := by
    intro step hstep r hr hid
    obtain ⟨s, hs, hsid, hrecorded⟩ := h.records r hr
    obtain rfl := eq_of_id_eq ids hs hstep (hsid.trans hid)
    rw [htrace]
    exact hrecorded
  have hrecord : ∀ id, callsOf id trace ≠ [] → ∃ r ∈ st.steps, r.stepId = id := by
    intro id hcalled
    rw [htrace] at hcalled
    exact h.calls id hcalled
  constructor
  · intro honest
    constructor
    · intro step hstep hlast
      obtain ⟨r, hr, hid⟩ := hrecord step.id (by
        rintro hnil
        rw [hnil] at hlast
        cases hlast)
      have hstatus := (hrecorded step hstep r hr hid).success_of_mute hlast
      have hreturned := (honest.success r (hsub r hr) hstatus).2
      rw [hid, hlast] at hreturned
      cases hreturned
    · intro step hstep hretries r hr hid
      rcases hsteps r hr with hr' | hdag
      · rcases (hrecorded step hstep r hr' hid).success_of_negative hretries with
          holds | ⟨hnil, hstatus⟩
        · exact .inr holds
        · have hreturned := (honest.success r hr hstatus).2
          rw [hid, hnil] at hreturned
          cases hreturned
      · exact .inl hdag
  · intro spoken
    constructor
    · intro r hr hstatus
      rcases hsteps r hr with hr' | rfl
      · obtain ⟨step, hstep, hid, -⟩ := h.records r hr'
        refine ⟨⟨step, hstep, hid⟩, ?_⟩
        rw [← hid]
        rcases (hrecorded step hstep r hr' hid.symm).last_of_success hstatus with
          hreturned | hmute | ⟨hretries, allowed⟩
        · exact hreturned
        · exact absurd hmute (spoken.text step hstep)
        · rcases spoken.attempts step hstep hretries r hr hid.symm with rfl | holds
          · cases hstatus
          · exact absurd holds allowed
      · cases hstatus
    · intro step hstep hexhausted
      obtain ⟨r, hr, hid⟩ := hrecord step.id hexhausted.attempted
      have hfailed : r.status = .failed := by
        rcases (hrecorded step hstep r hr hid).failed_of_exhausted hexhausted with hfailed | hmute
        · exact hfailed
        · exact absurd hmute (spoken.text step hstep)
      refine ⟨⟨r, hsub r hr, hid, hfailed⟩, ?_⟩
      intro d hd hdep
      by_contra hcalls
      rw [htrace] at hcalls
      have hsucceeded := inv.succeeded_of_called ids hd hcalls step.id hdep
      rw [← hid] at hsucceeded
      have hstatus := inv.status_of_succeeded hr hsucceeded
      rw [hfailed] at hstatus
      cases hstatus

end

/-- A run that returns, under any executor: its records are true to the attempts exactly if no step's
last attempt raised without a text, and no step that allows no attempt had its turn. -/
theorem run_honest_iff (env : Env) (e : PlaybookEngine) (playbook : PlaybookDef)
    (tenantId : String) (dryRun : Bool) (idempotencyKey : Option String)
    (approvedSteps : List String)
    (fresh : idempotencyKeyOf playbook tenantId idempotencyKey ∉ e.byIdempotency)
    {run : PlaybookRun} {trace : List TraceEvent}
    (hrun : (e.run env playbook tenantId dryRun idempotencyKey approvedSteps).1 = .ok run)
    (htrace : (e.run env playbook tenantId dryRun idempotencyKey approvedSteps).2.trace =
      e.trace ++ trace) :
    Honest (pendingOf playbook.steps) run.steps trace ↔
      Spoken (e.config env dryRun approvedSteps) (pendingOf playbook.steps) run.steps trace := by
  rw [run_of_fresh env e playbook tenantId dryRun idempotencyKey approvedSteps fresh] at hrun htrace
  have ids := pendingOf_ids playbook.steps
  have ends := @scheduleLoop_accounted (e.config env dryRun approvedSteps) _ ids
    ((pendingOf playbook.steps).length + 1)
  unfold PlaybookEngine.start at hrun htrace
  dsimp only at hrun htrace
  cases hloop : scheduleLoop (e.config env dryRun approvedSteps)
      ((pendingOf playbook.steps).length + 1) { pending := pendingOf playbook.steps } with
  | drained st =>
      rw [hloop] at ends hrun htrace
      obtain ⟨inv, accounted⟩ := ends
      obtain rfl := Except.ok.inj hrun
      obtain rfl := List.append_cancel_left htrace
      exact accounted.honest_iff inv ids (steps_subset_settle st) (mem_settle_steps st)
        (callsOf_settle st)
  | returned st =>
      rw [hloop] at ends hrun htrace
      obtain ⟨inv, accounted⟩ := ends
      obtain rfl := Except.ok.inj hrun
      obtain rfl := List.append_cancel_left htrace
      exact accounted.honest_iff inv ids (fun _ hr => hr) (fun _ hr => .inl hr) fun _ => rfl
  | raised st =>
      rw [hloop] at hrun
      cases hrun
  | outOfFuel st =>
      rw [hloop] at hrun
      cases hrun

theorem run_honest_containHostT0 :
    ∃ run trace, (({} : PlaybookEngine).run sampleEnv containHostT0 "ten_a" true none).1 = .ok run ∧
      Honest (pendingOf containHostT0.steps) run.steps trace := by
  obtain ⟨run, hrun⟩ : ∃ run,
      (({} : PlaybookEngine).run sampleEnv containHostT0 "ten_a" true none).1 = .ok run := ⟨_, rfl⟩
  have hretries : ∀ step ∈ pendingOf containHostT0.steps, 0 ≤ step.retries := by decide
  refine ⟨run, _, hrun, (run_honest_iff sampleEnv {} containHostT0 "ten_a" true none [] (by decide)
    hrun rfl).mpr ⟨by decide, ?_⟩⟩
  intro step hstep hnegative
  exact absurd hnegative (Int.not_lt.mpr (hretries step hstep))

/-- Exceptions without a message, such as a failed assertion's. -/
def muteEnv : Env :=
  { sampleEnv with executor := fun _ _ => .error "" }

/-- The only attempt of `collect` raises; it is a success and `isolate` is executed. -/
theorem run_not_honest :
    ∃ run, (({} : PlaybookEngine).run muteEnv containHostT0 "ten_a").1 = .ok run ∧
      ¬ Honest (pendingOf containHostT0.steps) run.steps
        (({} : PlaybookEngine).run muteEnv containHostT0 "ten_a").2.trace := by
  refine ⟨_, rfl, fun honest => ?_⟩
  have hstatus := (honest.success _ List.mem_cons_self rfl).2
  revert hstatus
  decide

end BlueTeam.Playbook
