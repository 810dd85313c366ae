/- GID: BlueTeam/Playbook/History
   generality: I
   digest: Histories of run and approve calls: the approval gate and repeated side effects. -/

import BlueTeam.Playbook.Run
import Mathlib.Data.List.Induction
import Mathlib.Logic.Function.Basic

set_option autoImplicit false
set_option relaxedAutoImplicit false

namespace BlueTeam.Playbook

open BlueTeam.Lib.Dependency
open BlueTeam.Lib.Trace

/-- A request to an engine. -/
inductive Op
  | run (playbook : PlaybookDef) (tenantId : String) (dryRun : Bool)
      (idempotencyKey : Option String) (approvedSteps : List String)
  | approve (runId : String) (stepIds : List String) (playbook : PlaybookDef)

def Op.playbook : Op → PlaybookDef
  | .run playbook _ _ _ _ => playbook
  | .approve _ _ playbook => playbook

def PlaybookEngine.perform (env : Env) (e : PlaybookEngine) : Op → Result
  | .run playbook tenantId dryRun idempotencyKey approvedSteps =>
      e.run env playbook tenantId dryRun idempotencyKey approvedSteps
  | .approve runId stepIds playbook => e.approve env runId stepIds playbook

/-- The parameters with which a request enters the scheduling loop. -/
structure Launch where
  playbook : PlaybookDef
  dryRun : Bool
  approvedSteps : List String

/-- The run a request starts, unless the idempotency cache answers it or it raises first. -/
def Op.launch? (e : PlaybookEngine) : Op → Option Launch
  | .run playbook tenantId dryRun idempotencyKey approvedSteps =>
      if idempotencyKeyOf playbook tenantId idempotencyKey ∈ e.byIdempotency then none
      else some ⟨playbook, dryRun, approvedSteps⟩
  | .approve runId stepIds playbook =>
      match e.runs.lookup runId with
      | none => none
      | some prior =>
          if idempotencyKeyOf playbook prior.tenantId
              (some (approvalKey prior.idempotencyKey stepIds)) ∈
                e.byIdempotency.erase prior.idempotencyKey then none
          else some ⟨playbook, prior.dryRun, stepIds ++ prior.approvalRequired⟩

/-- What the trace of a started run satisfies, whatever the playbook and the executor. -/
structure Segment (cfg : RunConfig) (all : List PlaybookStepDef) (trace : List TraceEvent) :
    Prop where
  calls : Always (CallOk cfg all) trace
  once : ∀ id, (callsOf id trace).countP (·.isOk) ≤ 1
  enabled : ∀ id request answer, .call id request answer ∈ trace →
    Enabled (DependsOn all) (Admits cfg all) id

theorem RunInv.called_enabled {cfg : RunConfig} {all : List PlaybookStepDef} {st : RunState}
    (inv : RunInv cfg all st) (ids : (all.map (·.id)).Nodup) {id : String} {request : ExecCall}
    {answer : Except String JsonObject} (h : .call id request answer ∈ st.trace) :
    Enabled (DependsOn all) (Admits cfg all) id := by
  obtain ⟨pre, post, hsplit⟩ := List.append_of_mem h
  obtain ⟨s, hs, hid, -, allowed, deps⟩ := inv.calls pre _ post hsplit
  refine .intro ⟨s, hs, hid, allowed⟩ ?_
  rintro d ⟨t, ht, htid, hd⟩
  obtain rfl := eq_of_id_eq ids ht hs (htid.trans hid.symm)
  refine inv.enabled d ((inv.completed d).mpr ?_)
  rw [← inv.records, hsplit, recordsIn_append]
  exact (deps d hd).append _

theorem RunInv.segment {cfg : RunConfig} {all : List PlaybookStepDef} {st : RunState}
    (inv : RunInv cfg all st) (ids : (all.map (·.id)).Nodup) : Segment cfg all st.trace :=
  ⟨inv.calls, inv.once, fun _ _ _ h => inv.called_enabled ids h⟩

theorem Segment.settle {cfg : RunConfig} {all : List PlaybookStepDef} {st : RunState}
    (h : Segment cfg all st.trace) : Segment cfg all (settle st).2.trace where
  calls := calls_settle h.calls
  once := fun id => by
    rw [callsOf_settle]
    exact h.once id
  enabled := by
    intro id request answer hmem
    rcases settle_trace st with hs | hs
    · rw [hs] at hmem
      exact h.enabled id request answer hmem
    · rw [hs] at hmem
      exact h.enabled id request answer (by simpa [RunState.append] using hmem)

theorem start_segment (env : Env) (e : PlaybookEngine) (playbook : PlaybookDef)
    (tenantId : String) (dryRun : Bool) (key : String) (approvedSteps : List String) :
    ∃ trace, (e.start env playbook tenantId dryRun key approvedSteps).2.trace = e.trace ++ trace ∧
      Segment (e.config env dryRun approvedSteps) (pendingOf playbook.steps) trace := by
  have ids := pendingOf_ids playbook.steps
  have started := start_started env e playbook tenantId dryRun key approvedSteps
  revert started
  generalize e.start env playbook tenantId dryRun key approvedSteps = result
  intro started
  cases started with
  | settled st inv => exact ⟨_, rfl, (inv.segment ids).settle⟩
  | failed st inv => exact ⟨_, rfl, inv.segment ids⟩
  | raised st inv => exact ⟨_, rfl, inv.segment ids⟩

/-- The configuration of a launch: the engine's trace is what the executor has seen. -/
def Launch.config (env : Env) (e : PlaybookEngine) (launch : Launch) : RunConfig :=
  e.config env launch.dryRun launch.approvedSteps

/-- A request either leaves the trace alone or extends it by the segment of its launch. -/
theorem perform_trace (env : Env) (e : PlaybookEngine) (op : Op) :
    ∃ trace, (e.perform env op).2.trace = e.trace ++ trace ∧
      match op.launch? e with
      | none => trace = []
      | some launch =>
          Segment (launch.config env e) (pendingOf launch.playbook.steps) trace := by
  have run_trace : ∀ (e : PlaybookEngine) (playbook : PlaybookDef) (tenantId : String)
      (dryRun : Bool) (key : Option String) (approvedSteps : List String),
      ∃ trace, (e.run env playbook tenantId dryRun key approvedSteps).2.trace = e.trace ++ trace ∧
        if idempotencyKeyOf playbook tenantId key ∈ e.byIdempotency then trace = []
        else Segment (e.config env dryRun approvedSteps) (pendingOf playbook.steps) trace := by
    intro e playbook tenantId dryRun key approvedSteps
    split_ifs with hit
    · refine ⟨[], ?_, rfl⟩
      obtain ⟨runId, hlookup⟩ := Option.isSome_iff_exists.mp (AList.lookup_isSome.mpr hit)
      simp only [PlaybookEngine.run, hlookup]
      split <;> simp
    · rw [run_of_fresh env e playbook tenantId dryRun key approvedSteps hit]
      exact start_segment env e playbook tenantId dryRun _ approvedSteps
  cases op with
  | run playbook tenantId dryRun key approvedSteps =>
      obtain ⟨trace, htrace, hseg⟩ := run_trace e playbook tenantId dryRun key approvedSteps
      refine ⟨trace, htrace, ?_⟩
      simp only [Op.launch?]
      split_ifs at hseg ⊢ <;> exact hseg
  | approve runId stepIds playbook =>
      simp only [PlaybookEngine.perform, PlaybookEngine.approve, Op.launch?]
      cases hrun : e.runs.lookup runId with
      | none => exact ⟨[], by simp, rfl⟩
      | some prior =>
          obtain ⟨trace, htrace, hseg⟩ := run_trace
            { e with byIdempotency := e.byIdempotency.erase prior.idempotencyKey } playbook
            prior.tenantId prior.dryRun (some (approvalKey prior.idempotencyKey stepIds))
            (stepIds ++ prior.approvalRequired)
          refine ⟨trace, htrace, ?_⟩
          dsimp only
          split_ifs at hseg ⊢ <;> exact hseg

/-! ### The approval gate -/

/-- An engine together with the step ids that callers have approved along the chain of
requests that led to each of its stored runs. -/
structure Session where
  engine : PlaybookEngine := {}
  granted : String → List String := fun _ => []

/-- The step ids that a request and the chain of approvals it continues were given. -/
def Op.given (granted : String → List String) : Op → List String
  | .run _ _ _ _ approvedSteps => approvedSteps
  | .approve runId stepIds _ => stepIds ++ granted runId

def Session.perform (env : Env) (s : Session) (op : Op) : Session where
  engine := (s.engine.perform env op).2
  granted :=
    match op.launch? s.engine, (s.engine.perform env op).1 with
    | some _, .ok run => Function.update s.granted run.runId (op.given s.granted)
    | _, _ => s.granted

def Session.after (env : Env) (ops : List Op) : Session := ops.foldl (Session.perform env) {}

/-- The events a request adds to the trace. -/
def PlaybookEngine.newEvents (env : Env) (e : PlaybookEngine) (op : Op) : List TraceEvent :=
  (e.perform env op).2.trace.drop e.trace.length

/-- Every live call that a request makes for a gated step is for a step id that the request
or the chain of approvals leading to it was given. -/
def GateHolds (env : Env) (s : Session) (op : Op) : Prop :=
  ∀ id request answer, .call id request answer ∈ s.engine.newEvents env op →
    request.dryRun = false → ∀ step ∈ pendingOf op.playbook.steps, step.id = id → step.Gated →
      id ∈ op.given s.granted

/-- An approval names every step that waits in the prior run, unless the chain of approvals
has been given that step before. -/
def Covers (s : Session) : Op → Prop
  | .run _ _ _ _ _ => True
  | .approve runId stepIds _ => ∀ prior, s.engine.runs.lookup runId = some prior →
      ∀ id ∈ prior.approvalRequired, id ∈ stepIds ∨ id ∈ s.granted runId

theorem newEvents_segment (env : Env) (e : PlaybookEngine) (op : Op) :
    match op.launch? e with
    | none => e.newEvents env op = []
    | some launch => Segment (launch.config env e) (pendingOf launch.playbook.steps)
        (e.newEvents env op) := by
  obtain ⟨trace, htrace, hseg⟩ := perform_trace env e op
  have hnew : e.newEvents env op = trace := by
    simp [PlaybookEngine.newEvents, htrace]
  rw [hnew]
  exact hseg

theorem launch_playbook {e : PlaybookEngine} {op : Op} {launch : Launch}
    (h : op.launch? e = some launch) : launch.playbook = op.playbook := by
  cases op with
  | run playbook tenantId dryRun key approvedSteps =>
      simp only [Op.launch?] at h
      split_ifs at h
      obtain rfl := Option.some.inj h
      rfl
  | approve runId stepIds playbook =>
      simp only [Op.launch?] at h
      split at h
      · simp at h
      · split_ifs at h
        obtain rfl := Option.some.inj h
        rfl

/-- Under a covering approval, what a launch may execute is what its callers were given. -/
theorem Covers.approved_given {s : Session} {op : Op} {launch : Launch} (h : Covers s op)
    (hlaunch : op.launch? s.engine = some launch) {id : String} (hid : id ∈ launch.approvedSteps) :
    id ∈ op.given s.granted := by
  cases op with
  | run playbook tenantId dryRun key approvedSteps =>
      simp only [Op.launch?] at hlaunch
      split_ifs at hlaunch
      obtain rfl := Option.some.inj hlaunch
      exact hid
  | approve runId stepIds playbook =>
      simp only [Op.launch?] at hlaunch
      split at hlaunch
      · simp at hlaunch
      · rename_i prior hprior
        split_ifs at hlaunch
        obtain rfl := Option.some.inj hlaunch
        rcases List.mem_append.mp hid with hid | hid
        · exact List.mem_append_left _ hid
        · rcases h prior hprior id hid with hid | hid
          · exact List.mem_append_left _ hid
          · exact List.mem_append_right _ hid

theorem Covers.gateHolds {env : Env} {s : Session} {op : Op} (h : Covers s op) :
    GateHolds env s op := by
  intro id request answer hcall live step hstep hid gated
  have hseg := newEvents_segment env s.engine op
  cases hlaunch : op.launch? s.engine with
  | none =>
      rw [hlaunch] at hseg
      simp [hseg] at hcall
  | some launch =>
      rw [hlaunch] at hseg
      have hplaybook := launch_playbook hlaunch
      obtain ⟨pre, post, hsplit⟩ := List.append_of_mem hcall
      obtain ⟨t, ht, htid, hrequest, allowed, -⟩ := hseg.calls pre _ post hsplit
      rw [hplaybook] at ht
      obtain rfl := eq_of_id_eq (pendingOf_ids op.playbook.steps) ht hstep (htid.trans hid.symm)
      have hlive : (launch.config env s.engine).dryRun = false := by
        rw [hrequest] at live
        exact live
      have approved : t.id ∈ launch.approvedSteps := by
        by_contra unapproved
        exact allowed ⟨gated, hlive, unapproved⟩
      rw [← hid]
      exact h.approved_given hlaunch approved

/-- In every history of runs and approvals in which each approval covers the waiting steps of
its prior run, the gate holds at every request. -/
theorem gate_of_covering_approvals (env : Env) (ops : List Op)
    (covering : Always (fun before op => Covers (Session.after env before) op) ops) :
    Always (fun before op => GateHolds env (Session.after env before) op) ops :=
  covering.imp fun _ _ h => h.gateHolds

/-- Two independent steps that both need an approval. -/
def twoGates : PlaybookDef where
  playbookId := "pb.two_gates"
  name := "Isolate and disable"
  steps :=
    [{ id := "isolate", actionType := "isolate.host", tier := 2 },
      { id := "disable", actionType := "disable_user", tier := 2 }]

/-- Start `twoGates` live, then approve only its first step. -/
def partialApproval : List Op :=
  [.run twoGates "ten_a" false (some "k") [], .approve "pbr_0" ["isolate"] twoGates]

theorem gate_of_covering_approvals_twoGates :
    Always (fun before op => GateHolds sampleEnv (Session.after sampleEnv before) op)
      [.run twoGates "ten_a" false (some "k") [],
        .approve "pbr_0" ["isolate", "disable"] twoGates] := by
  refine gate_of_covering_approvals sampleEnv _ ?_
  rw [← List.singleton_append, always_append, always_singleton, always_singleton]
  refine ⟨trivial, ?_⟩
  intro prior hprior id hid
  have hwait : ((Session.after sampleEnv
      [.run twoGates "ten_a" false (some "k") []]).engine.runs.lookup "pbr_0").map
        (fun run => run.approvalRequired) = some ["isolate", "disable"] := by decide
  rw [List.append_nil] at hprior
  rw [hprior] at hwait
  have hrequired : prior.approvalRequired = ["isolate", "disable"] := Option.some.inj hwait
  rw [hrequired] at hid
  exact .inl hid

/-- Approving one waiting step executes the other one, which nobody approved. -/
theorem gate_violated_by_partial_approval :
    ¬ ∀ (env : Env) (ops : List Op),
      Always (fun before op => GateHolds env (Session.after env before) op) ops := by
  intro h
  have gate := h sampleEnv partialApproval [.run twoGates "ten_a" false (some "k") []]
    (.approve "pbr_0" ["isolate"] twoGates) [] rfl
  have called : .call "disable" ⟨"disable_user", [], false⟩
      (defaultExecutor [] ⟨"disable_user", [], false⟩) ∈
        (Session.after sampleEnv [.run twoGates "ten_a" false (some "k") []]).engine.newEvents
          sampleEnv (.approve "pbr_0" ["isolate"] twoGates) := by
    refine List.mem_of_getElem? (i := 2) ?_
    rfl
  have given := gate _ _ _ called rfl twoGates.steps[1] (by decide) rfl (by decide)
  revert given
  decide

/-! ### Side effects over a history -/

def PlaybookEngine.after (env : Env) (e : PlaybookEngine) (ops : List Op) : PlaybookEngine :=
  ops.foldl (fun e op => (e.perform env op).2) e

/-- The events that a list of requests adds to the trace. -/
def PlaybookEngine.effects (env : Env) (e : PlaybookEngine) (ops : List Op) : List TraceEvent :=
  (e.after env ops).trace.drop e.trace.length

/-- The runs that the requests of a list return. -/
def PlaybookEngine.returned (env : Env) (e : PlaybookEngine) : List Op → List PlaybookRun
  | [] => []
  | op :: ops =>
      ((e.perform env op).1.toOption.toList) ++ (e.perform env op).2.returned env ops

def TraceEvent.isLiveSuccess (id : String) : TraceEvent → Bool
  | .call stepId request answer => stepId = id && !request.dryRun && answer.isOk
  | .record _ => false

/-- How often a live call for the step id has returned successfully. -/
def liveSuccesses (id : String) (trace : List TraceEvent) : Nat :=
  trace.countP (TraceEvent.isLiveSuccess id)

/-- A live run under an idempotency key, then approvals of the runs that this leads to and
further runs with the same key. -/
structure Campaign (env : Env) (e : PlaybookEngine) where
  playbook : PlaybookDef
  tenantId : String
  idempotencyKey : Option String
  approvedSteps : List String
  later : List Op
  follows : Always (fun before op =>
    match op with
    | .run playbook' tenantId' _ key' _ => playbook' = playbook ∧
        idempotencyKeyOf playbook' tenantId' key' =
          idempotencyKeyOf playbook tenantId idempotencyKey
    | .approve runId _ playbook' => playbook' = playbook ∧ ∃ run ∈ e.returned env
        (.run playbook tenantId false idempotencyKey approvedSteps :: before),
          run.runId = runId) later

def Campaign.ops {env : Env} {e : PlaybookEngine} (c : Campaign env e) : List Op :=
  .run c.playbook c.tenantId false c.idempotencyKey c.approvedSteps :: c.later

/-- A request that starts a live run holds back every step whose live call has returned
before: the step itself, or a step it depends on, waits for an approval in the new run. -/
def HoldsBack (env : Env) (e : PlaybookEngine) (before : List Op) (op : Op) : Prop :=
  ∀ launch, op.launch? (e.after env before) = some launch → launch.dryRun = false →
    ∀ id, 0 < liveSuccesses id (e.effects env before) →
      ¬ Enabled (DependsOn (pendingOf launch.playbook.steps))
        (Admits (launch.config env (e.after env before)) (pendingOf launch.playbook.steps)) id

@[simp] theorem liveSuccesses_append (id : String) (l m : List TraceEvent) :
    liveSuccesses id (l ++ m) = liveSuccesses id l + liveSuccesses id m :=
  List.countP_append

theorem after_concat (env : Env) (e : PlaybookEngine) (ops : List Op) (op : Op) :
    e.after env (ops ++ [op]) = ((e.after env ops).perform env op).2 := by
  simp [PlaybookEngine.after]

theorem perform_newEvents (env : Env) (e : PlaybookEngine) (op : Op) :
    (e.perform env op).2.trace = e.trace ++ e.newEvents env op := by
  obtain ⟨trace, htrace, -⟩ := perform_trace env e op
  simp [PlaybookEngine.newEvents, htrace]

theorem after_trace (env : Env) (e : PlaybookEngine) (ops : List Op) :
    (e.after env ops).trace = e.trace ++ e.effects env ops := by
  induction ops using List.reverseRecOn with
  | nil => simp [PlaybookEngine.after, PlaybookEngine.effects]
  | append_singleton ops op ih =>
      rw [PlaybookEngine.effects, after_concat, perform_newEvents, ih]
      simp

theorem effects_concat (env : Env) (e : PlaybookEngine) (ops : List Op) (op : Op) :
    e.effects env (ops ++ [op]) = e.effects env ops ++ (e.after env ops).newEvents env op := by
  rw [PlaybookEngine.effects, after_concat, perform_newEvents, after_trace]
  simp

theorem liveSuccesses_le_calls (id : String) (trace : List TraceEvent) :
    liveSuccesses id trace ≤ (callsOf id trace).countP (·.isOk) := by
  induction trace with
  | nil => simp [liveSuccesses]
  | cons event trace ih =>
      cases event with
      | record r => simpa [liveSuccesses, TraceEvent.isLiveSuccess, callsOf] using ih
      | call stepId request answer =>
          simp only [liveSuccesses, callsOf, List.countP_cons, List.filterMap_cons,
            TraceEvent.isLiveSuccess] at ih ⊢
          by_cases hid : stepId = id
          · simp only [hid, decide_true, Bool.true_and, if_true, List.countP_cons]
            have counted : (!request.dryRun && answer.isOk) = true → answer.isOk = true := by
              simp
            split_ifs with hlive hok <;> [omega; exact absurd (counted hlive) hok; omega; omega]
          · simpa [hid] using ih

theorem Segment.liveSuccesses_le {cfg : RunConfig} {all : List PlaybookStepDef}
    {trace : List TraceEvent} (h : Segment cfg all trace) (id : String) :
    liveSuccesses id trace ≤ 1 :=
  (liveSuccesses_le_calls id trace).trans (h.once id)

/-- A step with a live success in a segment was executed live, and could be. -/
theorem Segment.of_liveSuccesses_pos {cfg : RunConfig} {all : List PlaybookStepDef}
    {trace : List TraceEvent} (h : Segment cfg all trace) {id : String}
    (pos : 0 < liveSuccesses id trace) :
    cfg.dryRun = false ∧ Enabled (DependsOn all) (Admits cfg all) id := by
  obtain ⟨event, hevent, hlive⟩ := List.countP_pos_iff.mp pos
  cases event with
  | record r => simp [TraceEvent.isLiveSuccess] at hlive
  | call stepId request answer =>
      simp only [TraceEvent.isLiveSuccess, Bool.and_eq_true, decide_eq_true_eq,
        Bool.not_eq_true'] at hlive
      obtain ⟨⟨rfl, live⟩, -⟩ := hlive
      refine ⟨?_, h.enabled _ request answer hevent⟩
      obtain ⟨pre, post, hsplit⟩ := List.append_of_mem hevent
      obtain ⟨s, -, -, hrequest, -⟩ := h.calls pre _ post hsplit
      rw [hrequest] at live
      exact live

/-- One request that holds finished steps back repeats none of them. -/
theorem HoldsBack.liveSuccesses_le {env : Env} {e : PlaybookEngine} {before : List Op} {op : Op}
    (h : HoldsBack env e before op) {id : String}
    (old : liveSuccesses id (e.effects env before) ≤ 1) :
    liveSuccesses id (e.effects env (before ++ [op])) ≤ 1 := by
  rw [effects_concat, liveSuccesses_append]
  have hseg := newEvents_segment env (e.after env before) op
  cases hlaunch : op.launch? (e.after env before) with
  | none =>
      rw [hlaunch] at hseg
      simpa [hseg, liveSuccesses] using old
  | some launch =>
      rw [hlaunch] at hseg
      have bound := hseg.liveSuccesses_le id
      rcases Nat.eq_zero_or_pos (liveSuccesses id ((e.after env before).newEvents env op))
        with hzero | pos
      · omega
      · obtain ⟨live, enabled⟩ := hseg.of_liveSuccesses_pos pos
        have fresh : ¬ 0 < liveSuccesses id (e.effects env before) :=
          fun done => h launch hlaunch live id done enabled
        omega

theorem liveSuccesses_le_one_of_holdsBack (env : Env) (e : PlaybookEngine) (ops : List Op)
    (h : Always (HoldsBack env e) ops) (id : String) :
    liveSuccesses id (e.effects env ops) ≤ 1 := by
  induction ops using List.reverseRecOn with
  | nil => simp [PlaybookEngine.effects, PlaybookEngine.after, liveSuccesses]
  | append_singleton ops op ih =>
      obtain ⟨hold, hlast⟩ := (always_concat ops op).mp h
      exact hlast.liveSuccesses_le (ih hold)

/-- A campaign in which every request holds the finished steps back has each live side
effect at most once, after every one of its requests. -/
theorem at_most_once_of_holding_back (env : Env) (e : PlaybookEngine) (c : Campaign env e)
    (h : Always (HoldsBack env e) c.ops) (id : String) :
    Always (fun before op => liveSuccesses id (e.effects env (before ++ [op])) ≤ 1) c.ops := by
  intro before op post hsplit
  refine liveSuccesses_le_one_of_holdsBack env e (before ++ [op]) ?_ id
  rw [hsplit, List.append_cons, always_append] at h
  exact h.1

/-- Both gated steps are approved and executed; a later run with the old key, which the
approval has released, waits for new approvals. -/
def twoGatesCampaign : Campaign sampleEnv {} where
  playbook := twoGates
  tenantId := "ten_a"
  idempotencyKey := some "k"
  approvedSteps := []
  later := [.approve "pbr_0" ["isolate", "disable"] twoGates,
    .run twoGates "ten_a" false (some "k") []]
  follows := by
    rw [← List.singleton_append, always_append, always_singleton, always_singleton]
    exact ⟨⟨rfl, _, List.mem_cons_self, rfl⟩, rfl, rfl⟩

theorem at_most_once_twoGatesCampaign :
    liveSuccesses "isolate" (({} : PlaybookEngine).effects sampleEnv twoGatesCampaign.ops) ≤ 1 := by
  refine at_most_once_of_holding_back sampleEnv {} twoGatesCampaign ?_ "isolate"
    [.run twoGates "ten_a" false (some "k") [],
      .approve "pbr_0" ["isolate", "disable"] twoGates] _ [] rfl
  change Always (HoldsBack sampleEnv {}) ([.run twoGates "ten_a" false (some "k") []] ++
    [.approve "pbr_0" ["isolate", "disable"] twoGates] ++
    [.run twoGates "ten_a" false (some "k") []])
  rw [always_concat, always_concat, always_singleton]
  refine ⟨⟨?_, ?_⟩, ?_⟩
  · intro launch _ _ id done
    exact absurd done (by simp [liveSuccesses, PlaybookEngine.effects, PlaybookEngine.after])
  · intro launch _ _ id done
    exact absurd done (Nat.lt_irrefl 0)
  · intro launch hlaunch _ id _ enabled
    obtain ⟨s, hs, -, allowed⟩ := enabled.admissible
    obtain rfl : (⟨twoGates, false, []⟩ : Launch) = launch := Option.some.inj hlaunch
    have gated : ∀ s ∈ pendingOf twoGates.steps, s.Gated := by decide
    exact allowed ⟨gated s hs, rfl, by simp [Launch.config, PlaybookEngine.config]⟩

/-- Approving the waiting step of `containHostT0` collects from the host a second time. -/
theorem collect_repeated_by_approval :
    ¬ ∀ (env : Env) (e : PlaybookEngine) (c : Campaign env e) (id : String),
      liveSuccesses id (e.effects env c.ops) ≤ 1 := by
  intro h
  have twice := h sampleEnv {}
    { playbook := containHostT0
      tenantId := "ten_a"
      idempotencyKey := some "k"
      approvedSteps := []
      later := [.approve "pbr_0" ["isolate"] containHostT0]
      follows := (always_singleton _).mpr ⟨rfl, _, List.mem_cons_self, rfl⟩ } "collect"
  revert twice
  decide

end BlueTeam.Playbook
