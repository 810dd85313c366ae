/- GID: BlueTeam/Playbook/Idempotency
   generality: I
   source: packages/playbook-sdk/blueteam_playbook/engine.py
   digest: Which request the idempotency cache answers with which run. -/

import BlueTeam.Playbook.History

set_option autoImplicit false
set_option relaxedAutoImplicit false

namespace BlueTeam.Playbook

open BlueTeam.Lib.Trace

/-- What the caller of `run` asks for. -/
structure Ask where
  playbookId : String
  tenantId : String
  dryRun : Bool
  deriving DecidableEq

def PlaybookRun.ask (run : PlaybookRun) : Ask :=
  ⟨run.playbookId, run.tenantId, run.dryRun⟩

/-- The effective key and the question with which a request calls `run`. The approval of an
unknown run calls nothing. -/
def Op.ask? (e : PlaybookEngine) : Op → Option (String × Ask)
  | .run playbook tenantId dryRun idempotencyKey _ =>
      some (idempotencyKeyOf playbook tenantId idempotencyKey,
        ⟨playbook.playbookId, tenantId, dryRun⟩)
  | .approve runId stepIds playbook =>
      (e.runs.lookup runId).map fun prior =>
        (idempotencyKeyOf playbook prior.tenantId
            (some (approvalKey prior.idempotencyKey stepIds)),
          ⟨playbook.playbookId, prior.tenantId, prior.dryRun⟩)

/-- An engine, together with the question of the last request that stored a run under a key. -/
structure Ledger where
  engine : PlaybookEngine := {}
  starter : String → Option Ask := fun _ => none

def Ledger.perform (env : Env) (l : Ledger) (op : Op) : Ledger where
  engine := (l.engine.perform env op).2
  starter :=
    match op.launch? l.engine, op.ask? l.engine, (l.engine.perform env op).1 with
    | some _, some (key, ask), .ok _ => Function.update l.starter key (some ask)
    | _, _, _ => l.starter

def Ledger.after (env : Env) (ops : List Op) : Ledger := ops.foldl (Ledger.perform env) {}

/-- The run that a request returns is one of the playbook, for the tenant and in the mode it
asked for. -/
def AnswersAsk (env : Env) (l : Ledger) (op : Op) : Prop :=
  ∀ key ask run, op.ask? l.engine = some (key, ask) → (l.engine.perform env op).1 = .ok run →
    run.ask = ask

/-- A request that the cache answers asks what the request did that stored the answer. -/
def Agrees (l : Ledger) (op : Op) : Prop :=
  ∀ key ask ask', op.ask? l.engine = some (key, ask) → op.launch? l.engine = none →
    l.starter key = some ask' → ask' = ask

/-! ### One call of `run` -/

/-- How a call of `run` ends: with the cached run, with a `ValueError`, or with a new run that is
stored under its key. -/
inductive Ran (env : Env) (e : PlaybookEngine) (key : String) (ask : Ask) : Result → Prop
  | cached (runId : String) (hit : e.byIdempotency.lookup key = some runId) :
      Ran env e key ask
        ((e.runs.lookup runId).elim (.error (.keyError runId)) .ok, e)
  | raised (miss : key ∉ e.byIdempotency) (trace : List TraceEvent) :
      Ran env e key ask (.error .valueError, { e with trace := trace, ticks := e.ticks + 1 })
  | stored (miss : key ∉ e.byIdempotency) (trace : List TraceEvent) (run : PlaybookRun)
      (id : run.runId = env.newId e.ticks) (under : run.idempotencyKey = key)
      (asked : run.ask = ask) :
      Ran env e key ask (.ok run, { e with trace := trace, ticks := e.ticks + 2 }.store run)

theorem start_ran (env : Env) (e : PlaybookEngine) (playbook : PlaybookDef) (tenantId : String)
    (dryRun : Bool) (key : String) (approvedSteps : List String) (miss : key ∉ e.byIdempotency) :
    Ran env e key ⟨playbook.playbookId, tenantId, dryRun⟩
      (e.start env playbook tenantId dryRun key approvedSteps) := by
  have started := start_started env e playbook tenantId dryRun key approvedSteps
  revert started
  generalize e.start env playbook tenantId dryRun key approvedSteps = result
  intro started
  cases started with
  | settled st inv => exact .stored miss _ _ rfl rfl rfl
  | failed st inv => exact .stored miss _ _ rfl rfl rfl
  | raised st inv => exact .raised miss _

theorem run_ran (env : Env) (e : PlaybookEngine) (playbook : PlaybookDef) (tenantId : String)
    (dryRun : Bool) (idempotencyKey : Option String) (approvedSteps : List String) :
    Ran env e (idempotencyKeyOf playbook tenantId idempotencyKey)
      ⟨playbook.playbookId, tenantId, dryRun⟩
      (e.run env playbook tenantId dryRun idempotencyKey approvedSteps) := by
  by_cases hit : idempotencyKeyOf playbook tenantId idempotencyKey ∈ e.byIdempotency
  · obtain ⟨runId, hlookup⟩ := Option.isSome_iff_exists.mp (AList.lookup_isSome.mpr hit)
    have hrun : e.run env playbook tenantId dryRun idempotencyKey approvedSteps =
        ((e.runs.lookup runId).elim (.error (.keyError runId)) .ok, e) := by
      simp only [PlaybookEngine.run, hlookup]
      cases e.runs.lookup runId <;> rfl
    rw [hrun]
    exact .cached runId hlookup
  · rw [run_of_fresh env e playbook tenantId dryRun idempotencyKey approvedSteps hit]
    exact start_ran env e playbook tenantId dryRun _ approvedSteps hit

/-- The engine on which a request calls `run`: an approval has released the key of its run. -/
def Op.entry (e : PlaybookEngine) : Op → PlaybookEngine
  | .run _ _ _ _ _ => e
  | .approve runId _ _ =>
      match e.runs.lookup runId with
      | none => e
      | some prior => { e with byIdempotency := e.byIdempotency.erase prior.idempotencyKey }

/-- A request that asks nothing is refused, any other is one call of `run`. -/
theorem perform_ran (env : Env) (e : PlaybookEngine) (op : Op) :
    match op.ask? e with
    | none => (e.perform env op).2 = e ∧ op.launch? e = none ∧ ∃ err, (e.perform env op).1 = .error err
    | some (key, ask) => Ran env (op.entry e) key ask (e.perform env op) ∧
        (op.launch? e = none ↔ key ∈ (op.entry e).byIdempotency) := by
  cases op with
  | run playbook tenantId dryRun idempotencyKey approvedSteps =>
      refine ⟨run_ran env e playbook tenantId dryRun idempotencyKey approvedSteps, ?_⟩
      simp [Op.launch?, Op.entry]
  | approve runId stepIds playbook =>
      cases hprior : e.runs.lookup runId with
      | none =>
          simp [Op.ask?, Op.launch?, PlaybookEngine.perform, PlaybookEngine.approve, hprior]
      | some prior =>
          simp only [Op.ask?, Op.launch?, Op.entry, PlaybookEngine.perform,
            PlaybookEngine.approve, hprior, Option.map_some]
          refine ⟨run_ran env _ playbook prior.tenantId prior.dryRun _ _, ?_⟩
          simp

/-! ### Histories -/

/-- Stored runs are numbered by the clock, and a cached key leads to a run that answers the
question of its last starter. -/
structure Recorded (env : Env) (e : PlaybookEngine) (starter : String → Option Ask) : Prop where
  numbered : ∀ runId ∈ e.runs, ∃ i < e.ticks, env.newId i = runId
  cached : ∀ key runId, e.byIdempotency.lookup key = some runId →
    ∃ run, e.runs.lookup runId = some run ∧ starter key = some run.ask

variable {env : Env} {e : PlaybookEngine} {starter : String → Option Ask}

theorem Recorded.entry (h : Recorded env e starter) (op : Op) :
    Recorded env (op.entry e) starter := by
  cases op with
  | run => exact h
  | approve runId stepIds playbook =>
      cases hprior : e.runs.lookup runId with
      | none =>
          simp only [Op.entry, hprior]
          exact h
      | some prior =>
          simp only [Op.entry, hprior]
          refine ⟨h.numbered, ?_⟩
          intro key id hid
          by_cases hkey : key = prior.idempotencyKey
          · subst hkey
            simp at hid
          · rw [AList.lookup_erase_ne hkey] at hid
            exact h.cached key id hid

theorem Recorded.idle (h : Recorded env e starter) (trace : List TraceEvent) :
    Recorded env { e with trace := trace, ticks := e.ticks + 1 } starter := by
  refine ⟨?_, h.cached⟩
  intro runId hid
  obtain ⟨i, hi, hnew⟩ := h.numbered runId hid
  exact ⟨i, Nat.lt_succ_of_lt hi, hnew⟩

/-- A new run does not overwrite another one, as its id is fresh. -/
theorem Recorded.store (h : Recorded env e starter) (fresh : Function.Injective env.newId)
    {run : PlaybookRun} (id : run.runId = env.newId e.ticks) (trace : List TraceEvent) :
    Recorded env ({ e with trace := trace, ticks := e.ticks + 2 }.store run)
      (Function.update starter run.idempotencyKey (some run.ask)) := by
  refine ⟨?_, ?_⟩
  · intro runId hid
    rcases (AList.mem_insert _).mp hid with rfl | hid
    · exact ⟨e.ticks, Nat.lt_add_of_pos_right (by decide), id.symm⟩
    · obtain ⟨i, hi, hnew⟩ := h.numbered runId hid
      exact ⟨i, Nat.lt_add_right 2 hi, hnew⟩
  · intro key runId hid
    simp only [PlaybookEngine.store] at hid ⊢
    by_cases hkey : key = run.idempotencyKey
    · subst hkey
      rw [AList.lookup_insert] at hid
      obtain rfl := Option.some.inj hid
      exact ⟨run, AList.lookup_insert _, Function.update_self _ _ _⟩
    · rw [AList.lookup_insert_ne hkey] at hid
      obtain ⟨old, hold, hasked⟩ := h.cached key runId hid
      refine ⟨old, ?_, ?_⟩
      · rw [AList.lookup_insert_ne]
        · exact hold
        · intro heq
          have hmem : runId ∈ e.runs := by
            rw [← AList.lookup_isSome, hold]
            rfl
          obtain ⟨i, hi, hnew⟩ := h.numbered runId hmem
          have : i = e.ticks := fresh (hnew.trans (heq.trans id))
          omega
      · rw [Function.update_of_ne hkey]
        exact hasked

theorem Recorded.perform {l : Ledger} (h : Recorded env l.engine l.starter)
    (fresh : Function.Injective env.newId) (op : Op) :
    Recorded env (l.perform env op).engine (l.perform env op).starter := by
  have ran := perform_ran env l.engine op
  unfold Ledger.perform
  dsimp only
  cases hask : op.ask? l.engine with
  | none =>
      simp only [hask] at ran
      obtain ⟨hsame, hlaunch, -⟩ := ran
      rw [hsame, hlaunch]
      exact h
  | some asked =>
      obtain ⟨key, ask⟩ := asked
      simp only [hask] at ran
      obtain ⟨ran, hlaunch⟩ := ran
      have hentry := h.entry op
      revert ran
      generalize l.engine.perform env op = result
      intro ran
      cases ran with
      | cached runId hit =>
          have hnone : op.launch? l.engine = none :=
            hlaunch.mpr (AList.lookup_isSome.mp (by rw [hit]; rfl))
          rw [hnone]
          exact hentry
      | raised miss trace =>
          cases op.launch? l.engine <;> exact hentry.idle trace
      | stored miss trace run id under asked =>
          obtain ⟨launch, hsome⟩ := Option.ne_none_iff_exists'.mp (mt hlaunch.mp miss)
          rw [hsome]
          subst under asked
          exact hentry.store fresh id trace

theorem recorded_after (fresh : Function.Injective env.newId) (ops : List Op) :
    Recorded env (Ledger.after env ops).engine (Ledger.after env ops).starter := by
  induction ops using List.reverseRecOn with
  | nil =>
      refine ⟨?_, ?_⟩
      · intro runId hid
        simp [Ledger.after, AList.notMem_empty] at hid
      · intro key runId hid
        simp [Ledger.after] at hid
  | append_singleton ops op ih =>
      have hstep : Ledger.after env (ops ++ [op]) = (Ledger.after env ops).perform env op := by
        simp [Ledger.after]
      rw [hstep]
      exact ih.perform fresh op

/-- A request gets the run it asked for exactly if it agrees with the starter of what the cache
holds for it. -/
theorem Recorded.answered_iff {l : Ledger} (h : Recorded env l.engine l.starter) (op : Op) :
    AnswersAsk env l op ↔ Agrees l op := by
  have ran := perform_ran env l.engine op
  unfold AnswersAsk Agrees
  cases hask : op.ask? l.engine with
  | none => simp
  | some asked =>
      obtain ⟨key, ask⟩ := asked
      simp only [hask] at ran
      obtain ⟨ran, hlaunch⟩ := ran
      have hentry := h.entry op
      revert ran
      generalize l.engine.perform env op = result
      intro ran
      cases ran with
      | cached runId hit =>
          obtain ⟨run, hrun, hstarter⟩ := hentry.cached key runId hit
          have hnone : op.launch? l.engine = none :=
            hlaunch.mpr (AList.lookup_isSome.mp (by rw [hit]; rfl))
          rw [hrun, hnone]
          constructor
          · intro hanswered key' ask₁ ask₂ heq _ hstart
            obtain ⟨rfl, rfl⟩ := Prod.mk.inj (Option.some.inj heq)
            rw [hstarter] at hstart
            obtain rfl := Option.some.inj hstart
            exact hanswered _ _ run rfl rfl
          · intro hagrees key' ask₁ run' heq hreturned
            obtain ⟨rfl, rfl⟩ := Prod.mk.inj (Option.some.inj heq)
            obtain rfl : run = run' := Except.ok.inj hreturned
            exact hagrees _ _ run.ask rfl rfl hstarter
      | raised miss trace =>
          have hstarts := mt hlaunch.mp miss
          constructor
          · intro _ _ _ _ _ hnone
            exact absurd hnone hstarts
          · intro _ _ _ _ _ hreturned
            cases hreturned
      | stored miss trace run id under asked =>
          have hstarts := mt hlaunch.mp miss
          constructor
          · intro _ _ _ _ _ hnone
            exact absurd hnone hstarts
          · intro _ key' ask' run' heq hreturned
            obtain ⟨rfl, rfl⟩ := Prod.mk.inj (Option.some.inj heq)
            obtain rfl : run = run' := Except.ok.inj hreturned
            exact asked

/-- In a history every request gets the run it asked for exactly if each request that the cache
answers asks for the playbook, the tenant and the mode of the request that stored the answer. -/
theorem idempotency_answers_iff (env : Env) (fresh : Function.Injective env.newId)
    (ops : List Op) :
    Always (fun before op => AnswersAsk env (Ledger.after env before) op) ops ↔
      Always (fun before op => Agrees (Ledger.after env before) op) ops := by
  constructor
  · intro h
    exact h.imp fun before op => ((recorded_after fresh before).answered_iff op).mp
  · intro h
    exact h.imp fun before op => ((recorded_after fresh before).answered_iff op).mpr

theorem sampleEnv_newId_injective : Function.Injective sampleEnv.newId := by
  intro m n h
  have hdigits : m.repr.toList = n.repr.toList := by
    have := congrArg String.toList h
    simpa [sampleEnv, String.toList_append] using this
  rw [Nat.toList_repr, Nat.toList_repr] at hdigits
  have := congrArg (fun digits => Nat.ofDigitChars 10 digits 0) hdigits
  simpa using this

theorem idempotency_answers_repeated :
    Always (fun before op => AnswersAsk sampleEnv (Ledger.after sampleEnv before) op)
      ([.run containHostT0 "ten_a" false none []] ++ [.run containHostT0 "ten_a" false none []]) := by
  refine (idempotency_answers_iff sampleEnv sampleEnv_newId_injective _).mpr ?_
  rw [always_concat, always_singleton]
  refine ⟨?_, ?_⟩
  · intro key ask ask' _ _ hstarter
    cases hstarter
  · intro key ask ask' hask _ hstarter
    obtain ⟨rfl, rfl⟩ := Prod.mk.inj (Option.some.inj hask)
    have hlast : (Ledger.after sampleEnv [.run containHostT0 "ten_a" false none []]).starter
        (idempotencyKeyOf containHostT0 "ten_a" none) =
          some ⟨containHostT0.playbookId, "ten_a", false⟩ := by decide
    rw [hlast] at hstarter
    exact (Option.some.inj hstarter).symm

/-- The default key omits the mode: after a dry run, the live run of the same playbook is
answered with the dry run. -/
theorem live_run_answered_by_dry_run :
    ¬ ∀ (env : Env), Function.Injective env.newId → ∀ ops : List Op,
      Always (fun before op => AnswersAsk env (Ledger.after env before) op) ops := by
  intro h
  have answered := h sampleEnv sampleEnv_newId_injective
    [.run containHostT0 "ten_a" true none [], .run containHostT0 "ten_a" false none []]
    [.run containHostT0 "ten_a" true none []] (.run containHostT0 "ten_a" false none []) [] rfl
  have hreturned : ((Ledger.after sampleEnv
      [.run containHostT0 "ten_a" true none []]).engine.perform sampleEnv
        (.run containHostT0 "ten_a" false none [])).1.map (·.ask) =
          .ok ⟨containHostT0.playbookId, "ten_a", true⟩ := rfl
  rcases hrun : ((Ledger.after sampleEnv
      [.run containHostT0 "ten_a" true none []]).engine.perform sampleEnv
        (.run containHostT0 "ten_a" false none [])).1 with err | run
  · rw [hrun] at hreturned
    cases hreturned
  · rw [hrun] at hreturned
    have hdry : run.ask = ⟨containHostT0.playbookId, "ten_a", true⟩ := Except.ok.inj hreturned
    have hlive : run.ask = ⟨containHostT0.playbookId, "ten_a", false⟩ :=
      answered _ _ run rfl hrun
    exact absurd (hdry.symm.trans hlive) (by decide)

end BlueTeam.Playbook
