/- GID: BlueTeam/Playbook/Tenants
   generality: I
   source: packages/playbook-sdk/blueteam_playbook/engine.py
   digest: What an engine holds for one tenant, and which calls of the others leave it alone. -/

import BlueTeam.Playbook.Approval
import Mathlib.Data.Option.Basic

set_option autoImplicit false
set_option relaxedAutoImplicit false

namespace BlueTeam.Playbook

/-! ### An executor without a memory -/

def Forgetful (executor : Executor) : Prop :=
  ∀ earlier earlier' call, executor earlier call = executor earlier' call

theorem defaultExecutor_forgetful : Forgetful defaultExecutor := fun _ _ _ => rfl

section

variable {cfg : RunConfig} (forgetful : Forgetful cfg.executor) (earlier : List ExecCall)

include forgetful

theorem attemptLoop_forgetful (step : PlaybookStepDef) (left attempts : Nat)
    (lastError : Option String) (trace : List TraceEvent) :
    attemptLoop { cfg with earlier := earlier } step left attempts lastError trace =
      attemptLoop cfg step left attempts lastError trace := by
  induction left generalizing attempts lastError trace with
  | zero => rfl
  | succ left ih =>
      simp only [attemptLoop, RunConfig.request, ih]
      rw [forgetful (earlier ++ _) (cfg.earlier ++ _)]

theorem visit_forgetful (st : RunState) (step : PlaybookStepDef) :
    visit { cfg with earlier := earlier } st step = visit cfg st step := by
  unfold visit executeStep
  simp only [attemptLoop_forgetful forgetful earlier]

theorem pass_forgetful (snapshot : List PlaybookStepDef) (progress : Bool) (st : RunState) :
    pass { cfg with earlier := earlier } snapshot progress st = pass cfg snapshot progress st := by
  induction snapshot generalizing progress st with
  | nil => rfl
  | cons step rest ih =>
      simp only [pass, visit_forgetful forgetful earlier]
      cases visit cfg st step with
      | next moved st => exact ih _ _
      | returned st => rfl
      | raised st => rfl

theorem scheduleLoop_forgetful (fuel : Nat) (st : RunState) :
    scheduleLoop { cfg with earlier := earlier } fuel st = scheduleLoop cfg fuel st := by
  induction fuel generalizing st with
  | zero => rfl
  | succ fuel ih =>
      simp only [scheduleLoop, pass_forgetful forgetful earlier]
      split
      · rfl
      · cases pass cfg st.pending false st with
        | next progress st =>
            cases progress with
            | true => exact ih st
            | false => rfl
        | returned st => rfl
        | raised st => rfl

end

/-! ### One playbook started on two engines -/

/-- Two engines start a playbook with the same ids and clock readings. -/
structure SameDraws (env env' : Env) (e e' : PlaybookEngine) : Prop where
  executor : env'.executor = env.executor
  forgetful : Forgetful env.executor
  newId : env'.newId e'.ticks = env.newId e.ticks
  startedAt : env'.now e'.ticks = env.now e.ticks
  finishedAt : env'.now (e'.ticks + 1) = env.now (e.ticks + 1)

/-- Released keys do not matter for the draws. -/
theorem SameDraws.erase {env env' : Env} {e e' : PlaybookEngine} (h : SameDraws env env' e e')
    (key : String) :
    SameDraws env env' { e with byIdempotency := e.byIdempotency.erase key }
      { e' with byIdempotency := e'.byIdempotency.erase key } :=
  ⟨h.executor, h.forgetful, h.newId, h.startedAt, h.finishedAt⟩

def PlaybookEngine.grow (e : PlaybookEngine) (trace : List TraceEvent) (n : Nat) :
    PlaybookEngine :=
  { e with trace := e.trace ++ trace, ticks := e.ticks + n }

/-- Both calls store one new run, or both raise. -/
inductive StartsAlike (e e' : PlaybookEngine) (id tenantId key : String) : Result → Result → Prop
  | stored (run : PlaybookRun) (trace : List TraceEvent) (n : Nat) (named : run.runId = id)
      (owner : run.tenantId = tenantId) (keyed : run.idempotencyKey = key) :
      StartsAlike e e' id tenantId key (.ok run, (e.grow trace n).store run)
        (.ok run, (e'.grow trace n).store run)
  | raised (error : EngineError) (trace : List TraceEvent) (n : Nat) :
      StartsAlike e e' id tenantId key (.error error, e.grow trace n)
        (.error error, e'.grow trace n)

theorem start_alike {env env' : Env} {e e' : PlaybookEngine} (h : SameDraws env env' e e')
    (playbook : PlaybookDef) (tenantId : String) (dryRun : Bool) (key : String)
    (approvedSteps : List String) :
    StartsAlike e e' (env.newId e.ticks) tenantId key
      (e.start env playbook tenantId dryRun key approvedSteps)
      (e'.start env' playbook tenantId dryRun key approvedSteps) := by
  have hloop : ∀ fuel st, scheduleLoop (e'.config env' dryRun approvedSteps) fuel st =
      scheduleLoop (e.config env dryRun approvedSteps) fuel st := by
    intro fuel st
    have hforgetful : Forgetful (e.config env dryRun approvedSteps).executor := h.forgetful
    unfold PlaybookEngine.config at hforgetful ⊢
    rw [h.executor]
    exact scheduleLoop_forgetful hforgetful _ fuel st
  have hfinish : ∀ status st, StartsAlike e e' (env.newId e.ticks) tenantId key
      (e.finish env playbook tenantId dryRun key status st)
      (e'.finish env' playbook tenantId dryRun key status st) := by
    intro status st
    unfold PlaybookEngine.finish
    rw [h.newId, h.startedAt, h.finishedAt]
    exact .stored _ st.trace 2 rfl rfl rfl
  unfold PlaybookEngine.start
  dsimp only
  rw [hloop]
  cases scheduleLoop (e.config env dryRun approvedSteps) ((pendingOf playbook.steps).length + 1)
      { pending := pendingOf playbook.steps } with
  | drained st => exact hfinish _ _
  | returned st => exact hfinish _ _
  | raised st => exact .raised _ st.trace 1
  | outOfFuel st => exact .raised _ st.trace 0

/-! ### The part of an engine that is a tenant's -/

/-- The run that a key leads to. -/
def PlaybookEngine.cached (e : PlaybookEngine) (key : String) : Option PlaybookRun :=
  (e.byIdempotency.lookup key).bind fun runId => e.runs.lookup runId

/-- Every key leads to a run. -/
def PlaybookEngine.Linked (e : PlaybookEngine) : Prop :=
  ∀ key ∈ e.byIdempotency, (e.cached key).isSome

/-- The second engine has the runs of the tenant that the first has, under the same keys, and no
others. -/
structure PartOf (a : String) (e e' : PlaybookEngine) : Prop where
  runs : ∀ id, e'.runs.lookup id = (e.runs.lookup id).filter fun run => run.tenantId = a
  cached : ∀ key, e'.cached key = (e.cached key).filter fun run => run.tenantId = a
  linked : e.Linked
  linked' : e'.Linked

theorem partOf_empty (a : String) : PartOf a {} {} := by
  have linked : ({} : PlaybookEngine).Linked := by
    intro key hkey
    exact absurd hkey (AList.notMem_empty key)
  exact ⟨fun _ => rfl, fun _ => rfl, linked, linked⟩

section

variable {e e' : PlaybookEngine} {a : String}

theorem cached_of_lookup_none {key : String} (h : e.byIdempotency.lookup key = none) :
    e.cached key = none := by
  unfold PlaybookEngine.cached
  rw [h]
  rfl

/-- A call is answered by the run that its key leads to, and starts a run where there is none. -/
theorem PlaybookEngine.Linked.run_eq (h : e.Linked) (env : Env) (playbook : PlaybookDef)
    (tenantId : String) (dryRun : Bool) (idempotencyKey : Option String)
    (approvedSteps : List String) :
    e.run env playbook tenantId dryRun idempotencyKey approvedSteps =
      match e.cached (idempotencyKeyOf playbook tenantId idempotencyKey) with
      | some run => (.ok run, e)
      | none => e.start env playbook tenantId dryRun
          (idempotencyKeyOf playbook tenantId idempotencyKey) approvedSteps := by
  unfold PlaybookEngine.run
  dsimp only
  cases hkey : e.byIdempotency.lookup (idempotencyKeyOf playbook tenantId idempotencyKey) with
  | none => rw [cached_of_lookup_none hkey]
  | some runId =>
      have hmem : idempotencyKeyOf playbook tenantId idempotencyKey ∈ e.byIdempotency := by
        rw [← AList.lookup_isSome, hkey]
        rfl
      obtain ⟨run, hrun⟩ := Option.isSome_iff_exists.mp (h _ hmem)
      have hlookup : e.runs.lookup runId = some run := by
        unfold PlaybookEngine.cached at hrun
        rwa [hkey] at hrun
      rw [hrun]
      dsimp only
      rw [hlookup]

/-- A run under a new id changes what its own key leads to, and nothing else. -/
theorem cached_store (linked : e.Linked) {run : PlaybookRun} (fresh : run.runId ∉ e.runs)
    (key : String) :
    (e.store run).cached key = if key = run.idempotencyKey then some run else e.cached key := by
  unfold PlaybookEngine.cached PlaybookEngine.store
  dsimp only
  split_ifs with hkey
  · subst hkey
    rw [AList.lookup_insert, Option.bind_some, AList.lookup_insert]
  · rw [AList.lookup_insert_ne hkey]
    cases hid : e.byIdempotency.lookup key with
    | none => rfl
    | some runId =>
        rw [Option.bind_some, Option.bind_some, AList.lookup_insert_ne]
        rintro rfl
        have hmem : key ∈ e.byIdempotency := by
          rw [← AList.lookup_isSome, hid]
          rfl
        have hsome := linked key hmem
        unfold PlaybookEngine.cached at hsome
        rw [hid, Option.bind_some, AList.lookup_eq_none.mpr fresh] at hsome
        cases hsome

theorem PlaybookEngine.Linked.store (linked : e.Linked) {run : PlaybookRun}
    (fresh : run.runId ∉ e.runs) : (e.store run).Linked := by
  intro key hkey
  rw [cached_store linked fresh]
  split_ifs with hown
  · rfl
  · rcases (AList.mem_insert _).mp hkey with hkey | hkey
    · exact absurd hkey hown
    · exact linked key hkey

/-- What the keys lead to once one of them is released. -/
theorem cached_erase (key other : String) :
    ({ e with byIdempotency := e.byIdempotency.erase key } : PlaybookEngine).cached other =
      if other = key then none else e.cached other := by
  unfold PlaybookEngine.cached
  dsimp only
  split_ifs with hkey
  · subst hkey
    rw [AList.lookup_erase]
    rfl
  · rw [AList.lookup_erase_ne hkey]

theorem PlaybookEngine.Linked.erase (linked : e.Linked) (key : String) :
    ({ e with byIdempotency := e.byIdempotency.erase key } : PlaybookEngine).Linked := by
  intro other hother
  obtain ⟨hne, hmem⟩ := AList.mem_erase.mp hother
  rw [cached_erase, if_neg hne]
  exact linked other hmem

/-! ### What one call does to the part of a tenant -/

theorem PartOf.fresh (h : PartOf a e e') {id : String} (fresh : id ∉ e.runs) : id ∉ e'.runs := by
  rw [← AList.lookup_eq_none, h.runs id, AList.lookup_eq_none.mpr fresh]
  rfl

theorem PartOf.grow (h : PartOf a e e') (trace trace' : List TraceEvent) (n n' : Nat) :
    PartOf a (e.grow trace n) (e'.grow trace' n') :=
  ⟨h.runs, h.cached, h.linked, h.linked'⟩

theorem PartOf.grow_left (h : PartOf a e e') (trace : List TraceEvent) (n : Nat) :
    PartOf a (e.grow trace n) e' :=
  ⟨h.runs, h.cached, h.linked, h.linked'⟩

/-- A run of the tenant is stored in both engines. -/
theorem PartOf.store (h : PartOf a e e') {run : PlaybookRun} (owner : run.tenantId = a)
    (fresh : run.runId ∉ e.runs) : PartOf a (e.store run) (e'.store run) := by
  have fresh' := h.fresh fresh
  refine ⟨?_, ?_, h.linked.store fresh, h.linked'.store fresh'⟩
  · intro id
    unfold PlaybookEngine.store
    dsimp only
    by_cases hid : id = run.runId
    · subst hid
      rw [AList.lookup_insert, AList.lookup_insert]
      rw [Option.filter_some_pos (by simpa using owner)]
    · rw [AList.lookup_insert_ne hid, AList.lookup_insert_ne hid]
      exact h.runs id
  · intro key
    rw [cached_store h.linked fresh, cached_store h.linked' fresh']
    split_ifs with hkey
    · rw [Option.filter_some_pos (by simpa using owner)]
    · exact h.cached key

/-- A run of another tenant is stored in the first engine, under a key that led nowhere. -/
theorem PartOf.store_left (h : PartOf a e e') {run : PlaybookRun} (owner : run.tenantId ≠ a)
    (fresh : run.runId ∉ e.runs) (unused : e.cached run.idempotencyKey = none) :
    PartOf a (e.store run) e' := by
  refine ⟨?_, ?_, h.linked.store fresh, h.linked'⟩
  · intro id
    unfold PlaybookEngine.store
    dsimp only
    by_cases hid : id = run.runId
    · subst hid
      rw [AList.lookup_insert, h.runs, AList.lookup_eq_none.mpr fresh,
        Option.filter_some_neg (by simpa using owner)]
      rfl
    · rw [AList.lookup_insert_ne hid]
      exact h.runs id
  · intro key
    rw [cached_store h.linked fresh, h.cached]
    split_ifs with hkey
    · subst hkey
      rw [unused, Option.filter_some_neg (by simpa using owner)]
      rfl
    · rfl

theorem PartOf.erase (h : PartOf a e e') (key : String) :
    PartOf a { e with byIdempotency := e.byIdempotency.erase key }
      { e' with byIdempotency := e'.byIdempotency.erase key } := by
  refine ⟨h.runs, ?_, h.linked.erase key, h.linked'.erase key⟩
  intro other
  rw [cached_erase, cached_erase]
  split_ifs
  · rfl
  · exact h.cached other

/-- Releasing a key that leads to no run of the tenant. -/
theorem PartOf.erase_left (h : PartOf a e e') {key : String}
    (spared : ∀ run, e.cached key = some run → run.tenantId ≠ a) :
    PartOf a { e with byIdempotency := e.byIdempotency.erase key } e' := by
  refine ⟨h.runs, ?_, h.linked.erase key, h.linked'⟩
  intro other
  rw [cached_erase, h.cached]
  split_ifs with hkey
  · subst hkey
    rw [Option.filter_none, Option.filter_eq_none_iff]
    intro run hrun
    simpa using spared run hrun
  · rfl

/-- Two calls have the same answer, which is a run of the tenant if it is one, and leave it the
same part. -/
structure AnsweredAlike {ε : Type} (a : String)
    (result result' : Except ε PlaybookRun × PlaybookEngine) : Prop where
  answer : result.1 = result'.1
  part : PartOf a result.2 result'.2
  owner : ∀ run, result.1 = .ok run → run.tenantId = a

theorem AnsweredAlike.refused {ε : Type} (h : PartOf a e e') (error : ε) :
    AnsweredAlike a (.error error, e) (.error error, e') := by
  refine ⟨rfl, h, ?_⟩
  intro run hrun
  cases hrun

/-- A call for the tenant, whose key leads to no run of another one: it is answered alike, with a
run of the tenant. -/
theorem PartOf.run (h : PartOf a e e') {env env' : Env} (draws : SameDraws env env' e e')
    (fresh : env.newId e.ticks ∉ e.runs) (playbook : PlaybookDef) (dryRun : Bool)
    (idempotencyKey : Option String) (approvedSteps : List String)
    (own : ∀ run, e.cached (idempotencyKeyOf playbook a idempotencyKey) = some run →
      run.tenantId = a) :
    AnsweredAlike a (e.run env playbook a dryRun idempotencyKey approvedSteps)
      (e'.run env' playbook a dryRun idempotencyKey approvedSteps) := by
  rw [h.linked.run_eq, h.linked'.run_eq, h.cached]
  cases hcached : e.cached (idempotencyKeyOf playbook a idempotencyKey) with
  | some run =>
      have howner := own run hcached
      have hfilter : (some run).filter (fun run => run.tenantId = a) = some run := by
        simp [howner]
      rw [hfilter]
      refine ⟨rfl, h, ?_⟩
      intro other hother
      obtain rfl := Except.ok.inj hother
      exact howner
  | none =>
      rw [Option.filter_none]
      have started := start_alike draws playbook a dryRun
        (idempotencyKeyOf playbook a idempotencyKey) approvedSteps
      dsimp only
      revert started
      generalize e.start env playbook a dryRun _ approvedSteps = result
      generalize e'.start env' playbook a dryRun _ approvedSteps = result'
      intro started
      cases started with
      | stored run trace n named owner keyed =>
          refine ⟨rfl, (h.grow trace trace n n).store owner ?_, ?_⟩
          · rw [named]
            exact fresh
          · intro other hother
            obtain rfl := Except.ok.inj hother
            exact owner
      | raised error trace n => exact .refused (h.grow trace trace n n) error

/-- A call for another tenant leaves the part of the tenant alone. -/
theorem PartOf.run_left (h : PartOf a e e') {env : Env} (forgetful : Forgetful env.executor)
    (fresh : env.newId e.ticks ∉ e.runs) (playbook : PlaybookDef) {tenantId : String}
    (hidden : tenantId ≠ a) (dryRun : Bool) (idempotencyKey : Option String)
    (approvedSteps : List String) :
    PartOf a (e.run env playbook tenantId dryRun idempotencyKey approvedSteps).2 e' := by
  rw [h.linked.run_eq]
  cases hcached : e.cached (idempotencyKeyOf playbook tenantId idempotencyKey) with
  | some run => exact h
  | none =>
      have same : SameDraws env env e e := ⟨rfl, forgetful, rfl, rfl, rfl⟩
      have started := start_alike same playbook tenantId dryRun
        (idempotencyKeyOf playbook tenantId idempotencyKey) approvedSteps
      dsimp only
      revert started
      generalize e.start env playbook tenantId dryRun _ approvedSteps = result
      intro started
      cases started with
      | stored run trace n named owner keyed =>
          refine (h.grow_left trace n).store_left (by rw [owner]; exact hidden) ?_ ?_
          · rw [named]
            exact fresh
          · rw [keyed]
            exact hcached
      | raised error trace n => exact h.grow_left trace n

/-- A call stores runs under the id that it draws and under no other. -/
theorem mem_runs_run (linked : e.Linked) (env : Env) (forgetful : Forgetful env.executor)
    (playbook : PlaybookDef) (tenantId : String) (dryRun : Bool) (idempotencyKey : Option String)
    (approvedSteps : List String) {id : String}
    (h : id ∈ (e.run env playbook tenantId dryRun idempotencyKey approvedSteps).2.runs) :
    id ∈ e.runs ∨ id = env.newId e.ticks := by
  rw [linked.run_eq] at h
  cases hcached : e.cached (idempotencyKeyOf playbook tenantId idempotencyKey) with
  | some run =>
      rw [hcached] at h
      exact .inl h
  | none =>
      rw [hcached] at h
      have same : SameDraws env env e e := ⟨rfl, forgetful, rfl, rfl, rfl⟩
      have started := start_alike same playbook tenantId dryRun
        (idempotencyKeyOf playbook tenantId idempotencyKey) approvedSteps
      dsimp only at h
      revert started h
      generalize e.start env playbook tenantId dryRun _ approvedSteps = result
      intro h started
      cases started with
      | stored run trace n named owner keyed =>
          rcases (AList.mem_insert _).mp h with hid | hid
          · exact .inr (hid.trans named)
          · exact .inl hid
      | raised error trace n => exact .inl h

/-- An approval is a call for the tenant of the run, on an engine that has released its key. -/
theorem approve_eq {runId : String} {prior : PlaybookRun} (h : e.get runId = some prior)
    (env : Env) (stepIds : List String) (playbook : PlaybookDef) :
    e.approve env runId stepIds playbook =
      { e with byIdempotency := e.byIdempotency.erase prior.idempotencyKey }.run env playbook
        prior.tenantId prior.dryRun (some (approvalKey prior.idempotencyKey stepIds))
        (stepIds ++ prior.approvalRequired) := by
  unfold PlaybookEngine.approve
  unfold PlaybookEngine.get at h
  rw [h]

/-- What a released engine has under a key, the engine had before. -/
theorem cached_of_erase {key other : String} {run : PlaybookRun}
    (h : ({ e with byIdempotency := e.byIdempotency.erase key } : PlaybookEngine).cached other =
      some run) : e.cached other = some run := by
  rw [cached_erase] at h
  split_ifs at h
  exact h

end

end BlueTeam.Playbook
