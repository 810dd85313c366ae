/- GID: BlueTeam/Playbook/Approval
   generality: I
   source: packages/playbook-sdk/blueteam_playbook/engine.py
   digest: When a chain of approvals brings a live run to completion. -/

import BlueTeam.Playbook.Run

set_option autoImplicit false
set_option relaxedAutoImplicit false

namespace BlueTeam.Playbook

open BlueTeam.Lib.Dependency
open Relation

/-- Approving the latest run, over and over, with exactly the steps it waits for. -/
def approveRepeatedly (env : Env) (playbook : PlaybookDef) (first : Result) : Nat → Result
  | 0 => first
  | n + 1 =>
      match approveRepeatedly env playbook first n with
      | (.ok run, e) => e.approve env run.runId run.approvalRequired playbook
      | (.error error, e) => (.error error, e)

/-- The id names a step that a live run with these approvals does not hold back. -/
def Unlocked (all : List PlaybookStepDef) (approved : List String) (id : String) : Prop :=
  ∃ s ∈ all, s.id = id ∧ (s.Gated → id ∈ approved)

theorem unlocked_of_admits {cfg : RunConfig} {all : List PlaybookStepDef} {id : String}
    (live : cfg.dryRun = false) (h : Admits cfg all id) : Unlocked all cfg.approvedSteps id := by
  obtain ⟨s, hs, hid, allowed⟩ := h
  refine ⟨s, hs, hid, ?_⟩
  intro gated
  by_contra unapproved
  exact allowed ⟨gated, live, hid ▸ unapproved⟩

theorem admits_of_unlocked {cfg : RunConfig} {all : List PlaybookStepDef} {id : String}
    (h : Unlocked all cfg.approvedSteps id) : Admits cfg all id := by
  obtain ⟨s, hs, hid, approved⟩ := h
  refine ⟨s, hs, hid, ?_⟩
  rintro ⟨gated, -, unapproved⟩
  exact unapproved (hid ▸ approved gated)

/-- A run that a live start with these approvals has returned and stored. -/
structure LiveRun (e : PlaybookEngine) (playbook : PlaybookDef) (tenantId key : String)
    (approved : List String) (run : PlaybookRun) (e' : PlaybookEngine) : Prop where
  tenant : run.tenantId = tenantId
  live : run.dryRun = false
  keyed : run.idempotencyKey = key
  stored : e'.runs.lookup run.runId = some run
  keys : e'.byIdempotency = e.byIdempotency.insert key run.runId
  waits : ∀ id ∈ run.approvalRequired, ∃ s ∈ pendingOf playbook.steps, s.id = id ∧ s.Gated ∧
    id ∉ approved ∧ ∀ d ∈ s.dependsOn,
      Enabled (DependsOn (pendingOf playbook.steps)) (Unlocked (pendingOf playbook.steps) approved) d
  completed : run.status = .completed → ∀ s ∈ pendingOf playbook.steps, s.decision ≠ none ∧
    Enabled (DependsOn (pendingOf playbook.steps))
      (Unlocked (pendingOf playbook.steps) approved) s.id

section Inv

variable {cfg : RunConfig} {all : List PlaybookStepDef} {st : RunState}

theorem RunInv.unlocked (inv : RunInv cfg all st) (live : cfg.dryRun = false) {id : String}
    (h : id ∈ st.completed) : Enabled (DependsOn all) (Unlocked all cfg.approvedSteps) id :=
  (inv.enabled id h).mono fun _ => unlocked_of_admits live

theorem RunInv.waits (inv : RunInv cfg all st) (live : cfg.dryRun = false) {id : String}
    (h : id ∈ st.approvalRequired) :
    ∃ s ∈ all, s.id = id ∧ s.Gated ∧ id ∉ cfg.approvedSteps ∧ ∀ d ∈ s.dependsOn,
      Enabled (DependsOn all) (Unlocked all cfg.approvedSteps) d := by
  obtain ⟨r, hr, rfl, status⟩ := (inv.awaiting id).mp h
  obtain ⟨s, hs, hid, -, ready, held⟩ := inv.known r hr
  obtain ⟨gated, -, unapproved⟩ := held status
  exact ⟨s, hs, hid, gated, hid ▸ unapproved, fun d hd => inv.unlocked live (ready d hd)⟩

/-- What a drained loop has completed is all that can be completed. -/
theorem RunInv.completed_of_enabled (inv : RunInv cfg all st) (ids : (all.map (·.id)).Nodup)
    (covered : Covered all st) (quiet : Quiet st) (blocked : ∀ s ∈ st.pending, ¬ st.Ready s)
    {id : String} (h : Enabled (DependsOn all) (Unlocked all cfg.approvedSteps) id) :
    id ∈ st.completed := by
  refine h.subset_of_closed ?_
  intro b unlocked deps
  obtain ⟨s, hs, rfl, allowed⟩ := admits_of_unlocked unlocked
  have ready : st.Ready s := fun d hd => deps d ⟨s, hs, rfl, hd⟩
  rcases covered s hs with hp | ⟨r, hr, hid⟩
  · exact absurd ready (blocked s hp)
  · rcases quiet r hr with hq | hq
    · exact (inv.completed s.id).mpr ⟨r, hr, hid, hq⟩
    · obtain ⟨t, ht, htid, -, -, held⟩ := inv.known r hr
      obtain rfl := eq_of_id_eq ids ht hs (htid.trans hid)
      exact absurd (held hq) allowed

end Inv

/-- A settled run is completed only if every step has a tier and could be completed. -/
theorem RunInv.unlocked_of_settle_completed {cfg : RunConfig} {all : List PlaybookStepDef}
    {st : RunState} (inv : RunInv cfg all st) (ids : (all.map (·.id)).Nodup)
    (covered : Covered all st) (quiet : Quiet st) (live : cfg.dryRun = false)
    (status : (settle st).1 = .completed) {s : PlaybookStepDef} (hs : s ∈ all) :
    s.decision ≠ none ∧ Enabled (DependsOn all) (Unlocked all cfg.approvedSteps) s.id := by
  obtain ⟨r, hr, hid, success⟩ := (inv.settle_completed covered quiet).mp status s hs
  rcases mem_settle_steps st r hr with hr | rfl
  · obtain ⟨t, ht, htid, tier, -⟩ := inv.known r hr
    obtain rfl := eq_of_id_eq ids ht hs (htid.trans hid)
    exact ⟨tier, inv.unlocked live ((inv.completed t.id).mpr ⟨r, hr, hid, success⟩)⟩
  · simp [dagFailure] at success

theorem Started.liveRun {env : Env} {e e' : PlaybookEngine} {playbook : PlaybookDef}
    {tenantId key : String} {approved : List String} {run : PlaybookRun}
    (h : Started env e playbook tenantId false key approved (.ok run, e')) :
    LiveRun e playbook tenantId key approved run e' := by
  have ids := pendingOf_ids playbook.steps
  generalize hresult : (Except.ok run, e') = result at h
  cases h with
  | settled st inv covered quiet blocked =>
      obtain ⟨hrun, rfl⟩ := Prod.mk.inj hresult
      obtain rfl := Except.ok.inj hrun
      refine ⟨rfl, rfl, rfl, by simp [PlaybookEngine.store], rfl, ?_, ?_⟩
      · intro id hid
        exact inv.waits rfl (by rwa [settle_approvalRequired] at hid)
      · intro status s hs
        exact inv.unlocked_of_settle_completed ids covered quiet rfl status hs
  | failed st inv r recorded status =>
      obtain ⟨hrun, rfl⟩ := Prod.mk.inj hresult
      obtain rfl := Except.ok.inj hrun
      refine ⟨rfl, rfl, rfl, by simp [PlaybookEngine.store], rfl, ?_, ?_⟩
      · intro id hid
        exact inv.waits rfl hid
      · intro impossible
        simp at impossible
  | raised st inv s member tier => simp at hresult

/-- An executor whose every call returns. -/
def Env.NeverFails (env : Env) : Prop :=
  ∀ earlier call, ∃ outputs, env.executor earlier call = .ok outputs

/-- An executor that never fails makes no loop return early. -/
theorem scheduleLoop_not_returned (cfg : RunConfig) (all : List PlaybookStepDef)
    (ids : (all.map (·.id)).Nodup)
    (never : ∀ earlier call, ∃ outputs, cfg.executor earlier call = .ok outputs)
    (fuel : Nat) (st : RunState) : scheduleLoop cfg fuel { pending := all } ≠ .returned st := by
  have goes_on : ∀ st step flow, True → step ∈ st.pending → Visited cfg st step flow →
      flow.Ends (fun _ => True) (fun _ => False) (fun _ => True) := by
    intro st step flow _ _ visited
    cases visited with
    | failed ready tier allowed out answered error =>
        cases answered with
        | returns texts outputs bound => simp at error
        | exhausts texts bound raised =>
            cases texts with
            | nil => simp at error
            | cons text texts =>
                obtain ⟨earlier, answer⟩ := raised text (by simp)
                obtain ⟨outputs, returned⟩ := never earlier (cfg.request step)
                rw [answer] at returned
                simp at returned
    | blocked | offTier | held | succeeded => trivial
  have ends := scheduleLoop_ends goes_on fuel { pending := all } ids trivial
  intro h
  rw [h] at ends
  exact ends

/-- With valid tiers and an executor that never fails, a live start settles: what it waits
for and whether it is completed are decided by the playbook and the approvals alone. -/
theorem start_settles (env : Env) (e : PlaybookEngine) (playbook : PlaybookDef)
    (tenantId key : String) (approved : List String) (never : env.NeverFails)
    (ids : (playbook.steps.map (·.id)).Nodup)
    (tiers : ∀ s ∈ playbook.steps, s.decision ≠ none) :
    ∃ run e', e.start env playbook tenantId false key approved = (.ok run, e') ∧
      (∀ s ∈ playbook.steps, s.Gated → s.id ∉ approved →
        (∀ d ∈ s.dependsOn, Enabled (DependsOn playbook.steps)
          (Unlocked playbook.steps approved) d) → s.id ∈ run.approvalRequired) ∧
      ((∀ s ∈ playbook.steps, Enabled (DependsOn playbook.steps)
        (Unlocked playbook.steps approved) s.id) → run.status = .completed) := by
  have ends := scheduleLoop_run (e.config env false approved) _ ids (playbook.steps.length + 1)
  have total := scheduleLoop_terminates (e.config env false approved) (playbook.steps.length + 1)
    { pending := playbook.steps } ids (Nat.lt_succ_self _)
  have goes_on := scheduleLoop_not_returned (e.config env false approved) playbook.steps ids never
    (playbook.steps.length + 1)
  unfold PlaybookEngine.start
  rw [pendingOf_of_nodup ids]
  dsimp only
  cases hloop : scheduleLoop (e.config env false approved) (playbook.steps.length + 1)
      { pending := playbook.steps } with
  | outOfFuel st => exact absurd hloop (total st)
  | returned st => exact absurd hloop (goes_on st)
  | raised st =>
      rw [hloop] at ends
      obtain ⟨-, s, hs, tier⟩ := ends
      exact absurd tier (tiers s hs)
  | drained st =>
      rw [hloop] at ends
      obtain ⟨inv, covered, quiet⟩ := ends
      have blocked := scheduleLoop_drained _ _ _ _ hloop
      have done : ∀ id, Enabled (DependsOn playbook.steps) (Unlocked playbook.steps approved) id →
          id ∈ st.completed := fun id => inv.completed_of_enabled ids covered quiet blocked
      refine ⟨_, _, rfl, ?_, ?_⟩
      · intro s hs gated unapproved deps
        have ready : st.Ready s := fun d hd => done d (deps d hd)
        change s.id ∈ (settle st).2.approvalRequired
        rw [settle_approvalRequired, inv.awaiting]
        rcases covered s hs with hp | ⟨r, hr, hid⟩
        · exact absurd ready (blocked s hp)
        · refine ⟨r, hr, hid, (quiet r hr).resolve_left ?_⟩
          intro success
          have enabled := inv.unlocked rfl ((inv.completed s.id).mpr ⟨r, hr, hid, success⟩)
          obtain ⟨t, ht, htid, approval⟩ := enabled.admissible
          obtain rfl := eq_of_id_eq ids ht hs htid
          exact unapproved (approval gated)
      · intro enabled
        refine (inv.settle_completed covered quiet).mpr ?_
        intro s hs
        obtain ⟨r, hr, hid, success⟩ := (inv.completed s.id).mp (done s.id (enabled s hs))
        exact ⟨r, steps_subset_settle st r hr, hid, success⟩

/-- The keys that `approve` derives from a key. -/
def Derived (key derived : String) : Prop :=
  (key ++ ":approved:").toList <+: derived.toList

/-- Neither the key nor any key that approvals derive from it has been used. -/
def PlaybookEngine.Unused (e : PlaybookEngine) (key : String) : Prop :=
  key ∉ e.byIdempotency ∧ ∀ k ∈ e.byIdempotency, ¬ Derived key k

theorem approvalKey_length (key : String) (stepIds : List String) :
    key.toList.length < (approvalKey key stepIds).toList.length := by
  have colon : ":approved:".toList.length = 10 := by decide
  simp only [approvalKey, String.toList_append, List.length_append, colon]
  omega

/-- The key of an approval is never empty. -/
theorem idempotencyKeyOf_approvalKey (playbook : PlaybookDef) (tenantId key : String)
    (stepIds : List String) :
    idempotencyKeyOf playbook tenantId (some (approvalKey key stepIds)) =
      approvalKey key stepIds := by
  have nonempty : approvalKey key stepIds ≠ "" := by
    intro empty
    have := approvalKey_length key stepIds
    simp [empty] at this
  exact if_neg nonempty

theorem derived_approvalKey {key k : String} (h : k = key ∨ Derived key k)
    (stepIds : List String) : Derived key (approvalKey k stepIds) := by
  have grows : (k ++ ":approved:").toList <+: (approvalKey k stepIds).toList := by
    simp [approvalKey, String.toList_append]
  rcases h with rfl | h
  · exact grows
  · refine h.trans (List.IsPrefix.trans ?_ grows)
    simp [String.toList_append]

/-- The latest run of a chain of approvals that began with `key`. -/
structure Chained (env : Env) (playbook : PlaybookDef) (tenantId key : String)
    (approved : List String) (run : PlaybookRun) (e : PlaybookEngine) : Prop where
  latest : ∃ before : PlaybookEngine,
    before.start env playbook tenantId false run.idempotencyKey approved = (.ok run, e)
  rooted : run.idempotencyKey = key ∨ Derived key run.idempotencyKey
  longest : ∀ k ∈ e.byIdempotency, Derived key k →
    k.toList.length ≤ run.idempotencyKey.toList.length

section Chain

variable {env : Env} {e e' : PlaybookEngine} {playbook : PlaybookDef} {tenantId key : String}
  {approved : List String} {run : PlaybookRun}

theorem liveRun_of_start
    (h : e.start env playbook tenantId false key approved = (.ok run, e')) :
    LiveRun e playbook tenantId key approved run e' := by
  have started := start_started env e playbook tenantId false key approved
  rw [h] at started
  exact started.liveRun

theorem Chained.liveRun (h : Chained env playbook tenantId key approved run e) :
    ∃ before, LiveRun before playbook tenantId run.idempotencyKey approved run e := by
  obtain ⟨before, start⟩ := h.latest
  exact ⟨before, liveRun_of_start start⟩

theorem Chained.first (unused : e.Unused key)
    (h : e.start env playbook tenantId false key approved = (.ok run, e')) :
    Chained env playbook tenantId key approved run e' := by
  have live := liveRun_of_start h
  refine ⟨⟨e, by rw [live.keyed]; exact h⟩, .inl live.keyed, ?_⟩
  intro k hk derived
  rw [live.keys, AList.mem_insert] at hk
  rcases hk with rfl | hk
  · rw [live.keyed]
  · exact absurd derived (unused.2 k hk)

/-- Along a chain the derived key is always new, so `approve` starts the playbook again. -/
theorem Chained.approve_eq (h : Chained env playbook tenantId key approved run e)
    (stepIds : List String) :
    e.approve env run.runId stepIds playbook =
      { e with byIdempotency := e.byIdempotency.erase run.idempotencyKey }.start env playbook
        tenantId false (approvalKey run.idempotencyKey stepIds)
        (stepIds ++ run.approvalRequired) := by
  obtain ⟨before, live⟩ := h.liveRun
  have hkey := idempotencyKeyOf_approvalKey playbook run.tenantId run.idempotencyKey stepIds
  unfold PlaybookEngine.approve
  rw [live.stored]
  dsimp only
  rw [run_of_fresh, hkey, live.tenant, live.live]
  rw [hkey, AList.mem_erase]
  rintro ⟨-, used⟩
  have short := h.longest _ used (derived_approvalKey h.rooted stepIds)
  exact absurd (approvalKey_length run.idempotencyKey stepIds) (Nat.not_lt.mpr short)

theorem Chained.approve {next : PlaybookRun}
    (h : Chained env playbook tenantId key approved run e)
    (hnext : e.approve env run.runId run.approvalRequired playbook = (.ok next, e')) :
    Chained env playbook tenantId key (run.approvalRequired ++ run.approvalRequired) next e' := by
  rw [h.approve_eq] at hnext
  have live := liveRun_of_start hnext
  refine ⟨⟨_, by rw [live.keyed]; exact hnext⟩, ?_, ?_⟩
  · rw [live.keyed]
    exact .inr (derived_approvalKey h.rooted _)
  · intro k hk derived
    rw [live.keyed]
    rw [live.keys, AList.mem_insert, AList.mem_erase] at hk
    rcases hk with rfl | ⟨-, hk⟩
    · exact le_rfl
    · exact (h.longest k hk derived).trans (approvalKey_length _ _).le

/-- The approvals of every run in a chain: those of the first run, and afterwards exactly
what the run before it was waiting for. -/
theorem chained_of_approveRepeatedly (unused : e.Unused key) (n : Nat)
    (h : approveRepeatedly env playbook (e.start env playbook tenantId false key approved) n =
      (.ok run, e')) :
    (n = 0 ∧ Chained env playbook tenantId key approved run e') ∨
      ∃ m prior before approved', n = m + 1 ∧
        approveRepeatedly env playbook (e.start env playbook tenantId false key approved) m =
          (.ok prior, before) ∧
        Chained env playbook tenantId key approved' prior before ∧
        Chained env playbook tenantId key (prior.approvalRequired ++ prior.approvalRequired)
          run e' := by
  induction n generalizing run e' with
  | zero => exact .inl ⟨rfl, .first unused h⟩
  | succ n ih =>
      simp only [approveRepeatedly] at h
      cases hprior : approveRepeatedly env playbook
          (e.start env playbook tenantId false key approved) n with
      | mk answer before =>
          rw [hprior] at h
          cases answer with
          | error error => simp at h
          | ok prior =>
              dsimp only at h
              rcases ih hprior with ⟨-, chained⟩ | ⟨m, _, _, _, -, -, -, chained⟩
              · exact .inr ⟨n, prior, before, _, rfl, hprior, chained, chained.approve h⟩
              · exact .inr ⟨n, prior, before, _, rfl, hprior, chained, chained.approve h⟩

/-- No waiting step of a run depends on another one. -/
theorem LiveRun.waits_unrelated (h : LiveRun e playbook tenantId key approved run e')
    {a b : String} (ha : a ∈ run.approvalRequired) (hb : b ∈ run.approvalRequired) :
    ¬ TransGen (DependsOn (pendingOf playbook.steps)) a b := by
  have ids := pendingOf_ids playbook.steps
  intro path
  obtain ⟨s, hs, rfl, -, -, deps⟩ := h.waits a ha
  obtain ⟨t, ht, rfl, gated, unapproved, -⟩ := h.waits b hb
  obtain ⟨d, ⟨s', hs', hid, hd⟩, hdb⟩ := TransGen.head'_iff.mp path
  obtain rfl := eq_of_id_eq ids hs' hs hid
  obtain ⟨t', ht', htid, approval⟩ := ((deps d hd).reaches hdb).admissible
  obtain rfl := eq_of_id_eq ids ht' ht htid
  exact unapproved (approval gated)

/-- A completed run had the approval of every gated step. -/
theorem LiveRun.gated_approved (h : LiveRun e playbook tenantId key approved run e')
    (status : run.status = .completed) {s : PlaybookStepDef}
    (hs : s ∈ pendingOf playbook.steps) (gated : s.Gated) : s.id ∈ approved := by
  obtain ⟨t, ht, hid, approval⟩ := (h.completed status s hs).2.admissible
  obtain rfl := eq_of_id_eq (pendingOf_ids playbook.steps) ht hs hid
  exact approval gated

end Chain

section Acyclic

variable {env : Env} {e e' : PlaybookEngine} {playbook : PlaybookDef} {tenantId key : String}
  {approved : List String} {run : PlaybookRun}
  (never : env.NeverFails) (ids : (playbook.steps.map (·.id)).Nodup)
  (known : ∀ s ∈ playbook.steps, ∀ d ∈ s.dependsOn, d ∈ playbook.steps.map (·.id))
  (acyclic : ∀ id, ¬ TransGen (DependsOn playbook.steps) id id)

include known in
theorem dependsOn_closed (a : String) (d : String) (h : DependsOn playbook.steps a d) :
    d ∈ playbook.steps.map (·.id) := by
  obtain ⟨s, hs, -, hd⟩ := h
  exact known s hs d hd

include never ids known acyclic in
/-- A run that waits for nothing is completed. -/
theorem completed_of_no_waits (tiers : ∀ s ∈ playbook.steps, s.decision ≠ none)
    (h : e.start env playbook tenantId false key approved = (.ok run, e'))
    (none : run.approvalRequired = []) : run.status = .completed := by
  obtain ⟨run', e'', hstart, waits, completes⟩ :=
    start_settles env e playbook tenantId key approved never ids tiers
  rw [h] at hstart
  obtain ⟨hrun, rfl⟩ := Prod.mk.inj hstart
  obtain rfl := Except.ok.inj hrun
  refine completes fun s hs => ?_
  refine induction_of_acyclic (S := { id | id ∈ playbook.steps.map PlaybookStepDef.id })
    (List.finite_toSet _) (fun a _ => dependsOn_closed known a) (fun a _ => acyclic a) ?_ (List.mem_map_of_mem hs)
  intro a ha deps
  obtain ⟨t, ht, rfl⟩ := List.mem_map.mp ha
  refine .intro ⟨t, ht, rfl, ?_⟩ deps
  intro gated
  by_contra unapproved
  have waiting := waits t ht gated unapproved fun d hd => deps d ⟨t, ht, rfl, hd⟩
  simp [none] at waiting

include ids in
theorem LiveRun.no_waits_of_gated_approved
    (h : LiveRun e playbook tenantId key approved run e')
    (gates : ∀ s ∈ playbook.steps, s.Gated → s.id ∈ approved) : run.approvalRequired = [] := by
  rw [List.eq_nil_iff_forall_not_mem]
  intro id hid
  obtain ⟨s, hs, rfl, gated, unapproved, -⟩ := h.waits id hid
  rw [pendingOf_of_nodup ids] at hs
  exact unapproved (gates s hs gated)

include ids known acyclic in
/-- Where no gated step is approved or depends on another, all of them wait at once. -/
theorem gated_wait (never : env.NeverFails) (tiers : ∀ s ∈ playbook.steps, s.decision ≠ none)
    (unapproved : ∀ s ∈ playbook.steps, s.Gated → s.id ∉ approved)
    (unrelated : ∀ s ∈ playbook.steps, ∀ t ∈ playbook.steps, s.Gated → t.Gated →
      ¬ TransGen (DependsOn playbook.steps) s.id t.id) :
    ∃ run e', e.start env playbook tenantId false key approved = (.ok run, e') ∧
      ∀ s ∈ playbook.steps, s.Gated → s.id ∈ run.approvalRequired := by
  obtain ⟨run, e', hstart, waits, -⟩ :=
    start_settles env e playbook tenantId key approved never ids tiers
  refine ⟨run, e', hstart, ?_⟩
  intro s hs gated
  refine waits s hs gated (unapproved s hs gated) ?_
  intro d hd
  refine enabled_of_acyclic (S := { id | id ∈ playbook.steps.map PlaybookStepDef.id })
    (List.finite_toSet _) (fun a _ => dependsOn_closed known a) (fun a _ => acyclic a) (known s hs d hd) ?_
  intro b hdb
  have path : TransGen (DependsOn playbook.steps) s.id b := TransGen.head' ⟨s, hs, rfl, hd⟩ hdb
  have member : b ∈ playbook.steps.map (·.id) := by
    obtain ⟨a, -, hab⟩ := TransGen.tail'_iff.mp path
    exact dependsOn_closed known a b hab
  obtain ⟨t, ht, rfl⟩ := List.mem_map.mp member
  exact ⟨t, ht, rfl, fun htg => absurd path (unrelated s hs t ht gated htg)⟩

include never ids known acyclic in
/-- One approval completes a playbook whose gated steps all wait in the first run. -/
theorem approved_completes (unused : e.Unused key)
    (tiers : ∀ s ∈ playbook.steps, s.decision ≠ none)
    (h : e.start env playbook tenantId false key approved = (.ok run, e'))
    (waits : ∀ s ∈ playbook.steps, s.Gated → s.id ∈ run.approvalRequired) :
    ∃ next e'', e'.approve env run.runId run.approvalRequired playbook = (.ok next, e'') ∧
      next.status = .completed := by
  have chained : Chained env playbook tenantId key approved run e' := .first unused h
  rw [chained.approve_eq]
  obtain ⟨next, e'', hnext, -, -⟩ := start_settles env
    { e' with byIdempotency := e'.byIdempotency.erase run.idempotencyKey } playbook tenantId
    (approvalKey run.idempotencyKey run.approvalRequired)
    (run.approvalRequired ++ run.approvalRequired) never ids tiers
  refine ⟨next, e'', hnext, completed_of_no_waits never ids known acyclic tiers hnext ?_⟩
  exact (liveRun_of_start hnext).no_waits_of_gated_approved ids
    fun s hs gated => List.mem_append_left _ (waits s hs gated)

include never ids known acyclic in
/-- Completion needs every gated step approved from the start, or all of them waiting at
once in the first run: an approval replaces the approvals before it. -/
theorem gates_of_completes (unused : e.Unused key)
    (tiers : ∀ s ∈ playbook.steps, s.decision ≠ none) (n : Nat)
    (h : approveRepeatedly env playbook (e.start env playbook tenantId false key approved) n =
      (.ok run, e')) (status : run.status = .completed) :
    (∀ s ∈ playbook.steps, s.Gated → s.id ∈ approved) ∨
      (∀ s ∈ playbook.steps, s.Gated → s.id ∉ approved) ∧
        ∀ s ∈ playbook.steps, ∀ t ∈ playbook.steps, s.Gated → t.Gated →
          ¬ TransGen (DependsOn playbook.steps) s.id t.id := by
  have same := pendingOf_of_nodup ids
  induction n using Nat.strong_induction_on generalizing run e' with
  | _ n ih =>
      rcases chained_of_approveRepeatedly unused n h with
        ⟨-, chained⟩ | ⟨m, prior, before, approved', rfl, hprior, -, chained⟩
      · obtain ⟨_, live⟩ := chained.liveRun
        exact .inl fun s hs gated => live.gated_approved status (same.symm ▸ hs) gated
      · obtain ⟨_, live⟩ := chained.liveRun
        have waiting : ∀ s ∈ playbook.steps, s.Gated → s.id ∈ prior.approvalRequired := by
          intro s hs gated
          simpa using live.gated_approved status (same.symm ▸ hs) gated
        rcases chained_of_approveRepeatedly unused m hprior with
          ⟨-, first⟩ | ⟨k, older, earlier, _, rfl, holder, hchained, hprior⟩
        · obtain ⟨_, firstLive⟩ := first.liveRun
          refine .inr ⟨fun s hs gated => ?_, fun s hs t ht hsg htg => ?_⟩
          · obtain ⟨t, ht, hid, -, unapproved, -⟩ := firstLive.waits s.id (waiting s hs gated)
            exact unapproved
          · rw [← same]
            exact firstLive.waits_unrelated (waiting s hs hsg) (waiting t ht htg)
        -- the prior run waits for all gated steps, so the one before it waited for none
        · obtain ⟨_, priorLive⟩ := hprior.liveRun
          obtain ⟨_, olderLive⟩ := hchained.liveRun
          have idle : older.approvalRequired = [] := by
            rw [List.eq_nil_iff_forall_not_mem]
            intro id hid
            obtain ⟨s, hs, rfl, gated, -⟩ := olderLive.waits id hid
            rw [same] at hs
            obtain ⟨-, -, -, -, unapproved, -⟩ := priorLive.waits s.id (waiting s hs gated)
            exact unapproved (List.mem_append_left _ hid)
          obtain ⟨_, start⟩ := hchained.latest
          exact ih k (by omega) holder
            (completed_of_no_waits never ids known acyclic tiers start idle)

end Acyclic

/-- For a playbook with distinct ids and acyclic dependencies over its own steps, and an
executor that never fails: a live run under an unused key, approved again and again with what
the latest run waits for, is completed within as many approvals as there are steps exactly
when all tiers are valid and either the first run was given every gated step, or it was given
none of them and no gated step depends on another. -/
theorem chained_approvals_complete_iff (env : Env) (e : PlaybookEngine) (playbook : PlaybookDef)
    (tenantId : String) (idempotencyKey : Option String) (approvedSteps : List String)
    (never : env.NeverFails) (ids : (playbook.steps.map (·.id)).Nodup)
    (known : ∀ s ∈ playbook.steps, ∀ d ∈ s.dependsOn, d ∈ playbook.steps.map (·.id))
    (acyclic : ∀ id, ¬ TransGen (DependsOn playbook.steps) id id)
    (unused : e.Unused (idempotencyKeyOf playbook tenantId idempotencyKey)) :
    (∃ n ≤ playbook.steps.length, ∃ run e',
      approveRepeatedly env playbook
        (e.run env playbook tenantId false idempotencyKey approvedSteps) n = (.ok run, e') ∧
      run.status = .completed) ↔
    (∀ s ∈ playbook.steps, 0 ≤ s.tier ∧ s.tier ≤ 2) ∧
      ((∀ s ∈ playbook.steps, s.Gated → s.id ∈ approvedSteps) ∨
        (∀ s ∈ playbook.steps, s.Gated → s.id ∉ approvedSteps) ∧
          ∀ s ∈ playbook.steps, ∀ t ∈ playbook.steps, s.Gated → t.Gated →
            ¬ TransGen (DependsOn playbook.steps) s.id t.id) := by
  rw [run_of_fresh env e playbook tenantId false idempotencyKey approvedSteps unused.1]
  constructor
  · rintro ⟨n, -, run, e', h, status⟩
    have tiers : ∀ s ∈ playbook.steps, s.decision ≠ none := by
      intro s hs
      have chained : ∃ approved, Chained env playbook tenantId
          (idempotencyKeyOf playbook tenantId idempotencyKey) approved run e' := by
        rcases chained_of_approveRepeatedly unused n h with
          ⟨-, chained⟩ | ⟨_, _, _, _, -, -, -, chained⟩ <;> exact ⟨_, chained⟩
      obtain ⟨_, chained⟩ := chained
      obtain ⟨_, live⟩ := chained.liveRun
      exact (live.completed status s (by rwa [pendingOf_of_nodup ids])).1
    exact ⟨fun s hs => (decision_isSome_iff s).mp (tiers s hs),
      gates_of_completes never ids known acyclic unused tiers n h status⟩
  · rintro ⟨tiers, gates⟩
    have tiers : ∀ s ∈ playbook.steps, s.decision ≠ none :=
      fun s hs => (decision_isSome_iff s).mpr (tiers s hs)
    rcases gates with given | ⟨unapproved, unrelated⟩
    · obtain ⟨run, e', hstart, -, -⟩ := start_settles env e playbook tenantId
        (idempotencyKeyOf playbook tenantId idempotencyKey) approvedSteps never ids tiers
      refine ⟨0, Nat.zero_le _, run, e', hstart, ?_⟩
      exact completed_of_no_waits never ids known acyclic tiers hstart
        ((liveRun_of_start hstart).no_waits_of_gated_approved ids given)
    · obtain ⟨run, e', hstart, waits⟩ := gated_wait ids known acyclic never tiers unapproved unrelated
      by_cases idle : run.approvalRequired = []
      · exact ⟨0, Nat.zero_le _, run, e', hstart,
          completed_of_no_waits never ids known acyclic tiers hstart idle⟩
      · obtain ⟨next, e'', hnext, status⟩ :=
          approved_completes never ids known acyclic unused tiers hstart waits
        obtain ⟨id, hid⟩ := List.exists_mem_of_ne_nil _ idle
        obtain ⟨s, hs, -⟩ := (liveRun_of_start hstart).waits id hid
        rw [pendingOf_of_nodup ids] at hs
        refine ⟨1, List.length_pos_of_mem hs, next, e'', ?_, status⟩
        simp [approveRepeatedly, hstart, hnext]

theorem sampleEnv_neverFails : sampleEnv.NeverFails := fun _ _ => ⟨_, rfl⟩

/-- A relation whose sources and targets are apart has no cycle. -/
private theorem acyclic_of_apart {deps : String → String → Prop} {source target : String}
    (h : ∀ a b, deps a b → a = source ∧ b = target) (apart : source ≠ target) (id : String) :
    ¬ TransGen deps id id := by
  intro cycle
  obtain ⟨b, hab, -⟩ := TransGen.head'_iff.mp cycle
  obtain ⟨c, -, hca⟩ := TransGen.tail'_iff.mp cycle
  exact apart ((h id b hab).1.symm.trans (h c id hca).2)

theorem containHostT0_acyclic (id : String) : ¬ TransGen (DependsOn containHostT0.steps) id id := by
  have edges : ∀ s ∈ containHostT0.steps, ∀ b ∈ s.dependsOn, s.id = "isolate" ∧ b = "collect" := by
    decide
  have apart : "isolate" ≠ "collect" := by decide
  refine acyclic_of_apart ?_ apart id
  rintro a b ⟨s, hs, rfl, hb⟩
  exact edges s hs b hb

theorem chained_approvals_complete_containHostT0 :
    ∃ n ≤ containHostT0.steps.length, ∃ run e',
      approveRepeatedly sampleEnv containHostT0
        (({} : PlaybookEngine).run sampleEnv containHostT0 "ten_a" false (some "k") []) n =
          (.ok run, e') ∧ run.status = .completed := by
  refine (chained_approvals_complete_iff sampleEnv {} containHostT0 "ten_a" (some "k") []
    sampleEnv_neverFails (by decide) (by decide) containHostT0_acyclic ?_).mpr ?_
  · exact ⟨by decide, fun k hk => by simp at hk⟩
  · refine ⟨by decide, .inr ⟨fun _ _ _ => by simp, ?_⟩⟩
    intro s hs t ht hsg htg
    have one : ∀ s ∈ containHostT0.steps, s.Gated → s.id = "isolate" := by decide
    rw [one s hs hsg, one t ht htg]
    exact containHostT0_acyclic "isolate"

/-- Two gated steps, the second after the first. -/
def gatedChain : PlaybookDef where
  playbookId := "pb.gated_chain"
  name := "Isolate, then disable"
  steps :=
    [{ id := "isolate", actionType := "isolate.host", tier := 2 },
      { id := "disable", actionType := "disable_user", tier := 2, dependsOn := ["isolate"] }]

/-- On two gated layers the approvals alternate and the playbook is never completed. -/
theorem gatedChain_never_completes :
    ¬ ∀ (env : Env) (e : PlaybookEngine) (playbook : PlaybookDef) (tenantId : String)
      (idempotencyKey : Option String), env.NeverFails → (playbook.steps.map (·.id)).Nodup →
      (∀ s ∈ playbook.steps, ∀ d ∈ s.dependsOn, d ∈ playbook.steps.map (·.id)) →
      (∀ id, ¬ TransGen (DependsOn playbook.steps) id id) →
      e.Unused (idempotencyKeyOf playbook tenantId idempotencyKey) →
      ∃ n ≤ playbook.steps.length, ∃ run e',
        approveRepeatedly env playbook (e.run env playbook tenantId false idempotencyKey []) n =
          (.ok run, e') ∧ run.status = .completed := by
  intro h
  have edges : ∀ s ∈ gatedChain.steps, ∀ b ∈ s.dependsOn, s.id = "disable" ∧ b = "isolate" := by
    decide
  obtain ⟨n, hn, run, e', hrun, status⟩ := h sampleEnv {} gatedChain "ten_a" (some "k")
    sampleEnv_neverFails (by decide) (by decide)
    (acyclic_of_apart (by rintro a b ⟨s, hs, rfl, hb⟩; exact edges s hs b hb) (by decide))
    ⟨by decide, fun k hk => by simp at hk⟩
  have waits : ∀ n ≤ 2, (approveRepeatedly sampleEnv gatedChain
      (({} : PlaybookEngine).run sampleEnv gatedChain "ten_a" false (some "k") []) n).1.toOption.map
        (fun run => run.status) = some .awaitingApproval := by decide
  have := waits n hn
  simp [hrun, status, Except.toOption] at this

end BlueTeam.Playbook
