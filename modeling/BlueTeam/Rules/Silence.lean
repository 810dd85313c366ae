/- GID: BlueTeam/Rules/Silence
   generality: I
   source: services/api/app/services/rules.py, detection.py,
     packages/detection-sdk/blueteam_detection/registry.py
   digest: Rule statuses beside the evaluation that does not read them. -/

import BlueTeam.Detection.Registry
import BlueTeam.Rules.Promotion
import BlueTeam.Services.Grouping

set_option autoImplicit false
set_option relaxedAutoImplicit false

namespace BlueTeam.Rules

open BlueTeam.Python BlueTeam.Schema BlueTeam.Lib BlueTeam.Lib.Exec BlueTeam.Detection
  BlueTeam.Services

/-- The database with the revision table beside the tables of the tenants. -/
structure Platform where
  world : World := emptyWorld
  revisions : List RuleRevision := []

/-- The calls of all tenants, and those on the rules. -/
inductive PlatformCall
  | rule (call : RuleCall)
  | service (tenantId : String) (call : Call)

def Platform.db (p : Platform) : RuleDb where
  revisions := p.revisions
  ticks := p.world.ticks

/-- The committed state after a call. The evaluation goes through the registry of the process and
asks the revision table nothing. -/
def Platform.step (rt : Runtime) (catalogue : Catalogue) (p : Platform) : PlatformCall → Platform
  | .rule call =>
      let db := (inRequest (call.run rt catalogue) p.db).2
      { world := { p.world with ticks := db.ticks }, revisions := db.revisions }
  | .service tenantId call =>
      { p with world := (request (call.body rt tenantId) p.world).2 }

/-- The latest revision of the rule disables it. -/
def Platform.Disabled (p : Platform) (ruleId : String) : Prop :=
  (p.db.latestRevision ruleId).map RuleRevision.status = some .disabled

instance (p : Platform) (ruleId : String) : Decidable (p.Disabled ruleId) :=
  inferInstanceAs (Decidable (_ = _))

/-- No disabled rule that runs in the context selects anything whose fingerprint is not open. -/
def Silent (rt : Runtime) (disabled : String → Prop) (context : DetectionContext)
    (event : CanonicalEvent) : Prop :=
  ∀ rule ∈ defaultRegistry, disabled rule.info.ruleId → rule.runsIn context = true →
    ∀ selection, rule.selects rt context event = .ok (some selection) →
      rule.fingerprint event.tenantId selection.tail ∈ context.openFingerprints

/-- The context of `evaluate_and_store`. -/
def realtimeContext (w : World) (tenantId : String) : DetectionContext where
  window := w.window tenantId
  openFingerprints := (w.rowsOf .findings tenantId).map FindingRecord.fingerprint

/-- One turn of `run_scheduled`. -/
def sweepEvent (rt : Runtime) (tenantId actorId : String) (window : List CanonicalEvent)
    (acc : Created) (event : CanonicalEvent) : Service Created := do
  let one ← evaluateAndStoreFindings rt tenantId actorId
    { window := window, openFingerprints := acc.openFingerprints, scheduled := true } event
  pure { created := acc.created + one.created, openFingerprints := one.openFingerprints }

/-- At every evaluation that the call comes to, the disabled rules are silent. -/
def SilentCall (rt : Runtime) (tenantId : String) (disabled : String → Prop) (w : World) :
    Call → Prop
  | .ingest actorId payloads =>
      EveryTurn (ingestPayload rt tenantId actorId)
        (fun acc payload w => ∀ event w₁,
          untilEvaluate rt tenantId acc payload w = (.ok (.inr event), w₁) →
            Silent rt disabled (realtimeContext w₁ tenantId) event)
        {} payloads w
  | .scheduled actorId =>
      EveryTurn (sweepEvent rt tenantId actorId (w.window tenantId))
        (fun acc event _ => Silent rt disabled
          { window := w.window tenantId, openFingerprints := acc.openFingerprints
            scheduled := true } event)
        { openFingerprints := (realtimeContext w tenantId).openFingerprints }
        (w.window tenantId) w
  | .persist => True

def Platform.SilentStep (rt : Runtime) (p : Platform) : PlatformCall → Prop
  | .rule _ => True
  | .service tenantId call => SilentCall rt tenantId p.Disabled p.world call

/-! ### What a silent call adds -/

/-- The findings are those of before, and findings of rules that are not disabled. -/
def FindingsAllowed (disabled : String → Prop) (old : List FindingRecord) (s : Session schema) :
    Prop :=
  ∀ row ∈ s.all .findings, row ∈ old ∨ ¬ disabled (FindingRecord.ruleId row)

def besideFindings : List Table :=
  [.events, .deadLetters, .alerts, .evidence, .indicators, .entities, .relationships, .storylines,
   .incidents]

theorem ne_findings_of_mem {t : Table} (h : t ∈ besideFindings) : t ≠ .findings := by
  revert h
  cases t <;> decide

section

variable {disabled : String → Prop} {old : List FindingRecord} {s s' : Session schema}

theorem FindingsAllowed.congr (h : FindingsAllowed disabled old s)
    (hrows : s'.all .findings = s.all .findings) : FindingsAllowed disabled old s' := by
  unfold FindingsAllowed
  rw [hrows]
  exact h

theorem findingsAllowed_stable (disabled : String → Prop) (old : List FindingRecord) :
    Stable (FindingsAllowed disabled old) (fun _ _ => True) besideFindings where
  add r s ht hs := hs.congr (Session.add_all_of_ne (S := schema) s (ne_findings_of_mem ht) r)
  update f s ht _ hs := hs.congr (Session.update_all_of_ne (S := schema) s (ne_findings_of_mem ht) f)
  delete p s ht _ hs := hs.congr (Session.delete_all_of_ne (S := schema) s (ne_findings_of_mem ht) p)
  flush := keeps_flush (fun _ _ hs hflush => hs.congr (Session.flush_all hflush .findings))
    (fun _ _ _ _ => trivial)
  python _ _ _ := trivial
  multiple _ _ _ _ := trivial
  missing _ _ _ _ _ := trivial

theorem FindingsAllowed.add_finding (h : FindingsAllowed disabled old s) {row : FindingRecord}
    (hrow : ¬ disabled row.ruleId) :
    FindingsAllowed disabled old (s.add (S := schema) (t := .findings) row) := by
  intro r hr
  rw [Session.add_all_self (S := schema)] at hr
  rcases List.mem_append.mp hr with hr | hr
  · exact h r hr
  · obtain rfl := List.mem_singleton.mp hr
    exact .inr hrow

end

/-- A finding that the registry produces where the disabled rules are silent is not one of theirs. -/
theorem Silent.produced {rt : Runtime} {disabled : String → Prop} {context : DetectionContext}
    {event : CanonicalEvent} (h : Silent rt disabled context event) {finding : Finding}
    (hproduced : Produced rt context event finding) : ¬ disabled finding.ruleId := by
  obtain ⟨t, findings, t', hrun, hmem⟩ := hproduced
  obtain ⟨rule, hrule, hruns, hfinds⟩ :=
    (evaluateAll_finds rt defaultRegistry event context).ok trivial hrun finding hmem
  obtain ⟨selection, hselects, hfingerprint⟩ := hfinds.selects
  rw [hfinds.ruleId]
  intro hdisabled
  apply hfinds.closed
  rw [hfingerprint]
  exact h rule hrule hdisabled hruns selection hselects

section

variable (rt : Runtime) (tenantId actorId : String) {disabled : String → Prop}
  {old : List FindingRecord}

theorem evaluateAndStoreFindings_allowed {context : DetectionContext} {event : CanonicalEvent}
    (h : Silent rt disabled context event) :
    Keeps (FindingsAllowed disabled old) (fun _ _ => True)
      (evaluateAndStoreFindings rt tenantId actorId context event) := by
  apply evaluateAndStoreFindings_adds rt tenantId (findingsAllowed_stable disabled old)
  · intro e s hs
    exact (findingsAllowed_stable disabled old).add (t := .evidence) e s (by decide) hs
  · decide
  · intro finding hproduced evidenceIds s hs
    exact hs.add_finding (h.produced hproduced)

/-- `evaluate_and_store` evaluates the event in the context of the tenant's state. -/
theorem evaluateAndStore_run (event : CanonicalEvent) (w : World) :
    evaluateAndStore rt tenantId actorId event w =
      (evaluateAndStoreFindings rt tenantId actorId (realtimeContext w tenantId) event >>=
        fun acc => pure acc.created) w := by
  unfold evaluateAndStore openFingerprints
  simp only [bind_run, loadWindow_run, andThen, select, gets, pure_run, Bool.and_true]
  rfl

theorem evaluateAndStore_allowed (event : CanonicalEvent) :
    Triple (fun w => Silent rt disabled (realtimeContext w tenantId) event ∧
        FindingsAllowed disabled old w.session)
      (evaluateAndStore rt tenantId actorId event)
      (fun _ w => FindingsAllowed disabled old w.session) (fun _ _ => True) := by
  apply triple_from
  rintro w₀ ⟨hsilent, hw₀⟩
  apply triple_via (fun w => FindingsAllowed disabled old w.session)
  rintro _ rfl
  refine ⟨_, _, evaluateAndStore_run rt tenantId actorId event _, hw₀, ?_⟩
  exact keeps_bind (evaluateAndStoreFindings_allowed rt tenantId actorId hsilent) fun _ =>
    keeps_pure _

/-- One turn of a batch. -/
theorem ingestPayload_allowed (acc : IngestResult) (payload : JsonObject) :
    Triple (fun w => (∀ event w₁,
          untilEvaluate rt tenantId acc payload w = (.ok (.inr event), w₁) →
            Silent rt disabled (realtimeContext w₁ tenantId) event) ∧
        FindingsAllowed disabled old w.session)
      (ingestPayload rt tenantId actorId acc payload)
      (fun _ w => FindingsAllowed disabled old w.session) (fun _ _ => True) := by
  apply triple_from
  rintro w₀ ⟨hsilent, hw₀⟩
  rw [ingestPayload_eq]
  have hstable := findingsAllowed_stable disabled old
  have huntil : Keeps (FindingsAllowed disabled old) (fun _ _ => True)
      (untilEvaluate rt tenantId acc payload) :=
    untilEvaluate_keeps rt tenantId hstable (by decide) (by decide) acc
      fun row _ s hs => hstable.add (t := .events) row s (by decide) hs
  apply triple_bind (huntil.traced hw₀)
  rintro (result | event)
  · exact triple_pure fun _ hw => hw.1
  · apply triple_bind ((evaluateAndStore_allowed rt tenantId actorId event).pre ?_)
    · intro created
      exact triple_pure fun _ hw => hw
    · rintro w ⟨hw, hrun⟩
      exact ⟨hsilent event w hrun, hw⟩

theorem runScheduled_eq (w : World) :
    runScheduled rt tenantId actorId w =
      (Exec.loop (sweepEvent rt tenantId actorId (w.window tenantId))
        { openFingerprints := (realtimeContext w tenantId).openFingerprints }
        (w.window tenantId) >>= fun acc => pure acc.created) w := by
  unfold runScheduled openFingerprints
  rw [bind_run, loadWindow_run]
  simp only [andThen]
  split
  · rename_i hempty
    rw [List.isEmpty_iff.mp hempty]
    rfl
  · simp only [bind_run, andThen, select, gets, pure_run, Bool.and_true]
    rfl

/-- One turn of a sweep. -/
theorem sweepEvent_allowed (window : List CanonicalEvent) (acc : Created) (event : CanonicalEvent) :
    Triple (fun w => Silent rt disabled
          { window := window, openFingerprints := acc.openFingerprints, scheduled := true } event ∧
        FindingsAllowed disabled old w.session)
      (sweepEvent rt tenantId actorId window acc event)
      (fun _ w => FindingsAllowed disabled old w.session) (fun _ _ => True) := by
  apply triple_given
  intro hsilent
  exact keeps_bind (evaluateAndStoreFindings_allowed rt tenantId actorId hsilent) fun _ =>
    keeps_pure _

theorem call_allowed (call : Call) :
    Triple (fun w => SilentCall rt tenantId disabled w call ∧ FindingsAllowed disabled old w.session)
      (call.body rt tenantId) (fun _ w => FindingsAllowed disabled old w.session)
      (fun _ _ => True) := by
  have hstable := findingsAllowed_stable disabled old
  cases call with
  | ingest actorId payloads =>
      apply triple_bind (Q := fun _ w => FindingsAllowed disabled old w.session)
      · apply triple_bind
        · exact triple_everyTurn (ingestPayload_allowed rt tenantId actorId) {} payloads
        · intro result
          apply keeps_bind _ fun _ => keeps_pure _
          exact projectBatch_keeps rt tenantId hstable (by decide) trivial result
      · intro _
        exact keeps_pure _
  | scheduled actorId =>
      apply triple_from
      rintro w₀ ⟨hsilent, hw₀⟩
      apply triple_bind (Q := fun _ w => FindingsAllowed disabled old w.session)
      · apply triple_via (fun w => EveryTurn (sweepEvent rt tenantId actorId (w₀.window tenantId))
          (fun acc event _ => Silent rt disabled
            { window := w₀.window tenantId, openFingerprints := acc.openFingerprints
              scheduled := true } event)
          { openFingerprints := (realtimeContext w₀ tenantId).openFingerprints }
          (w₀.window tenantId) w ∧ FindingsAllowed disabled old w.session)
        rintro _ rfl
        refine ⟨_, _, runScheduled_eq rt tenantId actorId _, ⟨hsilent, hw₀⟩, ?_⟩
        apply triple_bind (triple_everyTurn (sweepEvent_allowed rt tenantId actorId _) _ _)
        intro acc
        exact keeps_pure _
      · intro _
        exact keeps_pure _
  | persist =>
      apply Triple.pre _ fun _ hw => hw.2
      exact persistStorylinesAndIncidents_keeps rt tenantId hstable (by decide) (by decide)
        fun _ _ => trivial

end

/-! ### Runs -/

section

variable (rt : Runtime) (catalogue : Catalogue)

theorem step_pending {p : Platform} (hp : p.world.session.pending = []) (call : PlatformCall) :
    (p.step rt catalogue call).world.session.pending = [] := by
  cases call with
  | rule call => exact hp
  | service tenantId call => exact request_pending hp

/-- A silent step creates no finding of a rule that is disabled while it runs. -/
theorem step_creates_allowed {p : Platform} (hp : p.world.session.pending = [])
    {call : PlatformCall} (hsilent : p.SilentStep rt call) :
    ∀ row ∈ (p.step rt catalogue call).world.session.stored .findings,
      row ∉ p.world.session.stored .findings → ¬ p.Disabled (FindingRecord.ruleId row) := by
  intro row hrow hnew
  cases call with
  | rule call => exact absurd hrow hnew
  | service tenantId call =>
      have hstart : FindingsAllowed p.Disabled (p.world.session.stored .findings)
          p.world.session := by
        intro r hr
        unfold Session.all Session.pendingOf at hr
        rw [hp] at hr
        left
        simpa using hr
      have hend : FindingsAllowed p.Disabled (p.world.session.stored .findings)
          (request (call.body rt tenantId) p.world).2.session := by
        refine (request_run (F := fun _ => True) ((call_allowed rt tenantId call).pre ?_)
          (findingsAllowed_stable _ _).flush hstart).1
        rintro _ rfl
        exact ⟨hsilent, hstart⟩
      rcases hend row (List.mem_append_left _ hrow) with hold | hallowed
      · exact absurd hold hnew
      · exact hallowed

end

/-- The first revision of a rule. -/
def testedRevision (ruleId : String) : RuleRevision where
  id := "rlv_0"
  ruleId := ruleId
  version := "1.0.0"
  status := .tested
  name := ruleId
  checksum := ""
  mitreTechniques := []
  execution := .realtime
  createdAt := sampleRuntime.now 0
  createdBy := "catalog"

/-- The rule for encoded commands is disabled, and then a tenant's event is one that it detects. -/
def disabledThenIngested : List PlatformCall :=
  [.rule (.setStatus "endpoint.encoded_powershell" "disabled" "usr_1"),
   .service "ten_a" (.ingest "usr_1" [encodedPayload])]

def testedPlatform : Platform where
  world := { emptyWorld with ticks := { uuids := 1, readings := 1 } }
  revisions := [testedRevision "endpoint.encoded_powershell"]

/-- The rule is disabled, and then a tenant's scheduled sweep finds no events. -/
def disabledThenSwept : List PlatformCall :=
  [.rule (.setStatus "endpoint.encoded_powershell" "disabled" "usr_1"),
   .service "ten_a" (.scheduled "usr_1")]

end BlueTeam.Rules
