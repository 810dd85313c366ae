/- GID: BlueTeam/Fabric/Streaming
   generality: I
   source: packages/event-fabric/blueteam_fabric/pipeline.py,
     packages/detection-sdk/blueteam_detection/context.py, registry.py
   digest: Findings of the streaming path: each message meets an empty set of open fingerprints. -/

import BlueTeam.Detection.Registry
import BlueTeam.Fabric.Isolation
import BlueTeam.Lib.Machine

set_option autoImplicit false
set_option relaxedAutoImplicit false

namespace BlueTeam.Fabric

open BlueTeam.Python BlueTeam.Schema BlueTeam.Lib BlueTeam.Detection

def findingsTopic : String := "detections.findings.v1"

/-- A pipeline with its registry. `modelValidate` and `findingDump` are pydantic's, `findingStamps`
are the ids and times of the envelopes of findings. -/
structure StreamPipeline extends EventPipeline where
  registry : Option Registry := none
  modelValidate : JsonObject → Except Exn CanonicalEvent
  findingDump : Finding → JsonObject
  findingStamps : Nat → Stamp

/-- The pipeline's state with its list of findings and what the rules draw from. -/
structure StreamState where
  pipeline : PipelineState := {}
  findings : List Finding := []
  ticks : Ticks := {}

def onPipeline {α : Type} (m : Exec PipelineState Exn α) : Exec StreamState Exn α :=
  Exec.zoom StreamState.pipeline (fun s pipeline => { s with pipeline := pipeline }) id m

def drawing {α : Type} (m : Draw α) : Exec StreamState Exn α :=
  Exec.zoom StreamState.ticks (fun s ticks => { s with ticks := ticks }) id m

/-- The calls on a pipeline, the detection drains among them. -/
inductive StreamCall
  | pipeline (call : PipelineCall)
  | drainNormalized (group : String)

namespace StreamPipeline

variable (q : StreamPipeline)

/-- One turn of the loop over what the registry produced; it counts and opens the fingerprint in
the context of this message. -/
def report (r : Nat × DetectionContext) (finding : Finding) :
    Exec StreamState Exn (Nat × DetectionContext) := do
  let n ← Exec.gets fun s => s.findings.length
  Exec.modify fun s => { s with findings := s.findings ++ [finding] }
  let message ← Exec.lift (envelope q.rt (q.findingStamps n) findingsTopic finding.tenantId
    (q.findingDump finding) (.str finding.id))
  let _ ← onPipeline (onFabric (publish message))
  pure (r.1 + 1, r.2.opening [finding])

/-- One turn of the loop over the drained messages; the context is made anew. -/
def detect (registry : Registry) (created : Nat) (message : FabricEnvelope) :
    Exec StreamState Exn Nat := do
  let event ← Exec.lift (q.modelValidate message.payload)
  let window ← Exec.gets fun s => s.pipeline.normalized
  let context : DetectionContext := { window := window, openFingerprints := [] }
  let produced ← drawing (registry event context)
  let r ← Exec.loop q.report (created, context) produced
  pure r.1

def drainNormalized (group : String) : Exec StreamState Exn Nat :=
  match q.registry with
  | none => pure 0
  | some registry => do
      let messages ← onPipeline (onFabric (consumeAll normalizedTopic group))
      Exec.loop (q.detect registry) 0 messages

def step (s : StreamState) : StreamCall → StreamState
  | .pipeline call => { s with pipeline := q.toEventPipeline.step s.pipeline call }
  | .drainNormalized group => (q.drainNormalized group s).2

end StreamPipeline

/-! ### What a detection drain reports -/

/-- The tenant is one that an envelope takes. -/
def Accepted (finding : Finding) : Bool :=
  finding.tenantId.startsWith "ten_"

/-- What is reported of a message's findings: all of them, or those up to the first whose envelope
is refused. -/
def reported : List Finding → List Finding
  | [] => []
  | finding :: more => finding :: if Accepted finding then reported more else []

theorem reported_sublist (produced : List Finding) : (reported produced).Sublist produced := by
  induction produced with
  | nil => exact List.Sublist.refl []
  | cons finding more ih =>
      unfold reported
      split
      · exact ih.cons_cons finding
      · exact (List.nil_sublist more).cons_cons finding

namespace StreamPipeline

variable (q : StreamPipeline)

/-- What is reported for each message in turn, all asked with the same window and with nothing
open. A message that raises ends the drain. -/
def answers (registry : Registry) (window : List CanonicalEvent) :
    Ticks → List FabricEnvelope → List (List Finding)
  | _, [] => []
  | ticks, message :: messages =>
      match q.modelValidate message.payload with
      | .error _ => []
      | .ok event =>
          match registry event { window := window, openFingerprints := [] } ticks with
          | (.error _, _) => []
          | (.ok produced, ticks') =>
              reported produced ::
                if produced.all Accepted then answers registry window ticks' messages else []

/-- The messages that a drain by the group takes off the queue. -/
def drained (group : String) (s : StreamState) : List FabricEnvelope :=
  firsts (consumedKey group) s.pipeline.fabric.consumed (s.pipeline.fabric.topics normalizedTopic)

/-- What a drain by the group reports, message by message. -/
def drainAnswers (group : String) (s : StreamState) : List (List Finding) :=
  match q.registry with
  | none => []
  | some registry => q.answers registry s.pipeline.normalized s.ticks (drained group s)

end StreamPipeline

/-- How reporting some findings changes a state. -/
structure Reported (s : StreamState) (more : List Finding) (s' : StreamState) : Prop where
  findings : s'.findings = s.findings ++ more
  normalized : s'.pipeline.normalized = s.pipeline.normalized
  ticks : s'.ticks = s.ticks

theorem Reported.refl (s : StreamState) : Reported s [] s := by
  constructor <;> simp

theorem Reported.trans {s s' s'' : StreamState} {more rest : List Finding}
    (h : Reported s more s') (h' : Reported s' rest s'') : Reported s (more ++ rest) s'' where
  findings := by rw [h'.findings, h.findings, List.append_assoc]
  normalized := h'.normalized.trans h.normalized
  ticks := h'.ticks.trans h.ticks

section

variable (q : StreamPipeline)

theorem report_accepted (r : Nat × DetectionContext) {finding : Finding} (h : Accepted finding)
    (s : StreamState) :
    ∃ s', q.report r finding s = (.ok (r.1 + 1, r.2.opening [finding]), s') ∧
      Reported s [finding] s' := by
  obtain ⟨message, henvelope, htopic⟩ := envelope_ok q.rt (q.findingStamps s.findings.length)
    findingsTopic h (q.findingDump finding) (.str finding.id)
  have hknown : message.topic ∈ allTopics := by
    rw [htopic]
    decide
  refine ⟨{ s with
    findings := s.findings ++ [finding]
    pipeline := { s.pipeline with fabric := s.pipeline.fabric.append message } }, ?_, rfl, rfl, rfl⟩
  simp only [StreamPipeline.report, Exec.bind_run, Exec.gets, Exec.modify, Exec.lift, Exec.andThen,
    henvelope, onPipeline, Exec.zoom, publish_run hknown, Except.mapError, Exec.pure_run]

theorem report_refused (r : Nat × DetectionContext) {finding : Finding}
    (h : Accepted finding = false) (s : StreamState) :
    ∃ e, q.report r finding s = (.error e, { s with findings := s.findings ++ [finding] }) := by
  have hrefused : ¬ finding.tenantId.startsWith "ten_" = true := by
    unfold Accepted at h
    rw [h]
    exact Bool.false_ne_true
  refine ⟨.validationError "FabricEnvelope" [("tenant_id", some (.str finding.tenantId))], ?_⟩
  simp only [StreamPipeline.report, Exec.bind_run, Exec.gets, Exec.modify, Exec.lift, Exec.andThen,
    envelope, if_neg hrefused]

/-- The loop over a message's findings returns exactly if the envelopes take them all. -/
theorem reportAll_spec (r : Nat × DetectionContext) (produced : List Finding) (s : StreamState) :
    ∃ v s', Exec.loop q.report r produced s = (v, s') ∧ Reported s (reported produced) s' ∧
      (v.isOk = produced.all Accepted) := by
  induction produced generalizing r s with
  | nil => exact ⟨.ok r, s, rfl, Reported.refl s, rfl⟩
  | cons finding more ih =>
      cases ha : Accepted finding with
      | true =>
          obtain ⟨s₁, hrun, hone⟩ := report_accepted q r ha s
          obtain ⟨v, s', hloop, hrest, hok⟩ := ih (r.1 + 1, r.2.opening [finding]) s₁
          refine ⟨v, s', ?_, ?_, ?_⟩
          · simp only [Exec.loop, Exec.bind_run, hrun, Exec.andThen]
            exact hloop
          · have hboth := hone.trans hrest
            simpa [reported, ha] using hboth
          · rw [hok, List.all_cons, ha, Bool.true_and]
      | false =>
          obtain ⟨e, hrun⟩ := report_refused q r ha s
          refine ⟨.error e, { s with findings := s.findings ++ [finding] }, ?_, ⟨?_, rfl, rfl⟩, ?_⟩
          · simp only [Exec.loop, Exec.bind_run, hrun, Exec.andThen]
          · simp [reported, ha]
          · rw [List.all_cons, ha, Bool.false_and]
            rfl

/-- The findings of a drain are the answers, message after message. -/
theorem detectAll_findings (registry : Registry) (created : Nat) (messages : List FabricEnvelope)
    (s : StreamState) :
    (Exec.loop (q.detect registry) created messages s).2.findings =
      s.findings ++ (q.answers registry s.pipeline.normalized s.ticks messages).flatten := by
  induction messages generalizing created s with
  | nil => simp [Exec.loop, StreamPipeline.answers]
  | cons message messages ih =>
      cases hvalid : q.modelValidate message.payload with
      | error e =>
          simp [Exec.loop, Exec.bind_run, StreamPipeline.detect, Exec.lift, Exec.andThen, hvalid,
            StreamPipeline.answers]
      | ok event =>
          rcases hask : registry event
            { window := s.pipeline.normalized, openFingerprints := [] } s.ticks with
            ⟨⟨e⟩ | ⟨produced⟩, ticks'⟩
          · simp [Exec.loop, Exec.bind_run, StreamPipeline.detect, Exec.lift, Exec.gets,
              Exec.andThen, hvalid, StreamPipeline.answers, drawing, Exec.zoom, hask,
              Except.mapError]
          · obtain ⟨v, s₁, hreport, hone, hok⟩ := reportAll_spec q
              (created, { window := s.pipeline.normalized, openFingerprints := [] }) produced
              { s with ticks := ticks' }
            have hdetect : q.detect registry created message s = (v.map Prod.fst, s₁) := by
              simp only [StreamPipeline.detect, Exec.bind_run, Exec.lift, Exec.gets, Exec.andThen,
                hvalid, drawing, Exec.zoom, hask, Except.mapError, hreport]
              cases v <;> rfl
            simp only [StreamPipeline.answers, hvalid, hask, List.flatten_cons]
            cases v with
            | error e =>
                have hall : produced.all Accepted = false := hok.symm
                rw [hall]
                simp only [Exec.loop, Exec.bind_run, hdetect, Exec.andThen, Except.map]
                rw [hone.findings]
                simp
            | ok r =>
                have hall : produced.all Accepted = true := hok.symm
                rw [hall, if_pos rfl]
                simp only [Exec.loop, Exec.bind_run, hdetect, Exec.andThen, Except.map]
                rw [ih r.1 s₁, hone.findings, hone.normalized, hone.ticks, List.append_assoc]

theorem drainNormalized_findings (group : String) (s : StreamState) :
    (q.drainNormalized group s).2.findings = s.findings ++ (q.drainAnswers group s).flatten := by
  unfold StreamPipeline.drainNormalized StreamPipeline.drainAnswers
  cases q.registry with
  | none => simp
  | some registry =>
      have htopic : normalizedTopic ∈ allTopics := by decide
      obtain ⟨f, hconsume, -⟩ := consumeAll_spec htopic group s.pipeline.fabric
      have hrun : onPipeline (onFabric (consumeAll normalizedTopic group)) s =
          (.ok (StreamPipeline.drained group s),
            { s with pipeline := { s.pipeline with fabric := f } }) := by
        simp only [onPipeline, onFabric, Exec.zoom, hconsume, Except.mapError]
        rfl
      simp only [Exec.bind_run, hrun, Exec.andThen]
      exact detectAll_findings q registry 0 _ _

end

/-! ### Registries that suppress what is open -/

/-- No answer repeats a fingerprint, and none repeats one that is open. -/
structure Suppressing (registry : Registry) : Prop where
  nodup : ∀ event context ticks produced ticks',
    registry event context ticks = (.ok produced, ticks') →
      (produced.map (·.fingerprint)).Nodup
  silent : ∀ event context ticks produced ticks',
    registry event context ticks = (.ok produced, ticks') →
      ∀ finding ∈ produced, finding.fingerprint ∉ context.openFingerprints

/-- Rules under ids of their own make such a registry. -/
theorem registryOf_suppressing (rt : Runtime) {rules : List DetectionRule}
    (hnamed : ∀ rule ∈ rules, rule.WellNamed) (hids : (rules.map (·.info.ruleId)).Nodup) :
    Suppressing (registryOf rt rules) where
  nodup event context _ _ _ hrun :=
    (evaluateAll_fingerprints_nodup rt hnamed hids event context).ok trivial hrun
  silent event context _ _ _ hrun :=
    (evaluateAll_not_open rt rules event context).ok trivial hrun

theorem defaultRegistry_suppressing (rt : Runtime) : Suppressing (registryOf rt defaultRegistry) :=
  registryOf_suppressing rt defaultRegistry_wellNamed defaultRegistry_ids_nodup

/-! ### Runs -/

def fingerprints (findings : List Finding) : List String :=
  findings.map (·.fingerprint)

/-- No two messages of a call are answered with one fingerprint, and no message with that of a
finding there was before. -/
def StreamPipeline.NothingRepeated (q : StreamPipeline) (s : StreamState) : StreamCall → Prop
  | .pipeline _ => True
  | .drainNormalized group =>
      (q.drainAnswers group s).Pairwise
          (fun answer later => (fingerprints answer).Disjoint (fingerprints later)) ∧
        ∀ answer ∈ q.drainAnswers group s, (fingerprints s.findings).Disjoint (fingerprints answer)

section

variable {q : StreamPipeline}

theorem Suppressing.answers_nodup {registry : Registry} (h : Suppressing registry)
    (window : List CanonicalEvent) (ticks : Ticks) (messages : List FabricEnvelope) :
    ∀ answer ∈ q.answers registry window ticks messages, (fingerprints answer).Nodup := by
  induction messages generalizing ticks with
  | nil =>
      intro answer hanswer
      cases hanswer
  | cons message messages ih =>
      intro answer hanswer
      unfold StreamPipeline.answers at hanswer
      split at hanswer
      · cases hanswer
      · rename_i event _
        split at hanswer
        · cases hanswer
        · rename_i produced ticks' hask
          rcases List.mem_cons.mp hanswer with rfl | hlater
          · apply List.Nodup.sublist ((reported_sublist produced).map _)
            exact h.nodup _ _ _ _ _ hask
          · split at hlater
            · exact ih ticks' answer hlater
            · cases hlater

/-- A call keeps the fingerprints apart exactly if it repeats nothing. -/
theorem step_nodup_iff (hregistry : ∀ registry, q.registry = some registry → Suppressing registry)
    (s : StreamState) (call : StreamCall) :
    (fingerprints (q.step s call).findings).Nodup ↔
      (fingerprints s.findings).Nodup ∧ q.NothingRepeated s call := by
  cases call with
  | pipeline call =>
      show (fingerprints s.findings).Nodup ↔ (fingerprints s.findings).Nodup ∧ True
      exact (and_iff_left trivial).symm
  | drainNormalized group =>
      have heach : ∀ answer ∈ q.drainAnswers group s, (fingerprints answer).Nodup := by
        intro answer hanswer
        unfold StreamPipeline.drainAnswers at hanswer
        cases hq : q.registry with
        | none =>
            rw [hq] at hanswer
            cases hanswer
        | some registry =>
            rw [hq] at hanswer
            exact (hregistry registry hq).answers_nodup _ _ _ answer hanswer
      have hstep : fingerprints (q.step s (.drainNormalized group)).findings =
          fingerprints s.findings ++ ((q.drainAnswers group s).map fingerprints).flatten := by
        show fingerprints (q.drainNormalized group s).2.findings = _
        rw [drainNormalized_findings]
        unfold fingerprints
        rw [List.map_append, List.map_flatten]
      have happart : (fingerprints s.findings).Disjoint
            ((q.drainAnswers group s).map fingerprints).flatten ↔
          ∀ answer ∈ q.drainAnswers group s,
            (fingerprints s.findings).Disjoint (fingerprints answer) := by
        simp only [List.disjoint_right, List.mem_flatten, List.mem_map]
        constructor
        · intro h answer hanswer fingerprint hmem
          exact h ⟨_, ⟨answer, hanswer, rfl⟩, hmem⟩
        · rintro h fingerprint ⟨_, ⟨answer, hanswer, rfl⟩, hmem⟩
          exact h answer hanswer hmem
      have hanswers : ((q.drainAnswers group s).map fingerprints).flatten.Nodup ↔
          (q.drainAnswers group s).Pairwise
            (fun answer later => (fingerprints answer).Disjoint (fingerprints later)) := by
        rw [List.nodup_flatten, List.pairwise_map]
        constructor
        · exact And.right
        · intro hpairs
          refine ⟨?_, hpairs⟩
          intro _ hmem
          obtain ⟨answer, hanswer, rfl⟩ := List.mem_map.mp hmem
          exact heach answer hanswer
      rw [hstep, List.nodup_append', happart, hanswers]
      rfl

theorem run_nodup_iff (hregistry : ∀ registry, q.registry = some registry → Suppressing registry)
    (s : StreamState) (calls : List StreamCall) :
    (fingerprints (Machine.run q.step s calls).findings).Nodup ↔
      (fingerprints s.findings).Nodup ∧ Machine.Along q.step q.NothingRepeated s calls := by
  induction calls generalizing s with
  | nil => exact (and_iff_left trivial).symm
  | cons call calls ih =>
      rw [Machine.run_cons, ih, step_nodup_iff hregistry]
      exact and_assoc

end

/-- A DNS query to one and the same domain. -/
def sampleQuery (payload : JsonObject) (tenantId : String) : CanonicalEvent :=
  { sampleNormalize payload tenantId with
    id := (Json.get payload "id").text sampleRuntime
    category := "dns"
    domain := some "tunnel.example" }

/-- The streaming path with one rule of the default registry. -/
def dnsPipeline : StreamPipeline :=
  { rt := sampleRuntime
    normalizer := fun _ payload tenantId => .ok (sampleQuery payload tenantId)
    modelDump := fun event => [("id", .str event.id)]
    stamps := fun n => ⟨"evt_" ++ toString n, sampleRuntime.now n⟩
    registry := some (registryOf sampleRuntime [suspiciousDnsRule])
    modelValidate := fun payload => .ok (sampleQuery payload "ten_a")
    findingDump := fun finding => [("id", .str finding.id)]
    findingStamps := fun n => ⟨"evt_" ++ toString n, sampleRuntime.now n⟩ }

theorem dnsPipeline_suppressing :
    ∀ registry, dnsPipeline.registry = some registry → Suppressing registry := by
  intro registry h
  obtain rfl : registryOf sampleRuntime [suspiciousDnsRule] = registry := Option.some.inj h
  exact registryOf_suppressing sampleRuntime (by decide +kernel) (by decide +kernel)

def secondInput : RawInput :=
  { sampleInput with payload := [("id", .str "evt_2")] }

/-- Two queries of the same kind. -/
def twoQueries : List StreamCall :=
  [.pipeline (.ingest sampleInput), .pipeline (.ingest secondInput),
   .pipeline (.drain "normalizer"), .drainNormalized "detection"]

end BlueTeam.Fabric
