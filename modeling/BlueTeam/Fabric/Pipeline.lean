/- GID: BlueTeam/Fabric/Pipeline
   generality: I
   source: packages/event-fabric/blueteam_fabric/pipeline.py
   digest: Raw messages are drained, normalised, retried and dead-lettered. -/

import BlueTeam.Fabric.Memory
import BlueTeam.Schema.Event

set_option autoImplicit false
set_option relaxedAutoImplicit false

namespace BlueTeam.Fabric

open BlueTeam.Python BlueTeam.Schema BlueTeam.Lib

/-- A call of the normaliser: payload and tenant. -/
abbrev NormalizerCall := JsonObject × String

/-- What a pipeline is built with. The normaliser may depend on its earlier calls; `stamps` are the
ids and times of the envelopes that drains publish, `modelDump` is pydantic's. -/
structure EventPipeline where
  rt : Runtime
  normalizer : List NormalizerCall → JsonObject → String → Except Exn CanonicalEvent
  modelDump : CanonicalEvent → JsonObject
  stamps : Nat → Stamp
  maxAttempts : Nat := 3

inductive Outcome
  | normalized (event : CanonicalEvent)
  | retried
  | deadLettered (e : Exn)

/-- One turn of the loop of `drain_raw`. -/
structure Attempt where
  message : FabricEnvelope
  outcome : Outcome

/-- The pipeline's state, with a record of its attempts. -/
structure PipelineState where
  fabric : InMemoryFabric := {}
  normalized : List CanonicalEvent := []
  attempts : List Attempt := []

def callOf (message : FabricEnvelope) : NormalizerCall :=
  (message.payload, message.tenantId)

/-- The calls the normaliser has had. -/
def PipelineState.history (s : PipelineState) : List NormalizerCall :=
  s.attempts.map fun a => callOf a.message

def onFabric {α : Type} (m : Exec InMemoryFabric Exn α) : Exec PipelineState Exn α :=
  Exec.zoom PipelineState.fabric (fun s f => { s with fabric := f }) id m

namespace EventPipeline

variable (p : EventPipeline)

def ingestRaw (stamp : Stamp) (tenantId : String) (payload : JsonObject) :
    Exec PipelineState Exn FabricEnvelope := do
  let message ← Exec.lift
    (envelope p.rt stamp rawTopic tenantId payload (Json.get payload "id"))
  let _ ← onFabric (publish message)
  pure message

/-- The normaliser's answer and the checks on it. -/
def judge (history : List NormalizerCall) (message : FabricEnvelope) :
    Except Exn CanonicalEvent := do
  let event ← p.normalizer history message.payload message.tenantId
  if event.tenantId ≠ message.tenantId then
    .error (.valueError "tenant mismatch after normalize")
  else if event.schemaVersion = "" then
    .error (.valueError "schema_version missing after normalize")
  else pure event

/-- The body of the `try` of `drain_raw`. -/
def normalizeMessage (message : FabricEnvelope) : Exec PipelineState Exn CanonicalEvent := do
  let history ← Exec.gets PipelineState.history
  let event ← Exec.lift (p.judge history message)
  Exec.modify fun s => { s with normalized := s.normalized ++ [event] }
  let out ← Exec.lift (envelope p.rt (p.stamps history.length) normalizedTopic event.tenantId
    (p.modelDump event) (.str event.id))
  let _ ← onFabric (publish out)
  pure event

def record (message : FabricEnvelope) (outcome : Outcome) : Exec PipelineState Exn Outcome := do
  Exec.modify fun s => { s with attempts := s.attempts ++ [⟨message, outcome⟩] }
  pure outcome

def handle (message : FabricEnvelope) : Exec PipelineState Exn Outcome := do
  match ← Exec.attempt (p.normalizeMessage message) with
  | .ok event => record message (.normalized event)
  | .error e =>
      if p.maxAttempts ≤ message.attempt + 1 then do
        let _ ← onFabric (deadLetter message ("poison: " ++ e.text p.rt))
        record message (.deadLettered e)
      else do
        let _ ← onFabric (publish { message with attempt := message.attempt + 1 })
        record message .retried

/-- What `drain_raw` returns. -/
structure DrainResult where
  normalized : Nat := 0
  deadLettered : Nat := 0

def DrainResult.count (r : DrainResult) : Outcome → DrainResult
  | .normalized _ => { r with normalized := r.normalized + 1 }
  | .retried => r
  | .deadLettered _ => { r with deadLettered := r.deadLettered + 1 }

def drainRaw (group : String) : Exec PipelineState Exn DrainResult := do
  let messages ← onFabric (consumeAll rawTopic group)
  Exec.loop (fun (r : DrainResult) message => do
    let outcome ← p.handle message
    pure (r.count outcome)) {} messages

end EventPipeline

/-! ### What a drain does -/

/-- A message as `ingest_raw` makes them. -/
structure Raw (message : FabricEnvelope) : Prop where
  topic : message.topic = rawTopic
  tenant : message.tenantId.startsWith "ten_" = true

def retryOf (message : FabricEnvelope) : FabricEnvelope :=
  { message with attempt := message.attempt + 1 }

namespace EventPipeline

variable (p : EventPipeline)

def outcomeOf (history : List NormalizerCall) (message : FabricEnvelope) : Outcome :=
  match p.judge history message with
  | .ok event => .normalized event
  | .error e => if p.maxAttempts ≤ message.attempt + 1 then .deadLettered e else .retried

/-- The attempts of one drain, each judged in the light of those before it. -/
def attemptsOf (history : List NormalizerCall) : List FabricEnvelope → List Attempt
  | [] => []
  | m :: ms => ⟨m, p.outcomeOf history m⟩ :: attemptsOf (history ++ [callOf m]) ms

theorem attemptsOf_messages (history : List NormalizerCall) (ms : List FabricEnvelope) :
    (p.attemptsOf history ms).map Attempt.message = ms := by
  induction ms generalizing history with
  | nil => rfl
  | cons m ms ih => simp [attemptsOf, ih]

end EventPipeline

def normalizedIn (attempts : List Attempt) : List CanonicalEvent :=
  attempts.filterMap fun a => match a.outcome with
    | .normalized event => some event
    | _ => none

def retriedIn (attempts : List Attempt) : List FabricEnvelope :=
  attempts.filterMap fun a => match a.outcome with
    | .retried => some (retryOf a.message)
    | _ => none

/-- The dead letters of some attempts, as they are published. -/
def deadLettersIn (rt : Runtime) (attempts : List Attempt) : List FabricEnvelope :=
  attempts.filterMap fun a => match a.outcome with
    | .deadLettered e => some (poisoned a.message ("poison: " ++ e.text rt))
    | _ => none

/-- How a state has changed after some attempts. -/
structure Attempted (p : EventPipeline) (s : PipelineState) (more : List Attempt)
    (s' : PipelineState) : Prop where
  attempts : s'.attempts = s.attempts ++ more
  normalized : s'.normalized = s.normalized ++ normalizedIn more
  raw : s'.fabric.topics rawTopic = s.fabric.topics rawTopic ++ retriedIn more
  dead : s'.fabric.topics deadLetterTopic =
    s.fabric.topics deadLetterTopic ++ deadLettersIn p.rt more
  consumed : s'.fabric.consumed = s.fabric.consumed

theorem Attempted.refl (p : EventPipeline) (s : PipelineState) : Attempted p s [] s := by
  constructor <;> simp [normalizedIn, retriedIn, deadLettersIn]

theorem Attempted.trans {p : EventPipeline} {s s' s'' : PipelineState} {as bs : List Attempt}
    (h : Attempted p s as s') (h' : Attempted p s' bs s'') : Attempted p s (as ++ bs) s'' where
  attempts := by rw [h'.attempts, h.attempts, List.append_assoc]
  normalized := by
    unfold normalizedIn
    rw [List.filterMap_append, ← List.append_assoc]
    exact h'.normalized.trans (congrArg (· ++ _) h.normalized)
  raw := by
    unfold retriedIn
    rw [List.filterMap_append, ← List.append_assoc]
    exact h'.raw.trans (congrArg (· ++ _) h.raw)
  dead := by
    unfold deadLettersIn
    rw [List.filterMap_append, ← List.append_assoc]
    exact h'.dead.trans (congrArg (· ++ _) h.dead)
  consumed := h'.consumed.trans h.consumed

theorem judge_tenant {p : EventPipeline} {history : List NormalizerCall} {message : FabricEnvelope}
    {event : CanonicalEvent} (h : p.judge history message = .ok event) :
    event.tenantId = message.tenantId := by
  unfold EventPipeline.judge at h
  cases hn : p.normalizer history message.payload message.tenantId with
  | error e =>
      rw [hn] at h
      cases h
  | ok e =>
      rw [hn] at h
      change (if e.tenantId ≠ message.tenantId then _ else _) = _ at h
      split at h
      · cases h
      · rename_i ht
        split at h
        · cases h
        · obtain rfl : e = event := Except.ok.inj h
          exact not_not.mp ht

theorem publish_run {message : FabricEnvelope} (h : message.topic ∈ allTopics)
    (s : PipelineState) :
    onFabric (publish message) s =
      (.ok message.eventId, { s with fabric := s.fabric.append message }) := by
  simp [onFabric, Exec.zoom, publish, h, Except.mapError]

theorem normalizeMessage_error {p : EventPipeline} {message : FabricEnvelope} {s : PipelineState}
    {e : Exn} (h : p.judge s.history message = .error e) :
    p.normalizeMessage message s = (.error e, s) := by
  simp [EventPipeline.normalizeMessage, Exec.bind_run, Exec.gets, Exec.lift, Exec.andThen, h]

/-- A message that is accepted is recorded and passed on; what is passed on cannot be refused. -/
theorem normalizeMessage_ok {p : EventPipeline} {message : FabricEnvelope} {s : PipelineState}
    {event : CanonicalEvent} (hraw : Raw message) (h : p.judge s.history message = .ok event) :
    ∃ out : FabricEnvelope, out.topic = normalizedTopic ∧
      p.normalizeMessage message s = (.ok event,
        { s with normalized := s.normalized ++ [event], fabric := s.fabric.append out }) := by
  have htenant : event.tenantId.startsWith "ten_" = true := by
    rw [judge_tenant h]
    exact hraw.tenant
  obtain ⟨out, hout, htopic⟩ := envelope_ok p.rt (p.stamps s.history.length) normalizedTopic
    htenant (p.modelDump event) (.str event.id)
  have hknown : out.topic ∈ allTopics := by
    rw [htopic]
    decide
  refine ⟨out, htopic, ?_⟩
  simp only [EventPipeline.normalizeMessage, Exec.bind_run, Exec.gets, Exec.lift, Exec.andThen,
    Exec.modify, h, hout, publish_run hknown, Exec.pure_run]

theorem handle_spec (p : EventPipeline) {message : FabricEnvelope} (hraw : Raw message)
    (s : PipelineState) :
    ∃ s', p.handle message s = (.ok (p.outcomeOf s.history message), s') ∧
      Attempted p s [⟨message, p.outcomeOf s.history message⟩] s' := by
  unfold EventPipeline.outcomeOf
  cases hj : p.judge s.history message with
  | ok event =>
      obtain ⟨out, htopic, hrun⟩ := normalizeMessage_ok hraw hj
      refine ⟨{ fabric := s.fabric.append out, normalized := s.normalized ++ [event]
                attempts := s.attempts ++ [⟨message, .normalized event⟩] }, ?_, ?_⟩
      · simp only [EventPipeline.handle, Exec.bind_run, Exec.attempt, Exec.andThen, hrun,
          EventPipeline.record, Exec.modify, Exec.pure_run]
      · refine ⟨rfl, rfl, ?_, ?_, rfl⟩
        · simp only [retriedIn, List.filterMap_cons_none, List.filterMap_nil, List.append_nil]
          exact append_topics_of_ne _ _ (by rw [htopic]; decide)
        · simp only [deadLettersIn, List.filterMap_cons_none, List.filterMap_nil, List.append_nil]
          exact append_topics_of_ne _ _ (by rw [htopic]; decide)
  | error e =>
      have hrun := normalizeMessage_error hj
      dsimp only
      split
      · rename_i hmax
        have hknown : (poisoned message ("poison: " ++ e.text p.rt)).topic ∈ allTopics := by
          show deadLetterTopic ∈ allTopics
          decide
        refine ⟨{ s with
          fabric := s.fabric.append (poisoned message ("poison: " ++ e.text p.rt))
          attempts := s.attempts ++ [⟨message, .deadLettered e⟩] }, ?_, ?_⟩
        · simp only [EventPipeline.handle, Exec.bind_run, Exec.attempt, Exec.andThen, hrun, hmax,
            if_true, deadLetter, publish_run hknown, EventPipeline.record, Exec.modify,
            Exec.pure_run]
        · refine ⟨rfl, by simp [normalizedIn], ?_, ?_, rfl⟩
          · simp only [retriedIn, List.filterMap_cons_none, List.filterMap_nil, List.append_nil]
            exact append_topics_of_ne _ _ (by show deadLetterTopic ≠ rawTopic; decide)
          · exact append_topics_self _ (poisoned message ("poison: " ++ e.text p.rt))
      · rename_i hmax
        have hknown : (retryOf message).topic ∈ allTopics := by
          show message.topic ∈ allTopics
          rw [hraw.topic]
          decide
        refine ⟨{ s with
          fabric := s.fabric.append (retryOf message)
          attempts := s.attempts ++ [⟨message, .retried⟩] }, ?_, ?_⟩
        · have hpublish := publish_run hknown s
          unfold retryOf at hpublish
          simp only [EventPipeline.handle, Exec.bind_run, Exec.attempt, Exec.andThen, hrun, hmax,
            if_false, hpublish, EventPipeline.record, Exec.modify, Exec.pure_run]
          rfl
        · refine ⟨rfl, by simp [normalizedIn], ?_, ?_, rfl⟩
          · rw [← hraw.topic]
            exact append_topics_self _ (retryOf message)
          · simp only [deadLettersIn, List.filterMap_cons_none, List.filterMap_nil,
              List.append_nil]
            exact append_topics_of_ne _ _ (by
              show message.topic ≠ deadLetterTopic
              rw [hraw.topic]
              decide)

theorem rawTopic_known : rawTopic ∈ allTopics := by
  decide

theorem handleAll_spec (p : EventPipeline) {messages : List FabricEnvelope}
    (hraw : ∀ m ∈ messages, Raw m) (r : EventPipeline.DrainResult) (s : PipelineState) :
    ∃ r' s', Exec.loop (fun (r : EventPipeline.DrainResult) message => do
        let outcome ← p.handle message
        pure (r.count outcome)) r messages s = (.ok r', s') ∧
      Attempted p s (p.attemptsOf s.history messages) s' := by
  induction messages generalizing r s with
  | nil => exact ⟨r, s, rfl, Attempted.refl p s⟩
  | cons m ms ih =>
      obtain ⟨s₁, hrun, hone⟩ := handle_spec p (hraw m (by simp)) s
      have hhistory : s₁.history = s.history ++ [callOf m] := by
        unfold PipelineState.history
        rw [hone.attempts, List.map_append]
        rfl
      obtain ⟨r', s', hloop, hrest⟩ := ih (fun x hx => hraw x (by simp [hx]))
        (r.count (p.outcomeOf s.history m)) s₁
      rw [hhistory] at hrest
      refine ⟨r', s', ?_, hone.trans hrest⟩
      simp only [Exec.loop, Exec.bind_run, hrun, Exec.andThen, Exec.pure_run]
      exact hloop

/-- A drain attempts the first occurrences among the queued messages, once each, and leaves only
the retries in the queue. -/
theorem drainRaw_spec (p : EventPipeline) (group : String) {s : PipelineState}
    (hraw : ∀ m ∈ s.fabric.topics rawTopic, Raw m) :
    ∃ r s', p.drainRaw group s = (.ok r, s') ∧
      let more := p.attemptsOf s.history
        (firsts (consumedKey group) s.fabric.consumed (s.fabric.topics rawTopic))
      s'.attempts = s.attempts ++ more ∧ s'.normalized = s.normalized ++ normalizedIn more ∧
      s'.fabric.topics rawTopic = retriedIn more ∧
      s'.fabric.topics deadLetterTopic =
        s.fabric.topics deadLetterTopic ++ deadLettersIn p.rt more ∧
      ∀ k, k ∈ s'.fabric.consumed ↔
        k ∈ s.fabric.consumed ++ (s.fabric.topics rawTopic).map (consumedKey group) := by
  obtain ⟨f, hconsume, hnil, hothers, hkeys⟩ :=
    consumeAll_spec rawTopic_known group s.fabric
  obtain ⟨r, s', hloop, hat⟩ := handleAll_spec p
    (fun m (hm : m ∈ firsts (consumedKey group) s.fabric.consumed (s.fabric.topics rawTopic)) =>
      hraw m (mem_of_mem_firsts hm).1) {} { s with fabric := f }
  refine ⟨r, s', ?_, hat.attempts, hat.normalized, ?_, ?_, ?_⟩
  · simp only [EventPipeline.drainRaw, Exec.bind_run, onFabric, Exec.zoom, hconsume,
      Except.mapError, Exec.andThen]
    exact hloop
  · rw [hat.raw, hnil]
    rfl
  · rw [hat.dead, hothers deadLetterTopic (by decide)]
    rfl
  · intro k
    rw [hat.consumed]
    exact hkeys k

end BlueTeam.Fabric
