/- GID: BlueTeam/Fabric/Memory
   generality: I
   source: packages/event-fabric/blueteam_fabric/envelope.py, memory.py, topics.py
   digest: The in-process message fabric: one queue a topic, one set of consumed keys. -/

import BlueTeam.Lib.Firsts
import BlueTeam.Python.Runtime

set_option autoImplicit false
set_option relaxedAutoImplicit false

namespace BlueTeam.Fabric

open BlueTeam.Python BlueTeam.Lib

def rawTopic : String := "telemetry.raw.v1"
def normalizedTopic : String := "telemetry.normalized.v1"
def deadLetterTopic : String := "deadletter.events.v1"

/-- `ALL_TOPICS` -/
def allTopics : List String :=
  [rawTopic, normalizedTopic, "detections.findings.v1", "correlation.candidates.v1",
   "incidents.events.v1", "evidence.created.v1", "telemetry.health.v1", deadLetterTopic]

structure FabricEnvelope where
  eventId : String
  tenantId : String
  schemaVersion : String := "1.0.0"
  topic : String
  producedAt : DateTime
  idempotencyKey : String
  payload : JsonObject := []
  attempt : Nat := 0
  poison : Bool := false
  partitionKey : String := ""
  deriving DecidableEq, Repr

/-- What `new_id("evt")` and `utcnow()` give when an envelope is made. -/
structure Stamp where
  id : String
  producedAt : DateTime
  deriving DecidableEq, Repr

/-- `envelope`; the model refuses a tenant without its prefix. -/
def envelope (rt : Runtime) (stamp : Stamp) (topic tenantId : String) (payload : JsonObject)
    (eventId : Json) : Except Exn FabricEnvelope :=
  let eid := (Json.orElse eventId (Json.orElse (Json.get payload "id") (.str stamp.id))).text rt
  if tenantId.startsWith "ten_" then
    .ok
      { eventId := eid
        tenantId := tenantId
        topic := topic
        producedAt := stamp.producedAt
        idempotencyKey := topic ++ ":" ++ eid
        payload := payload
        partitionKey := tenantId }
  else .error (.validationError "FabricEnvelope" [("tenant_id", some (.str tenantId))])

/-- A tenant with its prefix gets its envelope. -/
theorem envelope_ok (rt : Runtime) (stamp : Stamp) (topic : String) {tenantId : String}
    (h : tenantId.startsWith "ten_" = true) (payload : JsonObject) (eventId : Json) :
    ∃ message, envelope rt stamp topic tenantId payload eventId = .ok message ∧
      message.topic = topic :=
  ⟨_, if_pos h, rfl⟩

/-- The fabric. Its dictionaries default to an empty queue and to 0; the topics are `allTopics`. -/
structure InMemoryFabric where
  topics : String → List FabricEnvelope := fun _ => []
  consumed : List String := []
  offsets : String → Nat := fun _ => 0
  published : String → Nat := fun _ => 0
  lag : String → Nat := fun _ => 0

/-- The key under which a group marks a message as consumed. -/
def consumedKey (group : String) (message : FabricEnvelope) : String :=
  group ++ ":" ++ message.idempotencyKey

def unknownTopic (topic : String) : Exn :=
  .valueError ("unknown topic " ++ topic)

/-- `publish`, for a topic that is known. -/
def InMemoryFabric.append (f : InMemoryFabric) (message : FabricEnvelope) : InMemoryFabric :=
  let queue := f.topics message.topic ++ [message]
  { f with
    topics := Function.update f.topics message.topic queue
    published := Function.update f.published message.topic (f.published message.topic + 1)
    lag := Function.update f.lag message.topic queue.length }

def publish (message : FabricEnvelope) : Exec InMemoryFabric Exn String := fun f =>
  if message.topic ∈ allTopics then (.ok message.eventId, f.append message)
  else (.error (unknownTopic message.topic), f)

/-- The loop of `consume`. -/
def InMemoryFabric.pull (f : InMemoryFabric) (topic : String) (maxRecords : Nat) (group : String) :
    Pull FabricEnvelope String :=
  Lib.pull (consumedKey group) maxRecords f.consumed (f.topics topic)

def InMemoryFabric.take (f : InMemoryFabric) (topic : String) (maxRecords : Nat)
    (group : String) : InMemoryFabric :=
  let p := f.pull topic maxRecords group
  let offset := group ++ ":" ++ topic
  { f with
    topics := Function.update f.topics topic p.rest
    consumed := p.seen
    offsets := Function.update f.offsets offset (f.offsets offset + p.batch.length)
    lag := Function.update f.lag topic p.rest.length }

def consume (topic : String) (maxRecords : Nat) (group : String) :
    Exec InMemoryFabric Exn (List FabricEnvelope) := fun f =>
  if topic ∈ allTopics then (.ok (f.pull topic maxRecords group).batch, f.take topic maxRecords group)
  else (.error (unknownTopic topic), f)

def poisoned (message : FabricEnvelope) (reason : String) : FabricEnvelope :=
  { message with
    topic := deadLetterTopic
    poison := true
    attempt := message.attempt + 1
    idempotencyKey := "dlq:" ++ message.idempotencyKey
    payload := Json.setKey (Json.setKey message.payload "dlq_reason" (.str reason))
      "original_topic" (.str message.topic) }

def deadLetter (message : FabricEnvelope) (reason : String) : Exec InMemoryFabric Exn String :=
  publish (poisoned message reason)

/-- The loop of `_consume_all`; every chunk but the last shortens the queue. -/
def consumeAllLoop (topic group : String) : Nat → Exec InMemoryFabric Exn (List FabricEnvelope)
  | 0 => pure []
  | fuel + 1 => do
      let chunk ← consume topic 500 group
      if chunk.isEmpty then pure []
      else do
        let more ← consumeAllLoop topic group fuel
        pure (chunk ++ more)

/-- `EventPipeline._consume_all` -/
def consumeAll (topic group : String) : Exec InMemoryFabric Exn (List FabricEnvelope) := fun f =>
  consumeAllLoop topic group ((f.topics topic).length + 1) f

section

variable (f : InMemoryFabric) (topic : String)

@[simp] theorem append_topics_self (message : FabricEnvelope) :
    (f.append message).topics message.topic = f.topics message.topic ++ [message] := by
  simp [InMemoryFabric.append]

theorem append_topics_of_ne {message : FabricEnvelope} (h : message.topic ≠ topic) :
    (f.append message).topics topic = f.topics topic := by
  simp [InMemoryFabric.append, Function.update_of_ne (Ne.symm h)]

@[simp] theorem append_consumed (message : FabricEnvelope) :
    (f.append message).consumed = f.consumed := rfl

variable (maxRecords : Nat) (group : String)

@[simp] theorem take_topics_self :
    (f.take topic maxRecords group).topics topic = (f.pull topic maxRecords group).rest := by
  simp [InMemoryFabric.take]

theorem take_topics_of_ne {other : String} (h : other ≠ topic) :
    (f.take topic maxRecords group).topics other = f.topics other := by
  simp [InMemoryFabric.take, Function.update_of_ne h]

@[simp] theorem take_consumed :
    (f.take topic maxRecords group).consumed = (f.pull topic maxRecords group).seen := rfl

end

theorem consumedKey_injective (group : String) :
    Function.Injective fun key : String => group ++ ":" ++ key := by
  intro a b h
  have hchars := congrArg String.toList h
  simp only [String.toList_append, List.append_cancel_left_eq] at hchars
  exact String.toList_injective hchars

/-- First occurrences by the group's keys are first occurrences by idempotency key. -/
theorem firsts_consumedKey (group : String) (messages : List FabricEnvelope) :
    firsts (consumedKey group) [] messages = firsts FabricEnvelope.idempotencyKey [] messages :=
  firsts_comp FabricEnvelope.idempotencyKey (consumedKey_injective group) [] messages

theorem pull_empty (f : InMemoryFabric) {topic : String} (h : f.topics topic = [])
    (maxRecords : Nat) (group : String) :
    f.pull topic maxRecords group = ⟨[], [], f.consumed⟩ := by
  unfold InMemoryFabric.pull
  rw [h]
  cases maxRecords <;> rfl

/-- `_consume_all` gives the first occurrences in the whole queue and leaves it empty. Any fuel
beyond the length of the queue does. -/
theorem consumeAllLoop_spec {topic : String} (htopic : topic ∈ allTopics) (group : String)
    (fuel : Nat) (f : InMemoryFabric) (hfuel : (f.topics topic).length < fuel) :
    ∃ f', consumeAllLoop topic group fuel f =
        (.ok (firsts (consumedKey group) f.consumed (f.topics topic)), f') ∧
      f'.topics topic = [] ∧ (∀ other, other ≠ topic → f'.topics other = f.topics other) ∧
      ∀ k, k ∈ f'.consumed ↔ k ∈ f.consumed ++ (f.topics topic).map (consumedKey group) := by
  induction fuel generalizing f with
  | zero => omega
  | succ fuel ih =>
      obtain ⟨removed, hqueue, hbatch, hseen, -⟩ :=
        pull_spec (consumedKey group) 500 f.consumed (f.topics topic)
      change f.topics topic = removed ++ (f.pull topic 500 group).rest at hqueue
      change (f.pull topic 500 group).batch = _ at hbatch
      change ∀ k, k ∈ (f.pull topic 500 group).seen ↔ _ at hseen
      have hrun : consumeAllLoop topic group (fuel + 1) f =
          Exec.andThen (fun chunk => if chunk.isEmpty then pure [] else
            consumeAllLoop topic group fuel >>= fun more => pure (chunk ++ more))
            (.ok (f.pull topic 500 group).batch, f.take topic 500 group) := by
        show Exec.andThen _ (consume topic 500 group f) = _
        rw [show consume topic 500 group f = (.ok (f.pull topic 500 group).batch,
          f.take topic 500 group) from if_pos htopic]
      rw [hrun]
      by_cases hempty : (f.pull topic 500 group).batch = []
      · -- An empty chunk: the queue held nothing new, and now it is empty.
        have hrest : (f.pull topic 500 group).rest = [] :=
          pull_rest_of_batch_nil (by omega) hempty
        rw [hrest, List.append_nil] at hqueue
        refine ⟨f.take topic 500 group, ?_, ?_, ?_, ?_⟩
        · rw [hqueue, ← hbatch, hempty]
          rfl
        · rw [take_topics_self, hrest]
        · intro other hother
          exact take_topics_of_ne f topic 500 group hother
        · intro k
          rw [take_consumed, hseen k, hqueue]
      · have hshort : ((f.take topic 500 group).topics topic).length < fuel := by
          rw [take_topics_self]
          have hremoved : removed ≠ [] := by
            rintro rfl
            exact hempty hbatch
          have hlen := congrArg List.length hqueue
          rw [List.length_append] at hlen
          have := List.length_pos_iff.mpr hremoved
          omega
        obtain ⟨f', hloop, hnil, hothers, hkeys⟩ := ih (f.take topic 500 group) hshort
        refine ⟨f', ?_, hnil, ?_, ?_⟩
        · have hchunk : (f.pull topic 500 group).batch.isEmpty = false := by
            simpa using hempty
          simp only [Exec.andThen, hchunk, Bool.false_eq_true, if_false, Exec.bind_run, hloop,
            Exec.pure_run, take_topics_self, take_consumed]
          rw [hqueue, firsts_append, ← hbatch]
          congr 3
          exact firsts_congr hseen _
        · intro other hother
          rw [hothers other hother]
          exact take_topics_of_ne f topic 500 group hother
        · intro k
          rw [hkeys k, take_topics_self, take_consumed, List.mem_append, hseen k, ← List.mem_append,
            List.append_assoc, ← List.map_append, ← hqueue]

theorem consumeAll_spec {topic : String} (htopic : topic ∈ allTopics) (group : String)
    (f : InMemoryFabric) :
    ∃ f', consumeAll topic group f =
        (.ok (firsts (consumedKey group) f.consumed (f.topics topic)), f') ∧
      f'.topics topic = [] ∧ (∀ other, other ≠ topic → f'.topics other = f.topics other) ∧
      ∀ k, k ∈ f'.consumed ↔ k ∈ f.consumed ++ (f.topics topic).map (consumedKey group) :=
  consumeAllLoop_spec htopic group _ f (Nat.lt_succ_self _)

end BlueTeam.Fabric
