/- GID: BlueTeam/Fabric/Retry
   generality: I
   source: packages/event-fabric/blueteam_fabric/pipeline.py
   digest: Which messages survive a failed attempt, over any number of drains. -/

import BlueTeam.Fabric.Pipeline

set_option autoImplicit false
set_option relaxedAutoImplicit false

namespace BlueTeam.Fabric

open BlueTeam.Python BlueTeam.Schema BlueTeam.Lib

/-- A call of `ingest_raw`, with the id and the time it draws. -/
structure RawInput where
  stamp : Stamp
  tenantId : String
  payload : JsonObject

namespace EventPipeline

variable (p : EventPipeline)

/-- The message of a call, if the model does not refuse it. -/
def messageOf (input : RawInput) : Option FabricEnvelope :=
  (envelope p.rt input.stamp rawTopic input.tenantId input.payload
    (Json.get input.payload "id")).toOption

def messagesOf (inputs : List RawInput) : List FabricEnvelope :=
  inputs.filterMap p.messageOf

def ingestAll (inputs : List RawInput) (s : PipelineState) : PipelineState :=
  inputs.foldl (fun s input => (p.ingestRaw input.stamp input.tenantId input.payload s).2) s

/-- Drains by one group, one after the other. -/
def drains (group : String) : Nat → PipelineState → PipelineState
  | 0, s => s
  | n + 1, s => (p.drainRaw group (drains group n s)).2

end EventPipeline

theorem messageOf_spec {p : EventPipeline} {input : RawInput} {m : FabricEnvelope}
    (h : p.messageOf input = some m) :
    Raw m ∧ m.attempt = 0 ∧ callOf m = (input.payload, input.tenantId) := by
  unfold EventPipeline.messageOf envelope at h
  dsimp only at h
  split at h
  · rename_i ht
    obtain rfl := Option.some.inj h
    exact ⟨⟨rfl, ht⟩, rfl, rfl⟩
  · cases h

/-- `ingest_raw` only puts its message into the queue. -/
theorem ingestRaw_state (p : EventPipeline) (input : RawInput) (s : PipelineState) :
    (p.ingestRaw input.stamp input.tenantId input.payload s).2 =
      match p.messageOf input with
      | some m => { s with fabric := s.fabric.append m }
      | none => s := by
  unfold EventPipeline.ingestRaw EventPipeline.messageOf
  cases he : envelope p.rt input.stamp rawTopic input.tenantId input.payload
      (Json.get input.payload "id") with
  | error e => rfl
  | ok m =>
      have hm : p.messageOf input = some m := by
        unfold EventPipeline.messageOf
        rw [he]
        rfl
      have hknown : m.topic ∈ allTopics := by
        rw [(messageOf_spec hm).1.topic]
        exact rawTopic_known
      simp only [Exec.bind_run, Exec.lift, Exec.andThen, publish_run hknown, Exec.pure_run]
      rfl

theorem ingestAll_spec (p : EventPipeline) (inputs : List RawInput) (s : PipelineState) :
    (p.ingestAll inputs s).attempts = s.attempts ∧
      (p.ingestAll inputs s).fabric.topics rawTopic =
        s.fabric.topics rawTopic ++ p.messagesOf inputs ∧
      (p.ingestAll inputs s).fabric.consumed = s.fabric.consumed ∧
      (p.ingestAll inputs s).normalized = s.normalized ∧
      (p.ingestAll inputs s).fabric.topics deadLetterTopic =
        s.fabric.topics deadLetterTopic := by
  induction inputs generalizing s with
  | nil => simp [EventPipeline.ingestAll, EventPipeline.messagesOf]
  | cons input inputs ih =>
      obtain ⟨hattempts, hraw, hconsumed, hnormalized, hdead⟩ :=
        ih (p.ingestRaw input.stamp input.tenantId input.payload s).2
      have hstep : p.ingestAll (input :: inputs) s =
          p.ingestAll inputs (p.ingestRaw input.stamp input.tenantId input.payload s).2 := rfl
      rw [hstep, hattempts, hraw, hconsumed, hnormalized, hdead, ingestRaw_state]
      unfold EventPipeline.messagesOf
      cases hm : p.messageOf input with
      | none => simp [hm]
      | some m =>
          have htopic := (messageOf_spec hm).1.topic
          have hqueue : (s.fabric.append m).topics rawTopic =
              s.fabric.topics rawTopic ++ [m] := by
            rw [← htopic]
            exact append_topics_self _ m
          have hother : (s.fabric.append m).topics deadLetterTopic =
              s.fabric.topics deadLetterTopic :=
            append_topics_of_ne _ _ (by rw [htopic]; decide)
          simp [hm, hqueue, hother]

namespace EventPipeline

variable (p : EventPipeline)

theorem attemptsOf_append (history : List NormalizerCall) (ms ns : List FabricEnvelope) :
    p.attemptsOf history (ms ++ ns) =
      p.attemptsOf history ms ++ p.attemptsOf (history ++ ms.map callOf) ns := by
  induction ms generalizing history with
  | nil => simp [attemptsOf]
  | cons m ms ih => simp [attemptsOf, ih]

end EventPipeline

/-! ### The state after any number of drains -/

/-- Nothing new is in the queue: what is left there was consumed before. The events and the dead
letters are those of the attempts. -/
structure Spent (rt : Runtime) (group : String) (done : List Attempt) (s : PipelineState) :
    Prop where
  attempts : s.attempts = done
  normalized : s.normalized = normalizedIn done
  dead : s.fabric.topics deadLetterTopic = deadLettersIn rt done
  queue : ∀ m ∈ s.fabric.topics rawTopic, Raw m ∧ consumedKey group m ∈ s.fabric.consumed

theorem Spent.drain {p : EventPipeline} {group : String} {done : List Attempt}
    {s : PipelineState} (h : Spent p.rt group done s) :
    Spent p.rt group done (p.drainRaw group s).2 := by
  obtain ⟨r, s', hrun, hattempts, hnormalized, hraw, hdead, -⟩ :=
    drainRaw_spec p group (fun m hm => (h.queue m hm).1)
  have hnone : firsts (consumedKey group) s.fabric.consumed (s.fabric.topics rawTopic) = [] :=
    firsts_eq_nil fun m hm => (h.queue m hm).2
  rw [hnone] at hattempts hnormalized hraw hdead
  rw [hrun]
  refine ⟨?_, ?_, ?_, ?_⟩
  · rw [hattempts, EventPipeline.attemptsOf, List.append_nil, h.attempts]
  · rw [hnormalized, h.normalized]
    exact List.append_nil _
  · rw [hdead, h.dead]
    exact List.append_nil _
  intro m hm
  rw [hraw] at hm
  cases hm

/-- The first drain attempts every message once; its retries carry keys that are consumed. -/
theorem first_drain (p : EventPipeline) (group : String) (inputs : List RawInput)
    (hkeys : ((p.messagesOf inputs).map FabricEnvelope.idempotencyKey).Nodup) :
    Spent p.rt group (p.attemptsOf [] (p.messagesOf inputs))
      (p.drainRaw group (p.ingestAll inputs {})).2 := by
  obtain ⟨hattempts, hqueue, hconsumed, hnormalized, hdead⟩ := ingestAll_spec p inputs {}
  rw [show ({} : PipelineState).fabric.topics rawTopic = [] from rfl, List.nil_append] at hqueue
  have hmsgs : ∀ m ∈ p.messagesOf inputs, Raw m := by
    intro m hm
    obtain ⟨input, -, hinput⟩ := List.mem_filterMap.mp hm
    exact (messageOf_spec hinput).1
  obtain ⟨r, s', hrun, hattempts', hnormalized', hraw, hdead', hkeys'⟩ := drainRaw_spec p group
    (s := p.ingestAll inputs {}) (fun m hm => hmsgs m (hqueue ▸ hm))
  have hall : firsts (consumedKey group) (p.ingestAll inputs {}).fabric.consumed
      ((p.ingestAll inputs {}).fabric.topics rawTopic) = p.messagesOf inputs := by
    rw [hqueue, hconsumed]
    exact (firsts_consumedKey group _).trans (firsts_eq_self hkeys (by simp))
  have hhistory : (p.ingestAll inputs {}).history = [] := by
    unfold PipelineState.history
    rw [hattempts]
    rfl
  rw [hall, hhistory] at hattempts' hnormalized' hraw hdead'
  rw [hrun]
  refine ⟨?_, ?_, ?_, ?_⟩
  · rw [hattempts', hattempts]
    rfl
  · rw [hnormalized', hnormalized]
    rfl
  · rw [hdead', hdead]
    rfl
  intro m hm
  rw [hraw] at hm
  obtain ⟨a, ha, hretry⟩ := List.mem_filterMap.mp hm
  have hmem : a.message ∈ p.messagesOf inputs := by
    rw [← p.attemptsOf_messages [] (p.messagesOf inputs)]
    exact List.mem_map_of_mem ha
  split at hretry
  · obtain rfl := Option.some.inj hretry
    refine ⟨⟨(hmsgs _ hmem).topic, (hmsgs _ hmem).tenant⟩, ?_⟩
    rw [hkeys', hqueue, List.mem_append]
    exact .inr (List.mem_map.mpr ⟨a.message, hmem, rfl⟩)
  · cases hretry

theorem drains_attempts (p : EventPipeline) (group : String) (inputs : List RawInput)
    (hkeys : ((p.messagesOf inputs).map FabricEnvelope.idempotencyKey).Nodup) (n : Nat) :
    Spent p.rt group (p.attemptsOf [] (p.messagesOf inputs))
      (p.drains group (n + 1) (p.ingestAll inputs {})) := by
  induction n with
  | zero => exact first_drain p group inputs hkeys
  | succ n ih => exact ih.drain

/-! ### Lost messages -/

def Outcome.isNormalized : Outcome → Bool
  | .normalized _ => true
  | _ => false

def Outcome.isDeadLettered : Outcome → Bool
  | .deadLettered _ => true
  | _ => false

/-- The attempts on the message with this idempotency key. -/
def PipelineState.attemptsAt (s : PipelineState) (m : FabricEnvelope) : List Attempt :=
  s.attempts.filter fun a => a.message.idempotencyKey = m.idempotencyKey

/-- A message was normalised once or dead-lettered once, and dead-lettered only after as many
failed attempts as are allowed. -/
structure SettledOnce (p : EventPipeline) (s : PipelineState) (m : FabricEnvelope) : Prop where
  once : ((s.attemptsAt m).countP (·.outcome.isNormalized) = 1 ∧
      (s.attemptsAt m).countP (·.outcome.isDeadLettered) = 0) ∨
    ((s.attemptsAt m).countP (·.outcome.isNormalized) = 0 ∧
      (s.attemptsAt m).countP (·.outcome.isDeadLettered) = 1)
  fair : 0 < (s.attemptsAt m).countP (·.outcome.isDeadLettered) →
    p.maxAttempts ≤ (s.attemptsAt m).countP (!·.outcome.isNormalized)

theorem filter_key_eq {α κ : Type} [DecidableEq κ] {key : α → κ} {as : List α}
    (hnodup : (as.map key).Nodup) {a : α} (ha : a ∈ as) :
    (as.filter fun x => key x = key a) = [a] := by
  induction as with
  | nil => cases ha
  | cons b as ih =>
      rw [List.map_cons, List.nodup_cons] at hnodup
      rcases List.mem_cons.mp ha with rfl | ha
      · have hnone : (as.filter fun x => key x = key a) = [] := by
          rw [List.filter_eq_nil_iff]
          intro x hx hk
          exact hnodup.1 (of_decide_eq_true hk ▸ List.mem_map_of_mem hx)
        rw [List.filter_cons_of_pos (by simp), hnone]
      · have hne : key b ≠ key a := fun h => hnodup.1 (h ▸ List.mem_map_of_mem ha)
        rw [List.filter_cons_of_neg (by simpa using hne)]
        exact ih hnodup.2 ha

/-- With one attempt, a message is settled if it was accepted, or dead-lettered at once. -/
theorem settledOnce_iff {p : EventPipeline} {s : PipelineState} {m : FabricEnvelope} {a : Attempt}
    (h : s.attemptsAt m = [a]) :
    SettledOnce p s m ↔ a.outcome.isNormalized = true ∨
      a.outcome.isDeadLettered = true ∧ p.maxAttempts ≤ 1 := by
  constructor
  · intro hs
    have honce := hs.once
    have hfair := hs.fair
    rw [h] at honce hfair
    cases ho : a.outcome with
    | normalized event => exact .inl rfl
    | retried => simp [ho, Outcome.isNormalized, Outcome.isDeadLettered] at honce
    | deadLettered e =>
        simp [ho, Outcome.isNormalized, Outcome.isDeadLettered] at hfair
        exact .inr ⟨rfl, hfair⟩
  · intro ho
    refine ⟨?_, ?_⟩
    · rw [h]
      cases hout : a.outcome <;>
        simp [hout, Outcome.isNormalized, Outcome.isDeadLettered] at ho ⊢
    · rw [h]
      cases hout : a.outcome <;>
        simp [hout, Outcome.isNormalized, Outcome.isDeadLettered] at ho ⊢
      exact ho

/-- The outcome of the first attempt on a message as `ingest_raw` makes it. -/
theorem outcome_settles_iff {p : EventPipeline} (hmax : 1 ≤ p.maxAttempts)
    {history : List NormalizerCall} {m : FabricEnvelope} (hm : m.attempt = 0) :
    ((p.outcomeOf history m).isNormalized = true ∨
      (p.outcomeOf history m).isDeadLettered = true ∧ p.maxAttempts ≤ 1) ↔
      p.maxAttempts = 1 ∨ (p.judge history m).isOk = true := by
  unfold EventPipeline.outcomeOf
  cases p.judge history m with
  | ok event => simp [Outcome.isNormalized, Except.isOk, Except.toBool]
  | error e =>
      dsimp only
      rw [hm]
      split
      · rename_i hle
        simp [Outcome.isNormalized, Outcome.isDeadLettered, Except.isOk, Except.toBool]
        omega
      · rename_i hle
        simp [Outcome.isNormalized, Outcome.isDeadLettered, Except.isOk, Except.toBool]
        omega

/-- No message is lost, however many drains follow, exactly if a failed message is dead-lettered at
once or no first attempt fails. -/
theorem no_message_lost_iff (p : EventPipeline) (group : String) (inputs : List RawInput)
    (hmax : 1 ≤ p.maxAttempts)
    (hkeys : ((p.messagesOf inputs).map FabricEnvelope.idempotencyKey).Nodup) :
    (∃ N, ∀ n, N ≤ n → ∀ m ∈ p.messagesOf inputs,
      SettledOnce p (p.drains group n (p.ingestAll inputs {})) m) ↔
    p.maxAttempts = 1 ∨ ∀ pre m post, p.messagesOf inputs = pre ++ m :: post →
      (p.judge (pre.map callOf) m).isOk = true := by
  have hone : ∀ n pre m post, p.messagesOf inputs = pre ++ m :: post →
      (SettledOnce p (p.drains group (n + 1) (p.ingestAll inputs {})) m ↔
        p.maxAttempts = 1 ∨ (p.judge (pre.map callOf) m).isOk = true) := by
    intro n pre m post hsplit
    have hmem : m ∈ p.messagesOf inputs := by
      rw [hsplit]
      simp
    obtain ⟨input, -, hinput⟩ := List.mem_filterMap.mp hmem
    have hattempt : (⟨m, p.outcomeOf (pre.map callOf) m⟩ : Attempt) ∈
        p.attemptsOf [] (p.messagesOf inputs) := by
      rw [hsplit, p.attemptsOf_append]
      simp [EventPipeline.attemptsOf]
    have hnodup : ((p.attemptsOf [] (p.messagesOf inputs)).map
        fun a => a.message.idempotencyKey).Nodup := by
      rw [← p.attemptsOf_messages [] (p.messagesOf inputs), List.map_map] at hkeys
      exact hkeys
    have hat : (p.drains group (n + 1) (p.ingestAll inputs {})).attemptsAt m =
        [⟨m, p.outcomeOf (pre.map callOf) m⟩] := by
      unfold PipelineState.attemptsAt
      rw [(drains_attempts p group inputs hkeys n).attempts]
      exact filter_key_eq hnodup hattempt
    rw [settledOnce_iff hat]
    exact outcome_settles_iff hmax (messageOf_spec hinput).2.1
  constructor
  · rintro ⟨N, hN⟩
    by_cases hmax1 : p.maxAttempts = 1
    · exact .inl hmax1
    · right
      intro pre m post hsplit
      have hmem : m ∈ p.messagesOf inputs := by
        rw [hsplit]
        simp
      have hset := hN (N + 1) (by omega) m hmem
      exact ((hone N pre m post hsplit).mp hset).resolve_left hmax1
  · intro hcond
    refine ⟨1, fun n hn m hm => ?_⟩
    obtain ⟨n, rfl⟩ : ∃ k, n = k + 1 := ⟨n - 1, by omega⟩
    obtain ⟨pre, post, hsplit⟩ := List.append_of_mem hm
    refine (hone n pre m post hsplit).mpr ?_
    rcases hcond with h | h
    · exact .inl h
    · exact .inr (h pre m post hsplit)

def sampleInput : RawInput :=
  { stamp := ⟨"evt_0", sampleRuntime.now 0⟩, tenantId := "ten_a", payload := [("id", .str "evt_1")] }

/-- A pipeline with three attempts, the default, whose normaliser refuses everything. -/
def refusingPipeline : EventPipeline :=
  { rt := sampleRuntime
    normalizer := fun _ _ _ => .error (.valueError "boom")
    modelDump := fun _ => []
    stamps := fun n => ⟨"evt_" ++ toString n, sampleRuntime.now n⟩ }

/-- Its one message is attempted once and is then neither normalised nor dead-lettered. -/
theorem refused_message_lost :
    ((refusingPipeline.messagesOf [sampleInput]).map FabricEnvelope.idempotencyKey).Nodup ∧
    ¬ ∃ N, ∀ n, N ≤ n → ∀ m ∈ refusingPipeline.messagesOf [sampleInput],
      SettledOnce refusingPipeline
        (refusingPipeline.drains "normalizer" n (refusingPipeline.ingestAll [sampleInput] {})) m := by
  have hkeys : ((refusingPipeline.messagesOf [sampleInput]).map
      FabricEnvelope.idempotencyKey).Nodup := by
    decide +kernel
  refine ⟨hkeys, ?_⟩
  rintro ⟨N, hN⟩
  have hattempts := (drains_attempts refusingPipeline "normalizer" [sampleInput] hkeys N).attempts
  obtain ⟨m, hm⟩ := List.exists_mem_of_ne_nil (refusingPipeline.messagesOf [sampleInput])
    (by decide +kernel)
  have hlost : ∀ m ∈ refusingPipeline.messagesOf [sampleInput],
      ((refusingPipeline.attemptsOf [] (refusingPipeline.messagesOf [sampleInput])).filter
        fun a => a.message.idempotencyKey = m.idempotencyKey).countP
          (·.outcome.isNormalized) = 0 ∧
      ((refusingPipeline.attemptsOf [] (refusingPipeline.messagesOf [sampleInput])).filter
        fun a => a.message.idempotencyKey = m.idempotencyKey).countP
          (·.outcome.isDeadLettered) = 0 := by
    decide +kernel
  have honce := (hN (N + 1) (by omega) m hm).once
  unfold PipelineState.attemptsAt at honce
  rw [hattempts, (hlost m hm).1, (hlost m hm).2] at honce
  omega

/-- The same normaliser with a single attempt. -/
def oncePipeline : EventPipeline :=
  { refusingPipeline with maxAttempts := 1 }

theorem no_message_lost_oncePipeline :
    (∃ N, ∀ n, N ≤ n → ∀ m ∈ oncePipeline.messagesOf [sampleInput],
      SettledOnce oncePipeline
        (oncePipeline.drains "normalizer" n (oncePipeline.ingestAll [sampleInput] {})) m) ↔
    oncePipeline.maxAttempts = 1 ∨
      ∀ pre m post, oncePipeline.messagesOf [sampleInput] = pre ++ m :: post →
        (oncePipeline.judge (pre.map callOf) m).isOk = true :=
  no_message_lost_iff oncePipeline "normalizer" [sampleInput] (by decide) (by decide +kernel)

end BlueTeam.Fabric
