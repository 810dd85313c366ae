/- GID: BlueTeam/Fabric/Delivery
   generality: I
   source: packages/event-fabric/blueteam_fabric/memory.py
   digest: What a group of consumers receives over every interleaving of calls on a topic. -/

import BlueTeam.Fabric.Memory

set_option autoImplicit false
set_option relaxedAutoImplicit false

namespace BlueTeam.Fabric

open BlueTeam.Python BlueTeam.Lib

/-- The calls on one fabric; every `consume` is on the topic under study. -/
inductive FabricCall
  | publish (message : FabricEnvelope)
  | consume (group : String) (maxRecords : Nat)

/-- A fabric with the batches it has handed out. -/
structure FabricRun where
  fabric : InMemoryFabric := {}
  batches : List (String × List FabricEnvelope) := []

variable (topic : String)

def FabricRun.step (r : FabricRun) : FabricCall → FabricRun
  | .publish message => { r with fabric := (Fabric.publish message r.fabric).2 }
  | .consume group maxRecords =>
      match Fabric.consume topic maxRecords group r.fabric with
      | (.ok batch, f) => { fabric := f, batches := r.batches ++ [(group, batch)] }
      | (.error _, f) => { r with fabric := f }

def runFabric (calls : List FabricCall) : FabricRun :=
  calls.foldl (FabricRun.step topic) {}

/-- The messages published on the topic, in order. -/
def publishedOn (calls : List FabricCall) : List FabricEnvelope :=
  calls.filterMap fun
    | .publish message => if message.topic = topic then some message else none
    | .consume _ _ => none

def FabricRun.delivered (r : FabricRun) : List FabricEnvelope :=
  r.batches.flatMap (·.2)

def FabricRun.receivedBy (r : FabricRun) (group : String) : List FabricEnvelope :=
  (r.batches.filter fun b => b.1 = group).flatMap (·.2)

/-- What holds as long as only one group reads once something is there: it has received the first
occurrences among the messages taken off the queue, and nobody else has received anything. -/
structure Delivering (group : String) (published : List FabricEnvelope) (r : FabricRun) : Prop where
  queue : ∃ removed, published = removed ++ r.fabric.topics topic ∧
    r.receivedBy group = firsts FabricEnvelope.idempotencyKey [] removed ∧
    ∀ k, k ∈ r.fabric.consumed ↔ k ∈ removed.map (consumedKey group)
  all : r.delivered = r.receivedBy group
  others : ∀ g, g ≠ group → r.receivedBy g = []
  lag : r.fabric.lag topic = (r.fabric.topics topic).length

variable {topic}

theorem delivering_start (group : String) : Delivering topic group [] {} where
  queue := ⟨[], rfl, rfl, fun k => by simp⟩
  all := rfl
  others _ _ := rfl
  lag := rfl

theorem Delivering.publish {group : String} {published : List FabricEnvelope} {r : FabricRun}
    (htopic : topic ∈ allTopics) (h : Delivering topic group published r)
    (message : FabricEnvelope) :
    Delivering topic group (published ++ (if message.topic = topic then [message] else []))
      (r.step topic (.publish message)) := by
  obtain ⟨removed, hpublished, hreceived, hconsumed⟩ := h.queue
  by_cases hm : message.topic = topic
  · subst hm
    have hstep : r.step message.topic (.publish message) =
        { r with fabric := r.fabric.append message } := by
      simp [FabricRun.step, Fabric.publish, htopic]
    rw [hstep, if_pos rfl]
    refine ⟨⟨removed, ?_, hreceived, hconsumed⟩, h.all, h.others, ?_⟩
    · rw [append_topics_self, ← List.append_assoc, ← hpublished]
    · simp [InMemoryFabric.append]
  · rw [if_neg hm, List.append_nil]
    by_cases hknown : message.topic ∈ allTopics
    · have hstep : r.step topic (.publish message) =
          { r with fabric := r.fabric.append message } := by
        simp [FabricRun.step, Fabric.publish, hknown]
      rw [hstep]
      refine ⟨⟨removed, ?_, hreceived, hconsumed⟩, h.all, h.others, ?_⟩
      · rw [append_topics_of_ne _ _ hm]
        exact hpublished
      · rw [append_topics_of_ne _ _ hm]
        simp [InMemoryFabric.append, Function.update_of_ne (Ne.symm hm), h.lag]
    · have hstep : r.step topic (.publish message) = r := by
        simp [FabricRun.step, Fabric.publish, hknown]
      rw [hstep]
      exact h

theorem step_consume (htopic : topic ∈ allTopics) (r : FabricRun) (group : String)
    (maxRecords : Nat) :
    r.step topic (.consume group maxRecords) =
      { fabric := r.fabric.take topic maxRecords group
        batches := r.batches ++ [(group, (r.fabric.pull topic maxRecords group).batch)] } := by
  simp [FabricRun.step, Fabric.consume, htopic]

theorem receivedBy_append (r : FabricRun) (f : InMemoryFabric) (group g : String)
    (batch : List FabricEnvelope) :
    FabricRun.receivedBy { fabric := f, batches := r.batches ++ [(group, batch)] } g =
      r.receivedBy g ++ if group = g then batch else [] := by
  unfold FabricRun.receivedBy
  rw [List.filter_append, List.flatMap_append]
  by_cases hg : group = g <;> simp [hg]

theorem delivered_append (r : FabricRun) (f : InMemoryFabric) (group : String)
    (batch : List FabricEnvelope) :
    FabricRun.delivered { fabric := f, batches := r.batches ++ [(group, batch)] } =
      r.delivered ++ batch := by
  simp [FabricRun.delivered]

/-- The group itself reads. -/
theorem Delivering.consume {group : String} {published : List FabricEnvelope} {r : FabricRun}
    (htopic : topic ∈ allTopics) (h : Delivering topic group published r) (maxRecords : Nat) :
    Delivering topic group published (r.step topic (.consume group maxRecords)) := by
  obtain ⟨removed, hpublished, hreceived, hconsumed⟩ := h.queue
  obtain ⟨more, hqueue, hbatch, hseen, -⟩ :=
    pull_spec (consumedKey group) maxRecords r.fabric.consumed (r.fabric.topics topic)
  have hmore : (r.fabric.pull topic maxRecords group).batch =
      firsts FabricEnvelope.idempotencyKey (removed.map FabricEnvelope.idempotencyKey) more := by
    have hmap : removed.map (consumedKey group) =
        (removed.map FabricEnvelope.idempotencyKey).map fun key => group ++ ":" ++ key := by
      rw [List.map_map]
      rfl
    calc (r.fabric.pull topic maxRecords group).batch
        = firsts (consumedKey group) r.fabric.consumed more := hbatch
      _ = firsts (consumedKey group) (removed.map (consumedKey group)) more :=
          firsts_congr hconsumed more
      _ = _ := by
          rw [hmap]
          exact firsts_comp FabricEnvelope.idempotencyKey (consumedKey_injective group) _ more
  rw [step_consume htopic]
  refine ⟨⟨removed ++ more, ?_, ?_, ?_⟩, ?_, ?_, ?_⟩
  · rw [take_topics_self, List.append_assoc, hpublished]
    congr 1
  · rw [receivedBy_append, if_pos rfl, hreceived, hmore, firsts_append, List.nil_append]
  · intro k
    rw [take_consumed, List.map_append, List.mem_append, ← hconsumed k, ← List.mem_append]
    exact hseen k
  · rw [delivered_append, receivedBy_append, if_pos rfl, h.all]
  · intro g hg
    rw [receivedBy_append, if_neg (Ne.symm hg), h.others g hg]
    rfl
  · rw [take_topics_self]
    simp [InMemoryFabric.take]

/-- Another group reads while nothing has been published: it gets nothing. -/
theorem Delivering.consume_early {group other : String} {r : FabricRun}
    (htopic : topic ∈ allTopics) (h : Delivering topic group [] r) (maxRecords : Nat) :
    Delivering topic group [] (r.step topic (.consume other maxRecords)) := by
  obtain ⟨removed, hpublished, hreceived, hconsumed⟩ := h.queue
  obtain ⟨rfl, hnil⟩ := List.append_eq_nil_iff.mp hpublished.symm
  have hpull := pull_empty r.fabric hnil maxRecords other
  rw [step_consume htopic, hpull]
  have hreceived' : ∀ g, FabricRun.receivedBy
      { fabric := r.fabric.take topic maxRecords other
        batches := r.batches ++ [(other, [])] } g = r.receivedBy g := by
    intro g
    rw [receivedBy_append]
    simp
  refine ⟨⟨[], ?_, ?_, ?_⟩, ?_, ?_, ?_⟩
  · rw [take_topics_self, hpull]
    rfl
  · rw [hreceived', hreceived]
  · intro k
    rw [take_consumed, hpull]
    exact hconsumed k
  · rw [delivered_append, hreceived', List.append_nil, h.all]
  · intro g hg
    rw [hreceived', h.others g hg]
  · rw [take_topics_self, hpull]
    simp [InMemoryFabric.take, hpull]

variable (topic)

/-- Only the given group reads from the topic once something has been published on it. -/
def SoleReader (group : String) (calls : List FabricCall) : Prop :=
  ∀ done g n rest, calls = done ++ .consume g n :: rest → g = group ∨ publishedOn topic done = []

variable {topic}

theorem runFabric_delivering (htopic : topic ∈ allTopics) {group : String}
    {calls : List FabricCall} (hsole : SoleReader topic group calls) :
    Delivering topic group (publishedOn topic calls) (runFabric topic calls) := by
  induction calls using List.reverseRecOn with
  | nil => exact delivering_start group
  | append_singleton calls call ih =>
      have hprev : SoleReader topic group calls := by
        intro done g n rest hcalls
        exact hsole done g n (rest ++ [call]) (by simp [hcalls])
      have hrun : runFabric topic (calls ++ [call]) = (runFabric topic calls).step topic call := by
        simp [runFabric]
      have hd := ih hprev
      rw [hrun]
      unfold publishedOn
      rw [List.filterMap_append]
      cases call with
      | publish message =>
          have hone : [FabricCall.publish message].filterMap (fun
              | .publish message => if message.topic = topic then some message else none
              | .consume _ _ => none) = if message.topic = topic then [message] else [] := by
            by_cases hm : message.topic = topic <;> simp [hm]
          rw [hone]
          exact hd.publish htopic message
      | consume g n =>
          rw [List.filterMap_cons_none rfl, List.filterMap_nil, List.append_nil]
          rcases hsole calls g n [] rfl with rfl | hnone
          · exact hd.consume htopic n
          · unfold publishedOn at hnone hd
            rw [hnone] at hd ⊢
            exact hd.consume_early htopic n

/-- An empty batch of a call that asked for something leaves the queue empty. -/
theorem consume_nil (htopic : topic ∈ allTopics) {f f' : InMemoryFabric} {group : String} {n : Nat}
    (hn : 1 ≤ n) (h : consume topic n group f = (.ok [], f')) : f'.topics topic = [] := by
  unfold consume at h
  rw [if_pos htopic] at h
  obtain ⟨hbatch, rfl⟩ := Prod.mk.inj h
  rw [take_topics_self]
  exact pull_rest_of_batch_nil hn (Except.ok.inj hbatch)

/-- One group, one topic: what was delivered are the first occurrences by idempotency key among
the messages taken off the queue, an empty batch means an empty queue, and the lag is the length of
the queue. -/
theorem single_group_delivery {topic : String} (htopic : topic ∈ allTopics) (group : String)
    (calls : List FabricCall) (hcalls : ∀ g n, .consume g n ∈ calls → g = group ∧ 1 ≤ n) :
    (∃ removed,
      publishedOn topic calls = removed ++ (runFabric topic calls).fabric.topics topic ∧
      (runFabric topic calls).delivered = firsts FabricEnvelope.idempotencyKey [] removed) ∧
    (∀ n f, 1 ≤ n → consume topic n group (runFabric topic calls).fabric = (.ok [], f) →
      f.topics topic = []) ∧
    (∃ batch f, consumeAll topic group (runFabric topic calls).fabric = (.ok batch, f) ∧
      f.topics topic = []) ∧
    (runFabric topic calls).fabric.lag topic =
      ((runFabric topic calls).fabric.topics topic).length := by
  have hsole : SoleReader topic group calls := by
    rintro done g n rest rfl
    exact .inl (hcalls g n (by simp)).1
  have hd := runFabric_delivering htopic hsole
  obtain ⟨removed, hpublished, hreceived, -⟩ := hd.queue
  refine ⟨⟨removed, hpublished, hd.all.trans hreceived⟩, ?_, ?_, hd.lag⟩
  · intro n f hn hrun
    exact consume_nil htopic hn hrun
  · obtain ⟨f, hrun, hnil, -⟩ := consumeAll_spec htopic group (runFabric topic calls).fabric
    exact ⟨_, f, hrun, hnil⟩

def sampleMessage (id : String) : FabricEnvelope :=
  { eventId := id
    tenantId := "ten_a"
    topic := rawTopic
    producedAt := sampleRuntime.now 0
    idempotencyKey := rawTopic ++ ":" ++ id }

theorem single_group_delivery_repeated :
    (∃ removed,
      publishedOn rawTopic [.publish (sampleMessage "evt_1"), .publish (sampleMessage "evt_1"),
          .consume "a" 2] =
        removed ++ (runFabric rawTopic [.publish (sampleMessage "evt_1"),
          .publish (sampleMessage "evt_1"), .consume "a" 2]).fabric.topics rawTopic ∧
      (runFabric rawTopic [.publish (sampleMessage "evt_1"), .publish (sampleMessage "evt_1"),
          .consume "a" 2]).delivered = firsts FabricEnvelope.idempotencyKey [] removed) ∧
    (∀ n f, 1 ≤ n → consume rawTopic n "a" (runFabric rawTopic [.publish (sampleMessage "evt_1"),
        .publish (sampleMessage "evt_1"), .consume "a" 2]).fabric = (.ok [], f) →
      f.topics rawTopic = []) ∧
    (∃ batch f, consumeAll rawTopic "a" (runFabric rawTopic [.publish (sampleMessage "evt_1"),
        .publish (sampleMessage "evt_1"), .consume "a" 2]).fabric = (.ok batch, f) ∧
      f.topics rawTopic = []) ∧
    (runFabric rawTopic [.publish (sampleMessage "evt_1"), .publish (sampleMessage "evt_1"),
        .consume "a" 2]).fabric.lag rawTopic =
      ((runFabric rawTopic [.publish (sampleMessage "evt_1"), .publish (sampleMessage "evt_1"),
        .consume "a" 2]).fabric.topics rawTopic).length := by
  refine single_group_delivery (by decide) "a" _ ?_
  intro g n h
  simp at h
  simp [h]

end BlueTeam.Fabric
