/- GID: BlueTeam/Fabric/Isolation
   generality: I
   source: packages/event-fabric/blueteam_fabric/pipeline.py, envelope.py, memory.py
   digest: What the messages of other tenants do to the events of one tenant. -/

import BlueTeam.Fabric.Retry

set_option autoImplicit false
set_option relaxedAutoImplicit false

namespace BlueTeam.Fabric

open BlueTeam.Python BlueTeam.Schema BlueTeam.Lib

/-- The calls on a pipeline. -/
inductive PipelineCall
  | ingest (input : RawInput)
  | drain (group : String)

namespace EventPipeline

variable (p : EventPipeline)

def step (s : PipelineState) : PipelineCall → PipelineState
  | .ingest input => (p.ingestRaw input.stamp input.tenantId input.payload s).2
  | .drain group => (p.drainRaw group s).2

def run (s : PipelineState) (calls : List PipelineCall) : PipelineState :=
  calls.foldl p.step s

/-- The messages that drains take off the queue, each with the group of its drain, when those in
`queue` are there to begin with. -/
def popped (queue : List FabricEnvelope) : List PipelineCall → List (String × FabricEnvelope)
  | [] => []
  | .ingest input :: calls => popped (queue ++ (p.messageOf input).toList) calls
  | .drain group :: calls => queue.map (fun m => (group, m)) ++ popped [] calls

end EventPipeline

/-- The key under which a drained message is marked. -/
def poppedKey (x : String × FabricEnvelope) : String :=
  consumedKey x.1 x.2

/-- A normaliser that never fails: a function of payload and tenant whose events pass the checks. -/
structure Total (p : EventPipeline) (normalize : JsonObject → String → CanonicalEvent) : Prop where
  call : ∀ history payload tenantId,
    p.normalizer history payload tenantId = .ok (normalize payload tenantId)
  tenant : ∀ payload tenantId, (normalize payload tenantId).tenantId = tenantId
  version : ∀ payload tenantId, (normalize payload tenantId).schemaVersion ≠ ""

section

variable {p : EventPipeline} {normalize : JsonObject → String → CanonicalEvent}

def eventOf (normalize : JsonObject → String → CanonicalEvent) (m : FabricEnvelope) :
    CanonicalEvent :=
  normalize m.payload m.tenantId

theorem Total.judge (h : Total p normalize) (history : List NormalizerCall) (m : FabricEnvelope) :
    p.judge history m = .ok (eventOf normalize m) := by
  have htenant := h.tenant m.payload m.tenantId
  have hversion := h.version m.payload m.tenantId
  simp only [EventPipeline.judge, h.call, eventOf]
  show (if _ then _ else _) = _
  rw [if_neg (by simpa using htenant), if_neg hversion]
  rfl

theorem Total.attempts (h : Total p normalize) (history : List NormalizerCall)
    (ms : List FabricEnvelope) :
    normalizedIn (p.attemptsOf history ms) = ms.map (eventOf normalize) ∧
      retriedIn (p.attemptsOf history ms) = [] := by
  induction ms generalizing history with
  | nil => exact ⟨rfl, rfl⟩
  | cons m ms ih =>
      obtain ⟨hnormalized, hretried⟩ := ih (history ++ [callOf m])
      have hout : p.outcomeOf history m = .normalized (eventOf normalize m) := by
        unfold EventPipeline.outcomeOf
        rw [h.judge]
      refine ⟨?_, ?_⟩
      · unfold normalizedIn at hnormalized ⊢
        simp only [EventPipeline.attemptsOf, hout, List.filterMap_cons, hnormalized, List.map_cons]
      · unfold retriedIn at hretried ⊢
        simp only [EventPipeline.attemptsOf, hout, List.filterMap_cons, hretried]

/-- A run normalises the first occurrences among the messages that its drains take. -/
theorem run_normalized (h : Total p normalize) (calls : List PipelineCall) (s : PipelineState)
    (hraw : ∀ m ∈ s.fabric.topics rawTopic, Raw m) :
    (p.run s calls).normalized = s.normalized ++
      (firsts poppedKey s.fabric.consumed (p.popped (s.fabric.topics rawTopic) calls)).map
        (fun x => eventOf normalize x.2) := by
  induction calls generalizing s with
  | nil => simp [EventPipeline.run, EventPipeline.popped, firsts]
  | cons call calls ih =>
      have hrun : p.run s (call :: calls) = p.run (p.step s call) calls := rfl
      rw [hrun]
      cases call with
      | ingest input =>
          have hstate := ingestRaw_state p input s
          cases hm : p.messageOf input with
          | none =>
              rw [hm] at hstate
              have hstep : p.step s (.ingest input) = s := hstate
              rw [hstep, ih s hraw]
              simp [EventPipeline.popped, hm]
          | some m =>
              rw [hm] at hstate
              have hstep : p.step s (.ingest input) = { s with fabric := s.fabric.append m } :=
                hstate
              have htopic := (messageOf_spec hm).1.topic
              have hqueue : (s.fabric.append m).topics rawTopic =
                  s.fabric.topics rawTopic ++ [m] := by
                rw [← htopic]
                exact append_topics_self _ m
              have hraw' : ∀ x ∈ (s.fabric.append m).topics rawTopic, Raw x := by
                intro x hx
                rw [hqueue] at hx
                rcases List.mem_append.mp hx with hx | hx
                · exact hraw x hx
                · obtain rfl : x = m := by simpa using hx
                  exact (messageOf_spec hm).1
              rw [hstep, ih { s with fabric := s.fabric.append m } hraw']
              simp [EventPipeline.popped, hm, hqueue]
      | drain group =>
          obtain ⟨r, s', hdrain, -, hnormalized, hqueue, -, hkeys⟩ := drainRaw_spec p group hraw
          obtain ⟨hevents, hretried⟩ := h.attempts s.history
            (firsts (consumedKey group) s.fabric.consumed (s.fabric.topics rawTopic))
          rw [hretried] at hqueue
          rw [hevents] at hnormalized
          have hstep : p.step s (.drain group) = s' := by
            show (p.drainRaw group s).2 = s'
            rw [hdrain]
          -- The messages of this drain, seen as drained by its group.
          have hfirsts : firsts poppedKey s.fabric.consumed
              ((s.fabric.topics rawTopic).map fun m => (group, m)) =
              (firsts (consumedKey group) s.fabric.consumed (s.fabric.topics rawTopic)).map
                fun m => (group, m) :=
            firsts_map poppedKey (fun m => (group, m)) _ _
          rw [hstep, ih s' (by rw [hqueue]; simp), hnormalized, hqueue]
          simp only [EventPipeline.popped]
          rw [firsts_append, List.map_append, hfirsts, List.map_map, List.append_assoc]
          congr 2
          refine congrArg (List.map _) (firsts_congr ?_ _)
          intro k
          rw [hkeys k, List.map_map]
          rfl

end

/-! ### One tenant's part of a run -/

/-- The run without the other tenants' `ingest_raw` calls. -/
def keepTenant (tenantId : String) (calls : List PipelineCall) : List PipelineCall :=
  calls.filter fun
    | .ingest input => input.tenantId = tenantId
    | .drain _ => true

def ofTenant (tenantId : String) (x : String × FabricEnvelope) : Bool :=
  x.2.tenantId = tenantId

theorem popped_keepTenant (p : EventPipeline) (tenantId : String) (calls : List PipelineCall)
    (queue : List FabricEnvelope) :
    p.popped (queue.filter fun m => m.tenantId = tenantId) (keepTenant tenantId calls) =
      (p.popped queue calls).filter (ofTenant tenantId) := by
  induction calls generalizing queue with
  | nil => rfl
  | cons call calls ih =>
      cases call with
      | ingest input =>
          have hpart : (p.messageOf input).toList.filter (fun m => m.tenantId = tenantId) =
              if input.tenantId = tenantId then (p.messageOf input).toList else [] := by
            cases hm : p.messageOf input with
            | none => simp
            | some m =>
                have ht : m.tenantId = input.tenantId := congrArg Prod.snd (messageOf_spec hm).2.2
                by_cases hi : input.tenantId = tenantId <;> simp [ht, hi]
          have hnext := ih (queue ++ (p.messageOf input).toList)
          rw [List.filter_append, hpart] at hnext
          unfold keepTenant at hnext ⊢
          by_cases hi : input.tenantId = tenantId
          · rw [List.filter_cons_of_pos (by simpa using hi)]
            rw [if_pos hi] at hnext
            exact hnext
          · rw [List.filter_cons_of_neg (by simpa using hi)]
            rw [if_neg hi, List.append_nil] at hnext
            exact hnext
      | drain group =>
          have hnext := ih []
          rw [List.filter_nil] at hnext
          unfold keepTenant at hnext ⊢
          rw [List.filter_cons_of_pos (by rfl)]
          simp only [EventPipeline.popped]
          rw [List.filter_append, hnext, List.filter_map]
          rfl

/-- A tenant's events are those of its own calls alone exactly if no message of the tenant is
drained under a key that another tenant's message has used, unless one of its own had used it
before. -/
theorem tenant_events_unaffected_iff (p : EventPipeline)
    (normalize : JsonObject → String → CanonicalEvent) (h : Total p normalize) (tenantId : String)
    (calls : List PipelineCall) :
    (p.run {} calls).normalized.filter (fun e => e.tenantId = tenantId) =
        (p.run {} (keepTenant tenantId calls)).normalized.filter
          (fun e => e.tenantId = tenantId) ↔
      ∀ pre x post, p.popped [] calls = pre ++ x :: post → x.2.tenantId = tenantId →
        poppedKey x ∈ pre.map poppedKey →
        poppedKey x ∈ (pre.filter fun y => y.2.tenantId = tenantId).map poppedKey := by
  have hevents : ∀ cs, (p.run {} cs).normalized.filter (fun e => e.tenantId = tenantId) =
      ((firsts poppedKey [] (p.popped [] cs)).filter (ofTenant tenantId)).map
        fun x => eventOf normalize x.2 := by
    intro cs
    rw [run_normalized h cs {} (fun m hm => nomatch hm)]
    show List.filter _ ([] ++ _) = _
    rw [List.nil_append, List.filter_map]
    congr 2
    funext x
    simp [ofTenant, eventOf, h.tenant]
  have hpopped := popped_keepTenant p tenantId calls []
  rw [List.filter_nil] at hpopped
  have hown : (firsts poppedKey [] ((p.popped [] calls).filter (ofTenant tenantId))).filter
      (ofTenant tenantId) =
        firsts poppedKey [] ((p.popped [] calls).filter (ofTenant tenantId)) := by
    refine List.filter_eq_self.mpr fun x hx => ?_
    exact (List.mem_filter.mp (mem_of_mem_firsts hx).1).2
  have hiff := firsts_filter_eq_iff poppedKey (ofTenant tenantId) (List.Subset.refl [])
    (p.popped [] calls)
  rw [hevents, hevents, hpopped, hown]
  have hlists : (((firsts poppedKey [] (p.popped [] calls)).filter (ofTenant tenantId)).map
        (fun x => eventOf normalize x.2) =
      (firsts poppedKey [] ((p.popped [] calls).filter (ofTenant tenantId))).map
        (fun x => eventOf normalize x.2)) ↔
      (firsts poppedKey [] (p.popped [] calls)).filter (ofTenant tenantId) =
        firsts poppedKey [] ((p.popped [] calls).filter (ofTenant tenantId)) := by
    constructor
    · intro heq
      have hsub := firsts_filter_sublist poppedKey (ofTenant tenantId) (List.Subset.refl [])
        (p.popped [] calls)
      refine hsub.eq_of_length ?_
      simpa using congrArg List.length heq
    · intro heq
      rw [heq]
  rw [hlists, hiff]
  unfold KeptApart
  simp only [List.nil_append, ofTenant, decide_eq_true_eq]
  rfl

/-- A pipeline whose normaliser never fails. -/
def sampleNormalize (payload : JsonObject) (tenantId : String) : CanonicalEvent :=
  { id := "evt_1"
    tenantId := tenantId
    timestamp := sampleRuntime.now 0
    ingestedAt := sampleRuntime.now 0
    source := "edr"
    sourceType := "endpoint"
    eventType := "endpoint"
    category := "process"
    rawEvent := payload }

def totalPipeline : EventPipeline :=
  { refusingPipeline with
    normalizer := fun _ payload tenantId => .ok (sampleNormalize payload tenantId) }

theorem totalPipeline_total : Total totalPipeline sampleNormalize :=
  ⟨fun _ _ _ => rfl, fun _ _ => rfl, fun _ _ => by show "1.0.0" ≠ ""; decide⟩

/-- Another tenant sends an event with the same id first. -/
def forestalled : List PipelineCall :=
  [.ingest { sampleInput with tenantId := "ten_b" }, .drain "normalizer", .ingest sampleInput,
   .drain "normalizer"]

theorem tenant_event_suppressed :
    (totalPipeline.run {} forestalled).normalized.filter (fun e => e.tenantId = "ten_a") ≠
      (totalPipeline.run {} (keepTenant "ten_a" forestalled)).normalized.filter
        (fun e => e.tenantId = "ten_a") := by
  decide +kernel

theorem tenant_events_unaffected_forestalled :
    (totalPipeline.run {} forestalled).normalized.filter (fun e => e.tenantId = "ten_b") =
        (totalPipeline.run {} (keepTenant "ten_b" forestalled)).normalized.filter
          (fun e => e.tenantId = "ten_b") ↔
      ∀ pre x post, totalPipeline.popped [] forestalled = pre ++ x :: post →
        x.2.tenantId = "ten_b" → poppedKey x ∈ pre.map poppedKey →
        poppedKey x ∈ (pre.filter fun y => y.2.tenantId = "ten_b").map poppedKey :=
  tenant_events_unaffected_iff totalPipeline sampleNormalize totalPipeline_total "ten_b" forestalled

end BlueTeam.Fabric
