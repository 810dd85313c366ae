/- GID: BlueTeam/Fabric/Kafka
   generality: I
   source: packages/event-fabric/blueteam_fabric/kafka.py, memory.py, topics.py
   digest: The fabric over a Kafka cluster: what each group receives, and what a raise loses. -/

import BlueTeam.Fabric.Delivery
import BlueTeam.Lib.Joined
import BlueTeam.Lib.Resume

set_option autoImplicit false
set_option relaxedAutoImplicit false

namespace BlueTeam.Fabric

open BlueTeam.Python BlueTeam.Lib

/-- A record of a topic, as a consumer gets it. -/
structure Record where
  key : String
  value : Json
  deriving DecidableEq

/-- The cluster: one partition a topic, and the offset that each group has committed on it. -/
structure Cluster where
  logs : String → List Record := fun _ => []
  offsets : String → String → Nat := fun _ _ => 0

/-- pydantic's two directions of `FabricEnvelope`. -/
structure Codec where
  modelDump : FabricEnvelope → JsonObject
  modelValidate : JsonObject → Except Exn FabricEnvelope

/-- The fabric, with the cluster that it is connected to. -/
structure KafkaFabric where
  cluster : Cluster := {}
  consumed : List String := []

/-- What the cluster does with a call of `consume`: how many of the records asked for it hands out,
and the error it answers the commit with. -/
structure Answer where
  records : Nat
  refusal : Option Exn := none

/-- `payload.get("idempotency_key")` in an f-string -/
def Record.idempotencyKey (rt : Runtime) (record : Record) : String :=
  match record.value with
  | .obj payload => (Json.get payload "idempotency_key").text rt
  | _ => ""

namespace KafkaFabric

def send (f : KafkaFabric) (topic : String) (record : Record) : KafkaFabric :=
  let logs := Function.update f.cluster.logs topic (f.cluster.logs topic ++ [record])
  { f with cluster := { f.cluster with logs := logs } }

def record (codec : Codec) (message : FabricEnvelope) : Record where
  key := if message.partitionKey = "" then message.tenantId else message.partitionKey
  value := .obj (codec.modelDump message)

def publish (codec : Codec) (message : FabricEnvelope) : Exec KafkaFabric Exn String := do
  Exec.modify fun f => f.send message.topic (record codec message)
  pure message.eventId

def deadLetter (codec : Codec) (message : FabricEnvelope) (reason : String) :
    Exec KafkaFabric Exn String :=
  publish codec (poisoned message reason)

/-- One turn of the loop over the polled records. -/
def takeUp (rt : Runtime) (codec : Codec) (group : String) (batch : List FabricEnvelope)
    (record : Record) : Exec KafkaFabric Exn (List FabricEnvelope) := do
  let payload ← Exec.lift record.value.asDict
  let key := group ++ ":" ++ (Json.get payload "idempotency_key").text rt
  let consumed ← Exec.gets KafkaFabric.consumed
  if key ∈ consumed then pure batch
  else do
    Exec.modify fun f => { f with consumed := key :: f.consumed }
    let message ← Exec.lift (codec.modelValidate payload)
    pure (batch ++ [message])

/-- `consumer.poll`: the records from the group's offset on, at most `max_records` of them. -/
def poll (f : KafkaFabric) (topic : String) (maxRecords : Nat) (group : String) (answer : Answer) :
    List Record :=
  ((f.cluster.logs topic).drop (f.cluster.offsets group topic)).take
    (min answer.records maxRecords)

/-- `consumer.commit`: the offset of the group is set behind the records it was handed. -/
def committed (f : KafkaFabric) (topic group : String) (offset : Nat) : KafkaFabric :=
  let ofGroup := Function.update (f.cluster.offsets group) topic offset
  let offsets := Function.update f.cluster.offsets group ofGroup
  { f with cluster := { f.cluster with offsets := offsets } }

def consume (rt : Runtime) (codec : Codec) (topic : String) (maxRecords : Nat) (group : String)
    (answer : Answer) : Exec KafkaFabric Exn (List FabricEnvelope) := do
  let offset ← Exec.gets fun f => f.cluster.offsets group topic
  let records ← Exec.gets fun f => f.poll topic maxRecords group answer
  let batch ← Exec.loop (takeUp rt codec group) [] records
  match answer.refusal with
  | some e => Exec.raise e
  | none => do
      Exec.modify fun f => f.committed topic group (offset + records.length)
      pure batch

end KafkaFabric

/-! ### Runs -/

/-- The calls on one fabric object, and the records that other producers write. -/
inductive KafkaCall
  | publish (message : FabricEnvelope)
  | deadLetter (message : FabricEnvelope) (reason : String)
  | write (topic : String) (record : Record)
  | consume (topic : String) (maxRecords : Nat) (group : String) (answer : Answer)

/-- How a group takes up the records: a value that is no object raises before its key is known, an
envelope that is not valid raises after its key is marked. -/
def Intake.ofGroup (rt : Runtime) (codec : Codec) (group : String) :
    Intake Record FabricEnvelope String Exn where
  refuses record := match record.value.asDict with
    | .ok _ => none
    | .error e => some e
  key record := group ++ ":" ++ record.idempotencyKey rt
  value record := record.value.asDict >>= codec.modelValidate

/-- What a call of `consume` takes up, and the keys it has marked by its end. -/
def KafkaFabric.sifted (rt : Runtime) (codec : Codec) (f : KafkaFabric) (topic : String)
    (maxRecords : Nat) (group : String) (answer : Answer) : Sifted FabricEnvelope String Exn :=
  (Intake.ofGroup rt codec group).sift f.consumed (f.poll topic maxRecords group answer)

/-- A call of `consume` that has ended: the messages it had taken up by then, and whether it
returned them. -/
structure KafkaRead where
  group : String
  taken : List FabricEnvelope
  returned : Bool

structure KafkaRun where
  fabric : KafkaFabric
  reads : List KafkaRead := []

def KafkaRun.step (rt : Runtime) (codec : Codec) (r : KafkaRun) : KafkaCall → KafkaRun
  | .publish message => { r with fabric := (KafkaFabric.publish codec message r.fabric).2 }
  | .deadLetter message reason =>
      { r with fabric := (KafkaFabric.deadLetter codec message reason r.fabric).2 }
  | .write topic record => { r with fabric := r.fabric.send topic record }
  | .consume topic maxRecords group answer =>
      match KafkaFabric.consume rt codec topic maxRecords group answer r.fabric with
      | (.ok batch, f) => { fabric := f, reads := r.reads ++ [⟨group, batch, true⟩] }
      | (.error _, f) =>
          let taken := (r.fabric.sifted rt codec topic maxRecords group answer).taken
          { fabric := f, reads := r.reads ++ [⟨group, taken, false⟩] }

def runKafka (rt : Runtime) (codec : Codec) (f : KafkaFabric) (calls : List KafkaCall) : KafkaRun :=
  calls.foldl (KafkaRun.step rt codec) { fabric := f }

/-- The messages that calls of the group returned. -/
def KafkaRun.receivedBy (r : KafkaRun) (group : String) : List FabricEnvelope :=
  (r.reads.filter fun read => read.group = group ∧ read.returned).flatMap KafkaRead.taken

/-- The messages that calls of the group had taken up when they raised. -/
def KafkaRun.lostTo (r : KafkaRun) (group : String) : List FabricEnvelope :=
  (r.reads.filter fun read => read.group = group ∧ !read.returned).flatMap KafkaRead.taken

/-! ### A call of `consume` -/

section

variable {rt : Runtime} {codec : Codec}

theorem idempotencyKey_of_asDict (rt : Runtime) {record : Record} {payload : JsonObject}
    (h : record.value.asDict = .ok payload) :
    record.idempotencyKey rt = (Json.get payload "idempotency_key").text rt := by
  obtain ⟨key, value⟩ := record
  cases value with
  | obj fields =>
      cases h
      rfl
  | _ => cases h

/-- The loop takes up what a read of the records with the fabric's keys takes up. -/
theorem loop_takeUp (rt : Runtime) (codec : Codec) (group : String) (batch : List FabricEnvelope) (records : List Record)
    (f : KafkaFabric) :
    Exec.loop (KafkaFabric.takeUp rt codec group) batch records f =
      (((Intake.ofGroup rt codec group).sift f.consumed records).result.map (batch ++ ·),
        { f with consumed := ((Intake.ofGroup rt codec group).sift f.consumed records).seen }) := by
  induction records generalizing batch f with
  | nil => simp [Exec.loop, Intake.sift, Sifted.result, Except.map]
  | cons record records ih =>
      cases hdict : record.value.asDict with
      | error e =>
          simp [Exec.loop, KafkaFabric.takeUp, Exec.bind_run, Exec.andThen, Exec.lift, hdict,
            Intake.sift, Intake.ofGroup, Sifted.result, Except.map]
      | ok payload =>
          have hkey := idempotencyKey_of_asDict rt hdict
          by_cases hseen : group ++ ":" ++ record.idempotencyKey rt ∈ f.consumed
          · have hturn : KafkaFabric.takeUp rt codec group batch record f = (.ok batch, f) := by
              rw [hkey] at hseen
              simp [KafkaFabric.takeUp, Exec.bind_run, Exec.andThen, Exec.lift, hdict, Exec.gets,
                hseen]
            have hsift : (Intake.ofGroup rt codec group).sift f.consumed (record :: records) =
                (Intake.ofGroup rt codec group).sift f.consumed records := by
              simp [Intake.sift, Intake.ofGroup, hdict, hseen]
            rw [Exec.loop, Exec.bind_run, hturn, hsift]
            exact ih batch f
          · have hunseen : group ++ ":" ++ (Json.get payload "idempotency_key").text rt ∉
                f.consumed := hkey ▸ hseen
            cases hvalid : codec.modelValidate payload with
            | error e =>
                -- The key stays marked although the message is not taken up.
                have hturn : KafkaFabric.takeUp rt codec group batch record f =
                    (.error e, { f with
                      consumed := (group ++ ":" ++ record.idempotencyKey rt) :: f.consumed }) := by
                  simp [KafkaFabric.takeUp, Exec.bind_run, Exec.andThen, Exec.lift, hdict,
                    Exec.gets, Exec.modify, hunseen, hvalid, hkey]
                  rfl
                rw [Exec.loop, Exec.bind_run, hturn]
                simp [Exec.andThen, Intake.sift, Intake.ofGroup, hdict, hseen, hvalid, bind,
                  Except.bind, Sifted.result, Except.map]
            | ok message =>
                have hturn : KafkaFabric.takeUp rt codec group batch record f =
                    (.ok (batch ++ [message]), { f with
                      consumed := (group ++ ":" ++ record.idempotencyKey rt) :: f.consumed }) := by
                  simp [KafkaFabric.takeUp, Exec.bind_run, Exec.andThen, Exec.lift, hdict,
                    Exec.gets, Exec.modify, hunseen, hvalid, hkey]
                  rfl
                rw [Exec.loop, Exec.bind_run, hturn]
                show Exec.loop _ (batch ++ [message]) records _ = _
                rw [ih]
                simp only [Intake.sift, Intake.ofGroup, hdict, hseen, hvalid, bind, Except.bind,
                  if_false, Sifted.result]
                split <;> simp [Except.map]

section

variable (rt codec) (f : KafkaFabric) (topic : String) (maxRecords : Nat) (group : String)
  (answer : Answer)

/-- Where no record raises and the commit is taken, the call returns what it has taken up. -/
theorem consume_returns (herror : (f.sifted rt codec topic maxRecords group answer).error = none)
    (hrefusal : answer.refusal = none) :
    KafkaFabric.consume rt codec topic maxRecords group answer f =
      (.ok (f.sifted rt codec topic maxRecords group answer).taken,
        KafkaFabric.committed
          { f with consumed := (f.sifted rt codec topic maxRecords group answer).seen } topic group
          (f.cluster.offsets group topic + (f.poll topic maxRecords group answer).length)) := by
  have hloop := loop_takeUp rt codec group []
    (f.poll topic maxRecords group answer) f
  have hresult : ((Intake.ofGroup rt codec group).sift f.consumed
      (f.poll topic maxRecords group answer)).result =
        .ok (f.sifted rt codec topic maxRecords group answer).taken := by
    unfold Sifted.result
    unfold KafkaFabric.sifted at herror
    rw [herror]
    rfl
  rw [hresult] at hloop
  unfold KafkaFabric.consume
  simp only [Exec.bind_run, Exec.gets, Exec.andThen, hloop, hrefusal, Except.map, List.nil_append,
    Exec.modify, Exec.pure_run]
  rfl

/-- Otherwise it raises, and all that stays of it are the keys. -/
theorem consume_raises (h : (f.sifted rt codec topic maxRecords group answer).error ≠ none ∨
      answer.refusal ≠ none) :
    ∃ e, KafkaFabric.consume rt codec topic maxRecords group answer f =
      (.error e, { f with
        consumed := (f.sifted rt codec topic maxRecords group answer).seen }) := by
  have hloop := loop_takeUp rt codec group []
    (f.poll topic maxRecords group answer) f
  unfold KafkaFabric.consume
  simp only [Exec.bind_run, Exec.gets, Exec.andThen, hloop]
  cases herror : (f.sifted rt codec topic maxRecords group answer).error with
  | some e =>
      refine ⟨e, ?_⟩
      unfold KafkaFabric.sifted at herror ⊢
      simp [Sifted.result, herror, Except.map]
  | none =>
      rcases h with h | h
      · exact absurd herror h
      · obtain ⟨e, he⟩ := Option.ne_none_iff_exists'.mp h
        refine ⟨e, ?_⟩
        unfold KafkaFabric.sifted at herror ⊢
        simp [Sifted.result, herror, Except.map, he, Exec.raise]

/-- A call of `consume` in a run: it marks the keys it has come to, whether it returns or not, and
only where it returns may the offset move on. -/
theorem step_kafkaConsume (r : KafkaRun) :
    ∃ returned offset, r.step rt codec (.consume topic maxRecords group answer) =
        { fabric := KafkaFabric.committed
            { r.fabric with
              consumed := (r.fabric.sifted rt codec topic maxRecords group answer).seen }
            topic group offset
          reads := r.reads ++
            [⟨group, (r.fabric.sifted rt codec topic maxRecords group answer).taken, returned⟩] } ∧
      (offset = r.fabric.cluster.offsets group topic ∨
        (r.fabric.sifted rt codec topic maxRecords group answer).error = none ∧
        offset = r.fabric.cluster.offsets group topic +
          (r.fabric.poll topic maxRecords group answer).length) ∧
      ((r.fabric.sifted rt codec topic maxRecords group answer).error = none →
        answer.refusal = none → returned = true) := by
  by_cases h : (r.fabric.sifted rt codec topic maxRecords group answer).error = none ∧
      answer.refusal = none
  · refine ⟨true, _, ?_, .inr ⟨h.1, rfl⟩, fun _ _ => rfl⟩
    simp only [KafkaRun.step]
    rw [consume_returns rt codec r.fabric topic maxRecords group answer h.1 h.2]
  · obtain ⟨e, hrun⟩ := consume_raises rt codec r.fabric topic maxRecords group answer
      (not_and_or.mp h)
    refine ⟨false, r.fabric.cluster.offsets group topic, ?_, .inl rfl, fun h₁ h₂ =>
      absurd ⟨h₁, h₂⟩ h⟩
    simp only [KafkaRun.step]
    rw [hrun]
    simp [KafkaFabric.committed]

end

end

/-! ### A group that reads one topic -/

/-- The keys that a group marks. -/
def OwnKey (group k : String) : Prop :=
  ∃ key, k = group ++ ":" ++ key

/-- Groups without a colon in their names have no key in common. -/
theorem not_ownKey {group other : String} (hgroup : ':' ∉ group.toList)
    (hother : ':' ∉ other.toList) (hne : other ≠ group) (key : String) :
    ¬ OwnKey group (other ++ ":" ++ key) := by
  rintro ⟨key', hkeys⟩
  have hchars := congrArg String.toList hkeys
  simp only [String.toList_append, List.append_assoc] at hchars
  exact hne (String.toList_injective ((joined_inj hother hgroup).mp hchars).1)

/-- Apart from the group's own calls, which are all on the topic, a call may be anything. -/
def KafkaCall.Suits (group topic : String) : KafkaCall → Prop
  | .consume t _ g _ => ':' ∉ g.toList ∧ (g = group → t = topic)
  | _ => True

/-- What the group's calls have taken up, whether they returned it or not. -/
def KafkaRun.takenBy (r : KafkaRun) (group : String) : List FabricEnvelope :=
  (r.reads.filter fun read => read.group = group).flatMap KafkaRead.taken

/-- The group stands at a frontier of the part of the log behind the offset it started from. -/
structure Reading (rt : Runtime) (codec : Codec) (group topic : String) (base : Nat)
    (r : KafkaRun) : Prop where
  base_le : base ≤ (r.fabric.cluster.logs topic).length
  offset_ge : base ≤ r.fabric.cluster.offsets group topic
  frontier : ∃ done, (Intake.ofGroup rt codec group).Frontier (OwnKey group)
    ((r.fabric.cluster.logs topic).drop base) (r.fabric.cluster.offsets group topic - base)
    r.fabric.consumed (r.takenBy group) done

section

variable {rt : Runtime} {codec : Codec} {group topic : String} {base : Nat} {r : KafkaRun}

theorem ownKey_ofGroup (record : Record) :
    OwnKey group ((Intake.ofGroup rt codec group).key record) :=
  ⟨_, rfl⟩

theorem reading_start (rt : Runtime) (codec : Codec) {f : KafkaFabric} (hfresh : f.consumed = [])
    (hbase : f.cluster.offsets group topic ≤ (f.cluster.logs topic).length) :
    Reading rt codec group topic (f.cluster.offsets group topic) { fabric := f } where
  base_le := hbase
  offset_ge := Nat.le_refl _
  frontier := by
    refine ⟨[], ?_⟩
    rw [Nat.sub_self]
    refine Intake.Frontier.start _ fun k _ => ?_
    show k ∉ f.consumed
    rw [hfresh]
    exact List.not_mem_nil

theorem Reading.send (h : Reading rt codec group topic base r) (t : String) (record : Record) :
    Reading rt codec group topic base { r with fabric := r.fabric.send t record } := by
  obtain ⟨done, hdone⟩ := h.frontier
  by_cases ht : t = topic
  · subst ht
    have hlog : (r.fabric.send t record).cluster.logs t = r.fabric.cluster.logs t ++ [record] :=
      Function.update_self _ _ _
    refine ⟨?_, h.offset_ge, done, ?_⟩
    · rw [hlog, List.length_append]
      exact Nat.le_add_right_of_le h.base_le
    · show (Intake.ofGroup rt codec group).Frontier _ (((r.fabric.send t record).cluster.logs t).drop
        base) _ _ _ _
      rw [hlog, List.drop_append_of_le_length h.base_le]
      exact hdone.append [record]
  · have hlog : (r.fabric.send t record).cluster.logs topic = r.fabric.cluster.logs topic :=
      Function.update_of_ne (Ne.symm ht) _ _
    refine ⟨?_, h.offset_ge, done, ?_⟩
    · rw [hlog]
      exact h.base_le
    · show (Intake.ofGroup rt codec group).Frontier _
        (((r.fabric.send t record).cluster.logs topic).drop base) _ _ _ _
      rw [hlog]
      exact hdone

theorem takenBy_append (f : KafkaFabric) (read : KafkaRead) :
    KafkaRun.takenBy { fabric := f, reads := r.reads ++ [read] } group =
      r.takenBy group ++ if read.group = group then read.taken else [] := by
  unfold KafkaRun.takenBy
  rw [List.filter_append, List.flatMap_append]
  by_cases hg : read.group = group <;> simp [hg]

/-- The group itself reads. -/
theorem Reading.consume (h : Reading rt codec group topic base r) (maxRecords : Nat)
    (answer : Answer) :
    Reading rt codec group topic base (r.step rt codec (.consume topic maxRecords group answer)) := by
  obtain ⟨returned, offset, hstep, hoffset, -⟩ :=
    step_kafkaConsume rt codec topic maxRecords group answer r
  obtain ⟨done, hdone⟩ := h.frontier
  have hge := h.offset_ge
  have hpoll : r.fabric.poll topic maxRecords group answer =
      (((r.fabric.cluster.logs topic).drop base).drop
        (r.fabric.cluster.offsets group topic - base)).take (min answer.records maxRecords) := by
    rw [List.drop_drop, Nat.add_sub_cancel' hge]
    rfl
  obtain ⟨done', hdone', hend⟩ := hdone.read_on ownKey_ofGroup (min answer.records maxRecords)
  rw [← hpoll] at hdone' hend
  rw [hstep]
  have hcommitted : base ≤ offset ∧ offset - base ≤ done'.length := by
    rcases hoffset with rfl | ⟨hnone, rfl⟩
    · exact ⟨hge, hdone'.reached⟩
    · have hreached := hend hnone
      omega
  have hsame : (KafkaFabric.committed
      { r.fabric with
        consumed := (r.fabric.sifted rt codec topic maxRecords group answer).seen }
      topic group offset).cluster.offsets group topic = offset := by
    simp [KafkaFabric.committed]
  refine ⟨h.base_le, ?_, done', ?_⟩
  · rw [hsame]
    exact hcommitted.1
  · rw [hsame, takenBy_append, if_pos rfl]
    exact hdone'.commit hcommitted.2

/-- Another group reads; it marks keys of its own and moves its own offset. -/
theorem Reading.consume_other (h : Reading rt codec group topic base r)
    (hgroup : ':' ∉ group.toList) {other : String} (hother : ':' ∉ other.toList)
    (hne : other ≠ group) (t : String) (maxRecords : Nat) (answer : Answer) :
    Reading rt codec group topic base (r.step rt codec (.consume t maxRecords other answer)) := by
  obtain ⟨returned, offset, hstep, -⟩ := step_kafkaConsume rt codec t maxRecords other answer r
  obtain ⟨done, hdone⟩ := h.frontier
  obtain ⟨d, -, -, -, -, hseen, -⟩ := (Intake.ofGroup rt codec other).sift_spec r.fabric.consumed
    (r.fabric.poll t maxRecords other answer)
  rw [hstep]
  have hsame : (KafkaFabric.committed
      { r.fabric with consumed := (r.fabric.sifted rt codec t maxRecords other answer).seen }
      t other offset).cluster.offsets group topic = r.fabric.cluster.offsets group topic := by
    simp [KafkaFabric.committed, Function.update_of_ne (Ne.symm hne)]
  refine ⟨h.base_le, ?_, done, ?_⟩
  · rw [hsame]
    exact h.offset_ge
  · rw [hsame, takenBy_append, if_neg hne, List.append_nil]
    refine hdone.idle fun k hk => (hseen k).trans ?_
    rw [List.mem_append]
    refine or_iff_left_of_imp fun hmem => ?_
    obtain ⟨record, -, rfl⟩ := List.mem_map.mp hmem
    exact absurd hk (not_ownKey hgroup hother hne _)

theorem Reading.step (h : Reading rt codec group topic base r) (hgroup : ':' ∉ group.toList)
    {call : KafkaCall} (hcall : call.Suits group topic) :
    Reading rt codec group topic base (r.step rt codec call) := by
  cases call with
  | publish message => exact h.send _ _
  | deadLetter message reason => exact h.send _ _
  | write t record => exact h.send t record
  | consume t maxRecords g answer =>
      by_cases hg : g = group
      · subst hg
        obtain rfl := hcall.2 rfl
        exact h.consume maxRecords answer
      · exact h.consume_other hgroup hcall.1 hg t maxRecords answer

theorem Reading.run (h : Reading rt codec group topic base r) (hgroup : ':' ∉ group.toList)
    {calls : List KafkaCall} (hcalls : ∀ call ∈ calls, call.Suits group topic) :
    Reading rt codec group topic base (calls.foldl (KafkaRun.step rt codec) r) := by
  induction calls generalizing r with
  | nil => exact h
  | cons call calls ih =>
      obtain ⟨hcall, hcalls⟩ := List.forall_mem_cons.mp hcalls
      exact ih (h.step hgroup hcall) hcalls

end

/-- The valid messages among some records, each idempotency key once. -/
def firstMessages (rt : Runtime) (codec : Codec) (records : List Record) : List FabricEnvelope :=
  (firsts (Record.idempotencyKey rt) [] records).filterMap fun record =>
    (record.value.asDict >>= codec.modelValidate).toOption

theorem values_ofGroup (rt : Runtime) (codec : Codec) (group : String) (records : List Record) :
    (Intake.ofGroup rt codec group).values [] records = firstMessages rt codec records := by
  unfold Intake.values firstMessages
  have hkeys : firsts (Intake.ofGroup rt codec group).key [] records =
      firsts (Record.idempotencyKey rt) [] records :=
    firsts_comp (Record.idempotencyKey rt) (consumedKey_injective group) [] records
  rw [hkeys]
  rfl

section

variable (r : KafkaRun) (group : String)

theorem receivedBy_eq : r.receivedBy group =
    ((r.reads.filter fun read => read.group = group).filter KafkaRead.returned).flatMap
      KafkaRead.taken := by
  unfold KafkaRun.receivedBy
  rw [List.filter_filter]
  simp [Bool.and_comm]

theorem lostTo_eq : r.lostTo group =
    ((r.reads.filter fun read => read.group = group).filter fun read => !read.returned).flatMap
      KafkaRead.taken := by
  unfold KafkaRun.lostTo
  rw [List.filter_filter]
  simp [Bool.and_comm]

theorem receivedBy_sublist : (r.receivedBy group).Sublist (r.takenBy group) := by
  rw [receivedBy_eq]
  exact flatMap_filter_sublist _ _ _

/-- A group has received all it has taken up exactly if nothing was lost to it. -/
theorem receivedBy_eq_takenBy_iff :
    r.receivedBy group = r.takenBy group ↔ r.lostTo group = [] := by
  rw [receivedBy_eq, lostTo_eq]
  exact flatMap_filter_eq_iff _ _ _

end

/-- What a group has received are valid messages in the order of the log, each key at most once. -/
theorem kafka_received_sublist (rt : Runtime) (codec : Codec) {f : KafkaFabric}
    {group topic : String} {calls : List KafkaCall} (hfresh : f.consumed = [])
    (hbase : f.cluster.offsets group topic ≤ (f.cluster.logs topic).length)
    (hgroup : ':' ∉ group.toList) (hcalls : ∀ call ∈ calls, call.Suits group topic) :
    ((runKafka rt codec f calls).receivedBy group).Sublist
      (firstMessages rt codec (((runKafka rt codec f calls).fabric.cluster.logs topic).drop
        (f.cluster.offsets group topic))) := by
  obtain ⟨done, hdone⟩ := ((reading_start rt codec hfresh hbase).run hgroup hcalls).frontier
  have hprefix := hdone.taken_prefix
  rw [values_ofGroup] at hprefix
  exact (receivedBy_sublist _ group).trans hprefix.sublist

/-- Once its offset is at the end of the log, it has got all of them exactly if nothing was lost. -/
theorem kafka_received_iff (rt : Runtime) (codec : Codec) {f : KafkaFabric}
    {group topic : String} {calls : List KafkaCall} (hfresh : f.consumed = [])
    (hbase : f.cluster.offsets group topic ≤ (f.cluster.logs topic).length)
    (hgroup : ':' ∉ group.toList) (hcalls : ∀ call ∈ calls, call.Suits group topic)
    (hend : (runKafka rt codec f calls).fabric.cluster.offsets group topic =
      ((runKafka rt codec f calls).fabric.cluster.logs topic).length) :
    (runKafka rt codec f calls).receivedBy group =
        firstMessages rt codec (((runKafka rt codec f calls).fabric.cluster.logs topic).drop
          (f.cluster.offsets group topic)) ↔
      (runKafka rt codec f calls).lostTo group = [] := by
  obtain ⟨done, hdone⟩ := ((reading_start rt codec hfresh hbase).run hgroup hcalls).frontier
  have hall := hdone.taken_all (by
    rw [List.length_drop]
    exact congrArg (· - _) hend)
  rw [values_ofGroup] at hall
  rw [← receivedBy_eq_takenBy_iff]
  exact Eq.congr_right hall.symm

/-- What a call publishes itself. -/
def KafkaCall.sent : KafkaCall → Option FabricEnvelope
  | .publish message => some message
  | .deadLetter message reason => some (poisoned message reason)
  | _ => none

/-- The messages that the calls publish on the topic, in order. -/
def sentTo (topic : String) (calls : List KafkaCall) : List FabricEnvelope :=
  (calls.filterMap KafkaCall.sent).filter fun message => message.topic = topic

/-- No other producer writes to the topic, and the commits of the group are taken. -/
def KafkaCall.Undisturbed (group topic : String) : KafkaCall → Prop
  | .write t _ => t ≠ topic
  | .consume _ _ g answer => g = group → answer.refusal = none
  | _ => True

/-- pydantic reads back what it has dumped of the message, its key among it. -/
structure Codec.ReadsBack (codec : Codec) (message : FabricEnvelope) : Prop where
  validates : codec.modelValidate (codec.modelDump message) = .ok message
  key : Json.get (codec.modelDump message) "idempotency_key" = .str message.idempotencyKey

section

variable {rt : Runtime} {codec : Codec} {group topic : String} {r : KafkaRun}

theorem logs_step {call : KafkaCall} (hcall : call.Undisturbed group topic) :
    (r.step rt codec call).fabric.cluster.logs topic =
      r.fabric.cluster.logs topic ++
        ((call.sent.toList.filter fun message => message.topic = topic).map
          (KafkaFabric.record codec)) := by
  have hsend : ∀ message : FabricEnvelope,
      (r.fabric.send message.topic (KafkaFabric.record codec message)).cluster.logs topic =
        r.fabric.cluster.logs topic ++
          (([message].filter fun message => message.topic = topic).map
            (KafkaFabric.record codec)) := by
    intro message
    by_cases ht : message.topic = topic
    · subst ht
      simp [KafkaFabric.send]
    · simp [KafkaFabric.send, Function.update_of_ne (Ne.symm ht), ht]
  cases call with
  | publish message => exact hsend message
  | deadLetter message reason => exact hsend (poisoned message reason)
  | write t record =>
      simp [KafkaRun.step, KafkaFabric.send, KafkaCall.sent, Function.update_of_ne (Ne.symm hcall)]
  | consume t maxRecords g answer =>
      obtain ⟨returned, offset, hstep, -⟩ := step_kafkaConsume rt codec t maxRecords g answer r
      rw [hstep]
      simp [KafkaFabric.committed, KafkaCall.sent]

theorem logs_run {calls : List KafkaCall} (hcalls : ∀ call ∈ calls, call.Undisturbed group topic) :
    (calls.foldl (KafkaRun.step rt codec) r).fabric.cluster.logs topic =
      r.fabric.cluster.logs topic ++ (sentTo topic calls).map (KafkaFabric.record codec) := by
  induction calls generalizing r with
  | nil => simp [sentTo]
  | cons call calls ih =>
      obtain ⟨hcall, hcalls⟩ := List.forall_mem_cons.mp hcalls
      rw [List.foldl_cons, ih hcalls, logs_step hcall]
      unfold sentTo
      cases hsent : call.sent with
      | none => simp [hsent]
      | some message =>
          by_cases ht : message.topic = topic <;> simp [hsent, ht]

theorem asDict_of_valid {record : Record} {message : FabricEnvelope}
    (h : record.value.asDict >>= codec.modelValidate = .ok message) :
    (Intake.ofGroup rt codec group).refuses record = none := by
  obtain ⟨payload, hdict, -⟩ := except_of_bind h
  simp [Intake.ofGroup, hdict]

/-- The record holds a message that pydantic accepts. -/
def Record.Valid (codec : Codec) (record : Record) : Prop :=
  ∃ message, record.value.asDict >>= codec.modelValidate = .ok message

theorem Codec.ReadsBack.valid {message : FabricEnvelope} (h : codec.ReadsBack message) :
    (KafkaFabric.record codec message).Valid codec :=
  ⟨message, h.validates⟩

/-- A call of the group returns if the topic holds valid messages only. -/
theorem returned_step {call : KafkaCall}
    (hlog : ∀ record ∈ r.fabric.cluster.logs topic, record.Valid codec)
    (hreads : ∀ read ∈ r.reads, read.group = group → read.returned = true)
    (hsuits : call.Suits group topic) (hcall : call.Undisturbed group topic) :
    ∀ read ∈ (r.step rt codec call).reads, read.group = group → read.returned = true := by
  cases call with
  | publish message => exact hreads
  | deadLetter message reason => exact hreads
  | write t record => exact hreads
  | consume t maxRecords g answer =>
      obtain ⟨returned, offset, hstep, -, hreturned⟩ :=
        step_kafkaConsume rt codec t maxRecords g answer r
      rw [hstep]
      intro read hread hgroup
      rcases List.mem_append.mp hread with hold | hnew
      · exact hreads read hold hgroup
      · obtain rfl := List.mem_singleton.mp hnew
        obtain rfl : g = group := hgroup
        obtain rfl := hsuits.2 rfl
        have hpolled : ∀ record ∈ r.fabric.poll t maxRecords g answer, record.Valid codec := by
          intro record hrecord
          exact hlog record (List.mem_of_mem_drop (List.mem_of_mem_take hrecord))
        refine hreturned (Intake.sift_error_none (fun record hrecord => ?_) hpolled _) (hcall rfl)
        obtain ⟨message, hvalid⟩ := hpolled record hrecord
        exact asDict_of_valid hvalid

theorem returned_run {calls : List KafkaCall}
    (hlog : ∀ record ∈ r.fabric.cluster.logs topic, record.Valid codec)
    (hreads : ∀ read ∈ r.reads, read.group = group → read.returned = true)
    (hsuits : ∀ call ∈ calls, call.Suits group topic)
    (hcalls : ∀ call ∈ calls, call.Undisturbed group topic)
    (hsent : ∀ message ∈ sentTo topic calls, codec.ReadsBack message) :
    ∀ read ∈ (calls.foldl (KafkaRun.step rt codec) r).reads, read.group = group →
      read.returned = true := by
  induction calls generalizing r with
  | nil => exact hreads
  | cons call calls ih =>
      obtain ⟨hsuit, hsuits⟩ := List.forall_mem_cons.mp hsuits
      obtain ⟨hcall, hcalls⟩ := List.forall_mem_cons.mp hcalls
      have hsplit : sentTo topic (call :: calls) =
          (call.sent.toList.filter fun message => message.topic = topic) ++ sentTo topic calls := by
        unfold sentTo
        cases hsent : call.sent <;> simp [hsent, List.filter_cons]
        split <;> simp
      rw [hsplit] at hsent
      refine ih ?_ (returned_step hlog hreads hsuit hcall) hsuits hcalls fun message hmessage =>
        hsent message (List.mem_append_right _ hmessage)
      intro record hrecord
      rw [logs_step hcall] at hrecord
      rcases List.mem_append.mp hrecord with hold | hnew
      · exact hlog record hold
      · obtain ⟨message, hmessage, rfl⟩ := List.mem_map.mp hnew
        exact (hsent message (List.mem_append_left _ hmessage)).valid

/-- Of messages that pydantic reads back, the first ones by key arrive as they were sent. -/
theorem firstMessages_sent {messages : List FabricEnvelope}
    (h : ∀ message ∈ messages, codec.ReadsBack message) :
    firstMessages rt codec (messages.map (KafkaFabric.record codec)) =
      firsts FabricEnvelope.idempotencyKey [] messages := by
  have hkey : ∀ message ∈ messages,
      (KafkaFabric.record codec message).idempotencyKey rt = message.idempotencyKey := by
    intro message hmessage
    show (Json.get (codec.modelDump message) "idempotency_key").text rt = _
    rw [(h message hmessage).key]
    rfl
  unfold firstMessages
  rw [firsts_map, List.filterMap_map, firsts_congr_key hkey]
  have hvalue : ∀ message ∈ firsts FabricEnvelope.idempotencyKey [] messages,
      ((KafkaFabric.record codec message).value.asDict >>= codec.modelValidate).toOption =
        some message := by
    intro message hmessage
    have hvalid : (KafkaFabric.record codec message).value.asDict >>= codec.modelValidate =
        .ok message := (h message (mem_of_mem_firsts hmessage).1).validates
    rw [hvalid]
    rfl
  exact (List.filterMap_congr hvalue).trans List.filterMap_some

end

def sampleText (fields : JsonObject) (name : String) : Except Exn String :=
  match fields.lookup name with
  | some (.str text) => .ok text
  | found => .error (.validationError "FabricEnvelope" [(name, found)])

/-- pydantic for the messages of the examples, all of which are made at one time. -/
def sampleCodec : Codec where
  modelDump message :=
    [("event_id", .str message.eventId), ("tenant_id", .str message.tenantId),
     ("schema_version", .str message.schemaVersion), ("topic", .str message.topic),
     ("produced_at", .str "2024-01-02T03:02:05Z"),
     ("idempotency_key", .str message.idempotencyKey), ("payload", .obj message.payload),
     ("attempt", .int message.attempt), ("poison", .bool message.poison),
     ("partition_key", .str message.partitionKey)]
  modelValidate fields := do
    let eventId ← sampleText fields "event_id"
    let tenantId ← sampleText fields "tenant_id"
    let schemaVersion ← sampleText fields "schema_version"
    let topic ← sampleText fields "topic"
    let idempotencyKey ← sampleText fields "idempotency_key"
    let partitionKey ← sampleText fields "partition_key"
    if tenantId.startsWith "ten_" ∧ schemaVersion ≠ "" then
      pure
        { eventId := eventId
          tenantId := tenantId
          schemaVersion := schemaVersion
          topic := topic
          producedAt := sampleRuntime.now 0
          idempotencyKey := idempotencyKey
          partitionKey := partitionKey }
    else throw (.validationError "FabricEnvelope" [("tenant_id", some (.str tenantId))])

/-- Two messages, a record without a tenant, and the message of before once more. The first call
raises at that record and the second comes to the end of the log. -/
def lossyCalls : List KafkaCall :=
  [.publish (sampleMessage "evt_1"), .publish (sampleMessage "evt_2"),
   .write rawTopic ⟨"", .obj [("idempotency_key", .str "evt_3")]⟩,
   .publish (sampleMessage "evt_4"), .consume rawTopic 100 "b" ⟨100, none⟩,
   .consume rawTopic 100 "b" ⟨100, none⟩]

def sampleCalls : List FabricCall :=
  [.publish (sampleMessage "evt_1"), .publish (sampleMessage "evt_1"),
   .publish (sampleMessage "evt_2"), .consume "a" 5]

/-- The same messages, which two groups read in batches of other sizes. -/
def sampleKafkaCalls : List KafkaCall :=
  [.publish (sampleMessage "evt_1"), .consume rawTopic 5 "c" ⟨5, none⟩,
   .publish (sampleMessage "evt_1"), .consume rawTopic 5 "b" ⟨1, none⟩,
   .publish (sampleMessage "evt_2"), .consume rawTopic 5 "b" ⟨5, none⟩]

theorem sampleMessage_readsBack (id : String) : sampleCodec.ReadsBack (sampleMessage id) where
  validates := by
    simp [sampleCodec, sampleMessage, sampleText, List.lookup_cons, bind, Except.bind]
    rfl
  key := rfl

end BlueTeam.Fabric
