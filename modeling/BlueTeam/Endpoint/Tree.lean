/- GID: BlueTeam/Endpoint/Tree
   generality: I
   source: packages/endpoint-adapters/blueteam_endpoint/process_tree.py
   digest: The process tree of the telemetry, in whatever order it comes. -/

import BlueTeam.Python.Dict
import BlueTeam.Schema.Event

set_option autoImplicit false
set_option relaxedAutoImplicit false

namespace BlueTeam.Endpoint

open BlueTeam.Python BlueTeam.Schema

structure Node where
  id : String
  eventId : Option String
  name : Option String
  pid : Option Int
  path : Option String
  commandLine : Option String
  host : Option String
  timestamp : String
  inferredFromChild : Bool := false
  deriving DecidableEq, Repr

structure Edge where
  parent : String
  child : String
  eventId : String
  deriving DecidableEq, Repr

structure Tree where
  nodes : List Node
  edges : List Edge
  manufacturedEdges : Bool := false
  deriving DecidableEq, Repr

/-- `process and (process.pid or process.name)` -/
def identified (process : Option CanonicalProcess) : Bool :=
  process.any fun p => p.pid.getD 0 ≠ 0 || given p.name

/-- `event.host.id or event.host.name if event.host else "host"`, as an f-string shows it. -/
def hostText (event : CanonicalEvent) : String :=
  match event.host with
  | some host => showText (firstGiven host.id host.name)
  | none => "host"

/-- `_node_id` -/
def nodeId (event : CanonicalEvent) : String :=
  let name := match event.process with
    | some process => showText process.name
    | none => "unknown"
  match event.process.bind (·.pid) with
  | some pid => hostText event ++ ":" ++ toString pid ++ ":" ++ name
  | none => hostText event ++ ":" ++ event.id ++ ":" ++ name

/-- `_parent_id` -/
def parentId (event : CanonicalEvent) : Option String :=
  if identified event.parentProcess then
    event.parentProcess.map fun parent =>
      match parent.pid with
      | some pid => hostText event ++ ":" ++ toString pid ++ ":" ++ orText parent.name "parent"
      | none => hostText event ++ ":name:" ++ showText parent.name
  else none

/-- The node of an event. -/
def nodeOf (event : CanonicalEvent) : Node where
  id := nodeId event
  eventId := some event.id
  name := event.process.bind (·.name)
  pid := event.process.bind (·.pid)
  path := event.process.bind (·.path)
  commandLine := event.process.bind (·.commandLine)
  host := event.host.bind (·.name)
  timestamp := event.timestamp.isoformat

/-- The placeholder for the parent that an event names. -/
def placeholder (event : CanonicalEvent) (parent : String) : Node where
  id := parent
  eventId := none
  name := event.parentProcess.bind (·.name)
  pid := event.parentProcess.bind (·.pid)
  path := event.parentProcess.bind (·.path)
  commandLine := event.parentProcess.bind (·.commandLine)
  host := event.host.bind (·.name)
  timestamp := event.timestamp.isoformat
  inferredFromChild := true

/-- The dictionary of the nodes and the list of the edges, while the events stream by. -/
structure Building where
  nodes : Dict String Node := []
  edges : List Edge := []

/-- One turn of the loop. -/
def addEvent (b : Building) (event : CanonicalEvent) : Building :=
  if identified event.process then
    let nodes := b.nodes.set (nodeId event) (nodeOf event)
    match parentId event with
    | none => { b with nodes := nodes }
    | some parent =>
        { nodes :=
            if (nodes.get? parent).isNone then nodes.set parent (placeholder event parent) else nodes
          edges := b.edges ++
            [{ parent := parent, child := nodeId event, eventId := event.id }] }
  else b

def buildProcessTree (events : List CanonicalEvent) : Tree :=
  let b := events.foldl addEvent {}
  { nodes := b.nodes.values, edges := b.edges }

/-! ### What the tree should be -/

/-- The edge of an event with an identified process and an identified parent. -/
def edgeOf (event : CanonicalEvent) : Option Edge :=
  if identified event.process then
    (parentId event).map fun parent =>
      { parent := parent, child := nodeId event, eventId := event.id }
  else none

/-- An event of the list has the node. -/
def Observed (events : List CanonicalEvent) (id : String) : Prop :=
  ∃ event ∈ events, identified event.process = true ∧ nodeId event = id

/-- An event of the list has the node, or names it as its parent. -/
def Mentioned (events : List CanonicalEvent) (id : String) : Prop :=
  ∃ event ∈ events, identified event.process = true ∧
    (nodeId event = id ∨ parentId event = some id)

/-- The tree tells what the events say, and no more. -/
structure Faithful (events : List CanonicalEvent) (tree : Tree) : Prop where
  distinct : (tree.nodes.map Node.id).Nodup
  edges : tree.edges = events.filterMap edgeOf
  ends : ∀ edge ∈ tree.edges,
    edge.parent ∈ tree.nodes.map Node.id ∧ edge.child ∈ tree.nodes.map Node.id
  mentioned : ∀ id, id ∈ tree.nodes.map Node.id ↔ Mentioned events id
  inferred : ∀ node ∈ tree.nodes, node.inferredFromChild = true ↔ ¬ Observed events node.id

/-- The ids of the nodes that were only inferred. -/
def Tree.inferredIds (tree : Tree) : List String :=
  (tree.nodes.filter (·.inferredFromChild)).map Node.id

/-- Two trees with the same node ids, the same inferred ids and the same edges. -/
structure SameTree (a b : Tree) : Prop where
  nodes : ∀ id, id ∈ a.nodes.map Node.id ↔ id ∈ b.nodes.map Node.id
  inferred : ∀ id, id ∈ a.inferredIds ↔ id ∈ b.inferredIds
  edges : a.edges.Perm b.edges

/-! ### The loop -/

section

variable {events : List CanonicalEvent} {event : CanonicalEvent} {b : Building} {id : String}

theorem observed_append :
    Observed (events ++ [event]) id ↔
      Observed events id ∨ (identified event.process = true ∧ nodeId event = id) := by
  simp only [Observed, List.mem_append, List.mem_singleton, or_and_right, exists_or,
    exists_eq_left]

theorem mentioned_append :
    Mentioned (events ++ [event]) id ↔ Mentioned events id ∨
      (identified event.process = true ∧ (nodeId event = id ∨ parentId event = some id)) := by
  simp only [Mentioned, List.mem_append, List.mem_singleton, or_and_right, exists_or,
    exists_eq_left]

/-- Nodes under their own ids, for the ids that are named; those that were not seen are inferred. -/
structure Nodes (seen named : String → Prop) (nodes : Dict String Node) : Prop where
  distinct : nodes.keys.Nodup
  keyed : ∀ entry ∈ nodes, entry.2.id = entry.1
  named : ∀ id, id ∈ nodes.keys ↔ named id
  inferred : ∀ entry ∈ nodes, entry.2.inferredFromChild = true ↔ ¬ seen entry.1

variable {seen named : String → Prop} {nodes : Dict String Node}

theorem Nodes.observe (h : Nodes seen named nodes) {node : Node}
    (hreal : node.inferredFromChild = false) :
    Nodes (fun id => seen id ∨ node.id = id) (fun id => named id ∨ node.id = id)
      (nodes.set node.id node) where
  distinct := Dict.nodup_keys_set h.distinct _ _
  keyed entry hentry := by
    rcases (Dict.mem_set_iff h.distinct).mp hentry with rfl | ⟨hold, -⟩
    · rfl
    · exact h.keyed entry hold
  named id := by rw [Dict.mem_keys_set, h.named id, eq_comm]
  inferred entry hentry := by
    rcases (Dict.mem_set_iff h.distinct).mp hentry with rfl | ⟨hold, hne⟩
    · simp [hreal]
    · rw [h.inferred entry hold, or_iff_left (Ne.symm hne)]

theorem Nodes.infer (h : Nodes seen named nodes) (hseen : ∀ id, seen id → named id) {node : Node}
    (hinferred : node.inferredFromChild = true) (hfresh : ¬ named node.id) :
    Nodes seen (fun id => named id ∨ node.id = id) (nodes.set node.id node) where
  distinct := Dict.nodup_keys_set h.distinct _ _
  keyed entry hentry := by
    rcases (Dict.mem_set_iff h.distinct).mp hentry with rfl | ⟨hold, -⟩
    · rfl
    · exact h.keyed entry hold
  named id := by rw [Dict.mem_keys_set, h.named id, eq_comm]
  inferred entry hentry := by
    rcases (Dict.mem_set_iff h.distinct).mp hentry with rfl | ⟨hold, -⟩
    · exact ⟨fun _ hin => hfresh (hseen _ hin), fun _ => hinferred⟩
    · exact h.inferred entry hold

theorem Nodes.congr {seen' named' : String → Prop} (h : Nodes seen named nodes)
    (hseen : ∀ id, seen id ↔ seen' id) (hnamed : ∀ id, named id ↔ named' id) :
    Nodes seen' named' nodes where
  distinct := h.distinct
  keyed := h.keyed
  named id := (h.named id).trans (hnamed id)
  inferred entry hentry := (h.inferred entry hentry).trans (not_congr (hseen entry.1))

/-- What the loop has built of the events that it has read. -/
structure Built (events : List CanonicalEvent) (b : Building) : Prop where
  nodes : Nodes (Observed events) (Mentioned events) b.nodes
  edges : b.edges = events.filterMap edgeOf

theorem built_nil : Built [] {} where
  nodes :=
    { distinct := .nil
      keyed := fun _ h => nomatch h
      named := fun _ => ⟨nofun, fun ⟨_, h, _⟩ => (nomatch h)⟩
      inferred := fun _ h => nomatch h }
  edges := rfl

theorem mentioned_of_observed (h : Observed events id) : Mentioned events id := by
  obtain ⟨event, hmem, hidentified, hid⟩ := h
  exact ⟨event, hmem, hidentified, .inl hid⟩

theorem Built.step (h : Built events b) (event : CanonicalEvent) :
    Built (events ++ [event]) (addEvent b event) := by
  have hedges : (events ++ [event]).filterMap edgeOf =
      b.edges ++ (edgeOf event).toList := by
    rw [List.filterMap_append, h.edges]
    cases hedge : edgeOf event <;> simp [hedge]
  by_cases hidentified : identified event.process = true
  · have hseen : ∀ id, Observed events id ∨ (nodeOf event).id = id ↔
        Observed (events ++ [event]) id := by
      intro id
      rw [observed_append]
      simp [hidentified, nodeOf]
    have hobserved := @Nodes.observe _ _ _ h.nodes (nodeOf event) rfl
    have hedge : edgeOf event = (parentId event).map fun parent =>
        { parent := parent, child := nodeId event, eventId := event.id } := by
      rw [edgeOf, if_pos hidentified]
    rw [hedge] at hedges
    unfold addEvent
    rw [if_pos hidentified]
    dsimp only
    cases hparent : parentId event with
    | none =>
        rw [hparent] at hedges
        refine ⟨hobserved.congr hseen fun id => ?_, by rw [hedges]; simp⟩
        rw [mentioned_append]
        simp [hidentified, hparent, nodeOf]
    | some parent =>
        rw [hparent] at hedges
        have hnamed : ∀ id, (Mentioned events id ∨ (nodeOf event).id = id) ∨ parent = id ↔
            Mentioned (events ++ [event]) id := by
          intro id
          rw [mentioned_append]
          simp [hidentified, hparent, nodeOf, or_assoc]
        refine ⟨?_, by rw [hedges]; rfl⟩
        dsimp only
        split
        · rename_i hfresh
          rw [Dict.get?_isNone_iff] at hfresh
          refine (@Nodes.infer _ _ _ hobserved ?_ (placeholder event parent) rfl ?_).congr
            hseen hnamed
          · rintro id (hold | hnew)
            · exact .inl (mentioned_of_observed hold)
            · exact .inr hnew
          · exact fun h => hfresh ((hobserved.named parent).mpr h)
        · rename_i hthere
          rw [Dict.get?_isNone_iff, not_not] at hthere
          refine hobserved.congr hseen fun id => ?_
          rw [← hnamed id]
          refine ⟨.inl, fun h => h.elim (fun hnamed => hnamed) ?_⟩
          rintro rfl
          exact (hobserved.named parent).mp hthere
  · rw [addEvent, if_neg hidentified]
    have hedge : edgeOf event = none := by
      rw [edgeOf, if_neg hidentified]
    rw [hedge] at hedges
    refine ⟨h.nodes.congr (fun id => ?_) (fun id => ?_), by rw [hedges]; simp⟩
    · rw [observed_append]
      simp [hidentified]
    · rw [mentioned_append]
      simp [hidentified]

theorem built_run (events : List CanonicalEvent) : Built events (events.foldl addEvent {}) := by
  induction events using List.reverseRecOn with
  | nil => exact built_nil
  | append_singleton events event ih =>
      rw [List.foldl_append]
      exact ih.step event

theorem Built.faithful (h : Built events b) :
    Faithful events { nodes := b.nodes.values, edges := b.edges } := by
  have hids : b.nodes.values.map Node.id = b.nodes.keys := by
    unfold Dict.values Dict.keys
    rw [List.map_map]
    exact List.map_congr_left h.nodes.keyed
  refine ⟨?_, h.edges, ?_, ?_, ?_⟩
  · rw [hids]
    exact h.nodes.distinct
  · intro edge hedge
    rw [hids, h.nodes.named, h.nodes.named]
    change edge ∈ b.edges at hedge
    rw [h.edges] at hedge
    obtain ⟨event, hmem, hevent⟩ := List.mem_filterMap.mp hedge
    unfold edgeOf at hevent
    by_cases hidentified : identified event.process = true
    · rw [if_pos hidentified] at hevent
      obtain ⟨parent, hparent, rfl⟩ := Option.map_eq_some_iff.mp hevent
      exact ⟨⟨event, hmem, hidentified, .inr hparent⟩, ⟨event, hmem, hidentified, .inl rfl⟩⟩
    · rw [if_neg hidentified] at hevent
      cases hevent
  · intro id
    rw [hids]
    exact h.nodes.named id
  · intro node hnode
    obtain ⟨entry, hentry, rfl⟩ := List.mem_map.mp hnode
    rw [h.nodes.inferred entry hentry, h.nodes.keyed entry hentry]

theorem observed_perm {events' : List CanonicalEvent} (h : events'.Perm events) :
    Observed events' id ↔ Observed events id := by
  unfold Observed
  simp only [h.mem_iff]

theorem mentioned_perm {events' : List CanonicalEvent} (h : events'.Perm events) :
    Mentioned events' id ↔ Mentioned events id := by
  unfold Mentioned
  simp only [h.mem_iff]

theorem Faithful.mem_inferredIds {tree : Tree} (h : Faithful events tree) :
    id ∈ tree.inferredIds ↔ Mentioned events id ∧ ¬ Observed events id := by
  unfold Tree.inferredIds
  rw [← h.mentioned id]
  simp only [List.mem_map, List.mem_filter]
  constructor
  · rintro ⟨node, ⟨hnode, hinferred⟩, rfl⟩
    exact ⟨⟨node, hnode, rfl⟩, (h.inferred node hnode).mp hinferred⟩
  · rintro ⟨⟨node, hnode, rfl⟩, hunseen⟩
    exact ⟨node, ⟨hnode, (h.inferred node hnode).mpr hunseen⟩, rfl⟩

/-- Faithful trees of the same events are the same, whatever the order of the events. -/
theorem Faithful.same {events' : List CanonicalEvent} {tree tree' : Tree}
    (h : Faithful events tree) (h' : Faithful events' tree') (hperm : events'.Perm events) :
    SameTree tree' tree where
  nodes id := by rw [h'.mentioned, h.mentioned, mentioned_perm hperm]
  inferred id := by
    rw [h'.mem_inferredIds, h.mem_inferredIds, mentioned_perm hperm, observed_perm hperm]
  edges := by
    rw [h'.edges, h.edges]
    exact hperm.filterMap edgeOf

end

/-- The process tree is faithful, and does not depend on the order of the events. -/
theorem processTree_faithful (events : List CanonicalEvent) :
    Faithful events (buildProcessTree events) ∧ ∀ events', events'.Perm events →
      SameTree (buildProcessTree events') (buildProcessTree events) :=
  ⟨(built_run events).faithful,
    fun events' hperm => (built_run events).faithful.same (built_run events').faithful hperm⟩

end BlueTeam.Endpoint
