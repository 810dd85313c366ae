/- GID: BlueTeam/Services/Projection
   generality: I
   source: services/api/app/services/graph.py, ingestion.py
   digest: The entities of a tenant through projections, with the criticality an analyst gave them. -/

import BlueTeam.Graph.Carried
import BlueTeam.Services.Drawing
import BlueTeam.Services.Events
import Mathlib.Logic.Function.Basic

set_option autoImplicit false
set_option relaxedAutoImplicit false

namespace BlueTeam.Services

open BlueTeam.Python BlueTeam.Schema BlueTeam.Lib BlueTeam.Lib.Exec BlueTeam.Graph BlueTeam.Ingest

structure GraphStats where
  entities : Nat
  relationships : Nat
  manufacturedEdges : Bool
  deriving DecidableEq, Repr

/-- `project_graph` with what it returns. -/
def projectGraphStats (rt : Runtime) (tenantId : String) (events : List CanonicalEvent) :
    Service GraphStats := do
  let findings ← select .findings tenantId fun _ => true
  let stored ← select .entities tenantId fun _ => true
  let graph ← compute (Graph.buildGraph rt events (findings.map (·.payload))
    (stored.map fun row => (row.id, row.criticality)))
  replaceGraph tenantId graph
  pure
    { entities := graph.entities.length
      relationships := graph.relationships.length
      manufacturedEdges := graph.manufacturedEdges }

theorem projectGraph_eq (rt : Runtime) (tenantId : String) (events : List CanonicalEvent) :
    projectGraph rt tenantId events =
      projectGraphStats rt tenantId events >>= fun _ => pure () := by
  have hunit (m : Service Unit) : (m >>= fun _ => pure ()) = m := bind_pure m
  unfold projectGraph projectGraphStats
  simp only [bind_assoc, pure_bind, hunit]

/-- `project_graph(db, tenant_id, load_window(db, tenant_id))` -/
def projectWindow (rt : Runtime) (tenantId : String) : Service GraphStats := do
  let window ← loadWindow tenantId
  projectGraphStats rt tenantId window

def getEntity (tenantId entityId : String) : Service (Option EntityRecord) :=
  selectOne .entities tenantId fun r => r.id = entityId

/-- The criticality of a text that is `allowed`. -/
def criticalityOf (text : String) : Option Criticality :=
  [Criticality.unknown, .low, .medium, .high, .crownJewel].find? fun c => c.text = text

def setCriticality (tenantId entityId criticality : String) : Service (Option EntityRecord) := do
  match ← getEntity tenantId entityId with
  | none => pure none
  | some row =>
      match criticalityOf criticality with
      | none => Exec.raise (.python (.valueError "unsupported criticality"))
      | some value => do
          update .entities fun r => if r = row then { r with criticality := value } else r
          flush
          pure (some { row with criticality := value })

/-! ### Replacing the graph -/

/-- The entities of a session, and what it has of the events. -/
structure Holding (rows waiting : List EntityRecord) (stored : List SecurityEvent)
    (events : List SecurityEvent) (s : Session schema) : Prop where
  rows : s.stored .entities = rows
  waiting : s.pendingOf .entities = waiting
  stored : stored ⊆ s.stored .events
  events : s.all .events = events

section

variable {rows waiting : List EntityRecord} {stored events : List SecurityEvent}
  {s s' : Session schema}

theorem Holding.flush (h : Holding rows waiting stored events s) (hflush : s.flush = .ok s') :
    Holding (rows ++ waiting) [] stored events s' := by
  obtain ⟨hpending, hstored⟩ := Session.flush_ok hflush
  refine ⟨?_, ?_, ?_, ?_⟩
  · rw [hstored, Session.all, h.rows, h.waiting]
  · unfold Session.pendingOf
    rw [hpending]
    rfl
  · rw [hstored, Session.all]
    exact List.Subset.trans h.stored (List.subset_append_left _ _)
  · rw [Session.flush_all hflush, h.events]

theorem flush_holding : Triple (fun w => Holding rows waiting stored events w.session) flush
    (fun _ w => Holding (rows ++ waiting) [] stored events w.session) (fun _ _ => True) :=
  triple_flush (fun _ _ hw hflush => hw.flush hflush) fun _ _ _ _ => trivial

theorem addEntities_holding (entities : List GraphEntity) :
    Triple (fun w => Holding rows waiting stored events w.session)
      (Exec.loop (fun _ entity => add (t := .entities) (entityRecord entity)) () entities)
      (fun _ w => Holding rows (waiting ++ entities.map entityRecord) stored events w.session)
      (fun _ _ => True) := by
  induction entities generalizing waiting with
  | nil => exact triple_pure fun w hw => by simpa using hw
  | cons entity entities ih =>
      refine triple_bind (Q := fun _ w => Holding rows (waiting ++ [entityRecord entity]) stored
        events w.session) (triple_add fun w hw => ?_) fun _ => ?_
      · refine ⟨hw.rows, ?_, hw.stored, ?_⟩
        · rw [Session.add_pendingOf_self (S := schema), hw.waiting]
        · rw [Session.add_all_of_ne (S := schema) _ (by decide), hw.events]
      · refine ih.post fun _ w hw => ?_
        rw [List.append_assoc] at hw
        exact hw

theorem addRelationships_holding (relationships : List GraphRelationship) :
    Triple (fun w => Holding rows waiting stored events w.session)
      (Exec.loop (fun _ rel => add (t := .relationships) (relationshipRecord rel)) () relationships)
      (fun _ w => Holding rows waiting stored events w.session) (fun _ _ => True) := by
  refine triple_loop (fun _ _ w => Holding rows waiting stored events w.session)
    (fun _ rel _ => triple_add fun w hw => ?_) () relationships
  refine ⟨hw.rows, ?_, hw.stored, ?_⟩
  · rw [Session.add_pendingOf_of_ne (S := schema) _ (by decide), hw.waiting]
  · rw [Session.add_all_of_ne (S := schema) _ (by decide), hw.events]

/-- `_replace` puts the entities of the graph in the place of the tenant's. -/
theorem replaceGraph_holding (tenantId : String) (graph : EntityGraph) :
    Triple (fun w => Holding rows [] stored events w.session) (replaceGraph tenantId graph)
      (fun _ w => Holding ((rows.filter fun r => !decide (r.tenantId = tenantId)) ++
        graph.entities.map entityRecord) [] stored events w.session) (fun _ _ => True) := by
  let others := rows.filter fun r => !decide (r.tenantId = tenantId)
  unfold replaceGraph
  refine triple_bind (Q := fun _ w => Holding others [] stored events w.session)
    (triple_deleteAll fun w hw => ?_) fun _ => ?_
  · refine ⟨?_, hw.waiting, ?_, ?_⟩
    · rw [Session.delete_stored_self (S := schema), hw.rows]
      rfl
    · rw [Session.delete_stored_of_ne (S := schema) _ (by decide)]
      exact hw.stored
    · rw [Session.delete_all_of_ne (S := schema) _ (by decide), hw.events]
  refine triple_bind (Q := fun _ w => Holding others [] stored events w.session)
    (triple_deleteAll fun w hw => ?_) fun _ => ?_
  · refine ⟨?_, hw.waiting, ?_, ?_⟩
    · rw [Session.delete_stored_of_ne (S := schema) _ (by decide), hw.rows]
    · rw [Session.delete_stored_of_ne (S := schema) _ (by decide)]
      exact hw.stored
    · rw [Session.delete_all_of_ne (S := schema) _ (by decide), hw.events]
  refine triple_bind flush_holding fun _ => ?_
  rw [List.append_nil]
  refine triple_bind (addEntities_holding graph.entities) fun _ => ?_
  exact triple_bind (addRelationships_holding graph.relationships) fun _ => flush_holding

end

/-! ### The invariant of projections -/

/-- The tenant has an entity under that id. -/
def HasEntity (tenantId id : String) (s : Session schema) : Prop :=
  ∃ r ∈ s.stored .entities, r.tenantId = tenantId ∧ r.id = id

/-- The entities of a tenant are what its events mention, with the criticalities that were
accepted, and those that were seen are there. -/
structure Projected (rt : Runtime) (tenantId : String) (accepted : String → Criticality)
    (seen : String → Prop) (s : Session schema) : Prop where
  settled : s.pendingOf .entities = []
  own : ∀ r ∈ s.all .events, r.tenantId = tenantId → r.payload.tenantId = tenantId
  named : ∀ r ∈ s.stored .entities, r.tenantId = tenantId → ∃ event ∈ s.stored .events,
    event.tenantId = tenantId ∧ Mentioned rt tenantId event.payload r.id
  criticality : ∀ r ∈ s.stored .entities, r.tenantId = tenantId → r.criticality = accepted r.id
  changed : ∀ id, accepted id ≠ .unknown → HasEntity tenantId id s
  kept : ∀ id, seen id → HasEntity tenantId id s

section

variable {rt : Runtime} {tenantId : String} {accepted : String → Criticality}
  {seen : String → Prop} {s s' : Session schema}

/-- The invariant reads the entities and the events only. -/
theorem Projected.same (h : Projected rt tenantId accepted seen s)
    (hentities : s'.stored .entities = s.stored .entities)
    (hwaiting : s'.pendingOf .entities = [])
    (hstored : s.stored .events ⊆ s'.stored .events)
    (hevents : ∀ r ∈ s'.all .events, r.tenantId = tenantId → r.payload.tenantId = tenantId) :
    Projected rt tenantId accepted seen s' := by
  refine ⟨hwaiting, hevents, ?_, ?_, ?_, ?_⟩
  · rw [hentities]
    intro r hr htenant
    obtain ⟨event, hevent, hmentioned⟩ := h.named r hr htenant
    exact ⟨event, hstored hevent, hmentioned⟩
  · rw [hentities]
    exact h.criticality
  · unfold HasEntity
    rw [hentities]
    exact h.changed
  · unfold HasEntity
    rw [hentities]
    exact h.kept

/-- What may be seen of a session is there. -/
theorem Projected.seeing {seen' : String → Prop} (h : Projected rt tenantId accepted seen s)
    (hseen : ∀ id, seen' id → HasEntity tenantId id s) : Projected rt tenantId accepted seen' s :=
  ⟨h.settled, h.own, h.named, h.criticality, h.changed, hseen⟩

theorem Projected.flush (h : Projected rt tenantId accepted seen s) (hflush : s.flush = .ok s') :
    Projected rt tenantId accepted seen s' := by
  obtain ⟨hpending, hstored⟩ := Session.flush_ok hflush
  refine h.same ?_ ?_ ?_ ?_
  · rw [hstored, Session.all, h.settled, List.append_nil]
  · unfold Session.pendingOf
    rw [hpending]
    rfl
  · rw [hstored]
    exact List.subset_append_left _ _
  · rw [Session.flush_all hflush]
    exact h.own

/-- The tables that are neither the events nor the entities. -/
def besideEntities : List Table :=
  [.deadLetters, .findings, .alerts, .evidence, .indicators, .relationships, .storylines,
    .incidents]

theorem ne_of_mem_besideEntities {t : Table} (h : t ∈ besideEntities) :
    t ≠ .events ∧ t ≠ .entities := by
  revert h
  cases t <;> decide

theorem projected_stable :
    Stable (Projected rt tenantId accepted seen) (fun _ _ => True) besideEntities where
  add {t} r s ht hs := by
    obtain ⟨hevents, hentities⟩ := ne_of_mem_besideEntities ht
    refine hs.same rfl ?_ (List.Subset.refl _) ?_
    · rw [Session.add_pendingOf_of_ne (S := schema) _ hentities]
      exact hs.settled
    · rw [Session.add_all_of_ne (S := schema) _ hevents]
      exact hs.own
  update {t} f s ht _ hs := by
    obtain ⟨hevents, hentities⟩ := ne_of_mem_besideEntities ht
    refine hs.same ?_ hs.settled ?_ ?_
    · rw [Session.update_stored_of_ne (S := schema) _ hentities]
    · rw [Session.update_stored_of_ne (S := schema) _ hevents]
      exact List.Subset.refl _
    · rw [Session.update_all_of_ne (S := schema) _ hevents]
      exact hs.own
  delete {t} p s ht _ hs := by
    obtain ⟨hevents, hentities⟩ := ne_of_mem_besideEntities ht
    refine hs.same ?_ hs.settled ?_ ?_
    · rw [Session.delete_stored_of_ne (S := schema) _ hentities]
    · rw [Session.delete_stored_of_ne (S := schema) _ hevents]
      exact List.Subset.refl _
    · rw [Session.delete_all_of_ne (S := schema) _ hevents]
      exact hs.own
  flush := keeps_flush (fun _ _ hs hflush => hs.flush hflush) fun _ _ _ _ => trivial
  python _ _ _ := trivial
  multiple _ _ _ _ := trivial
  missing _ _ _ _ _ := trivial

/-! ### A projection keeps it -/

/-- The stored criticalities, looked up by id, are the accepted ones. -/
theorem carried_criticality {rows : List EntityRecord}
    (hrows : ∀ r ∈ rows, r.criticality = accepted r.id)
    (hchanged : ∀ id, accepted id ≠ .unknown → ∃ r ∈ rows, r.id = id) (id : String) :
    ((rows.map fun r => (r.id, r.criticality)).lookup id).getD .unknown = accepted id := by
  cases hfound : (rows.map fun r => (r.id, r.criticality)).lookup id with
  | some criticality =>
      obtain ⟨before, after, hsplit, -⟩ := List.lookup_eq_some_iff.mp hfound
      have hmem : (id, criticality) ∈ rows.map fun r => (r.id, r.criticality) := by
        rw [hsplit]
        simp
      obtain ⟨r, hr, hpair⟩ := List.mem_map.mp hmem
      obtain ⟨rfl, rfl⟩ := Prod.mk.inj hpair
      exact hrows r hr
  | none =>
      by_contra hne
      obtain ⟨r, hr, rfl⟩ := hchanged id (fun h => hne h.symm)
      have hnone := List.lookup_eq_none_iff.mp hfound _ (List.mem_map_of_mem hr)
      simp at hnone

/-- The entities of a graph over the tenant's events keep the invariant. -/
theorem Projected.replaced {w : World} (h : Projected rt tenantId accepted seen w.session)
    {findings : List Finding} {graph : EntityGraph}
    (hgraph : buildGraph rt (w.window tenantId) findings
      ((w.rowsOf .entities tenantId).map fun r => (r.id, r.criticality)) = .ok graph)
    (hs : Holding (((w.session.stored .entities).filter fun r => !decide (r.tenantId = tenantId)) ++
      graph.entities.map entityRecord) [] (w.session.stored .events) (w.session.all .events) s) :
    Projected rt tenantId accepted seen s := by
  have hwindow : ∀ event ∈ w.window tenantId, ∃ row ∈ w.session.stored .events,
      row.tenantId = tenantId ∧ row.payload = event := by
    intro event hevent
    obtain ⟨row, hrow, rfl⟩ := List.mem_map.mp hevent
    have hrow := (List.perm_insertionSort _ _).subset hrow
    obtain ⟨hstored, htenant⟩ := World.mem_rowsOf.mp hrow
    exact ⟨row, hstored, htenant, rfl⟩
  have htenant : ∀ event ∈ w.window tenantId, event.tenantId = tenantId := by
    intro event hevent
    obtain ⟨row, hrow, hown, rfl⟩ := hwindow event hevent
    exact h.own row (List.mem_append_left _ hrow) hown
  have hrow : ∀ r ∈ s.stored .entities, r.tenantId = tenantId →
      ∃ e ∈ graph.entities, entityRecord e = r := by
    rw [hs.rows]
    intro r hr hown
    rcases List.mem_append.mp hr with hr | hr
    · have hother := (List.mem_filter.mp hr).2
      simp [hown] at hother
    · exact List.mem_map.mp hr
  have hhas : ∀ id, HasEntity tenantId id w.session → HasEntity tenantId id s := by
    rintro id ⟨r, hr, hown, rfl⟩
    obtain ⟨event, hevent, heventOwn, hmentioned⟩ := h.named r hr hown
    have hinWindow : event.payload ∈ w.window tenantId :=
      List.mem_map_of_mem ((List.perm_insertionSort _ _).symm.subset
        (World.mem_rowsOf.mpr ⟨hevent, heventOwn⟩))
    obtain ⟨e, he, hid⟩ := (buildGraph_ids htenant hgraph r.id).mpr ⟨_, hinWindow, hmentioned⟩
    refine ⟨entityRecord e, ?_, ((buildGraph_named htenant hgraph).entities e he).1, hid⟩
    rw [hs.rows]
    exact List.mem_append_right _ (List.mem_map_of_mem he)
  have hcarried : ∀ id, (((w.rowsOf .entities tenantId).map
      fun r => (r.id, r.criticality)).lookup id).getD .unknown = accepted id := by
    refine carried_criticality ?_ ?_
    · intro r hr
      obtain ⟨hstored, hown⟩ := World.mem_rowsOf.mp hr
      exact h.criticality r hstored hown
    · intro id hne
      obtain ⟨r, hr, hown, hid⟩ := h.changed id hne
      exact ⟨r, World.mem_rowsOf.mpr ⟨hr, hown⟩, hid⟩
  refine ⟨hs.waiting, ?_, ?_, ?_, ?_, ?_⟩
  · rw [hs.events]
    exact h.own
  · intro r hr hown
    obtain ⟨e, he, rfl⟩ := hrow r hr hown
    obtain ⟨event, hevent, hmentioned⟩ := (buildGraph_ids htenant hgraph e.id).mp ⟨e, he, rfl⟩
    obtain ⟨row, hstored, hrowOwn, rfl⟩ := hwindow event hevent
    exact ⟨row, hs.stored hstored, hrowOwn, hmentioned⟩
  · intro r hr hown
    obtain ⟨e, he, rfl⟩ := hrow r hr hown
    exact (buildGraph_criticality htenant hgraph he).trans (hcarried e.id)
  · exact fun id hne => hhas id (h.changed id hne)
  · exact fun id hseen => hhas id (h.kept id hseen)

theorem projectWindow_projected :
    Triple (fun w => Projected rt tenantId accepted seen w.session) (projectWindow rt tenantId)
      (fun _ w => Projected rt tenantId accepted seen w.session) (fun _ _ => True) := by
  refine triple_from fun w hw => ?_
  have hstart : Holding (w.session.stored .entities) [] (w.session.stored .events)
      (w.session.all .events) w.session := ⟨rfl, hw.settled, List.Subset.refl _, rfl⟩
  refine triple_bind (Q := fun window w' => window = w.window tenantId ∧ w' = w) ?_ fun window => ?_
  · constructor
    rintro _ rfl
    rw [loadWindow_run]
    exact ⟨rfl, rfl⟩
  apply triple_given
  rintro rfl
  refine triple_bind (Q := fun _ w' => w' = w) (triple_select fun _ hw' => hw') fun findings => ?_
  refine triple_bind (Q := fun rows w' => rows = w.rowsOf .entities tenantId ∧ w' = w)
    (triple_select fun w' hw' => ⟨?_, hw'⟩) fun rows => ?_
  · rw [hw']
    simp [World.rowsOf]
  apply triple_given
  rintro rfl
  refine triple_bind (Q := fun graph w' => buildGraph rt (w.window tenantId)
      (findings.map (·.payload)) ((w.rowsOf .entities tenantId).map fun r => (r.id, r.criticality)) =
        .ok graph ∧ w' = w)
    (triple_compute (fun _ _ hgraph hw' => ⟨hgraph, hw'⟩) fun _ _ _ _ => trivial) fun graph => ?_
  refine triple_given fun hgraph => ?_
  have hreplace : Triple (fun w' => w' = w) (replaceGraph tenantId graph)
      (fun _ w' => Holding (((w.session.stored .entities).filter fun r =>
        !decide (r.tenantId = tenantId)) ++ graph.entities.map entityRecord) []
        (w.session.stored .events) (w.session.all .events) w'.session) (fun _ _ => True) := by
    refine (replaceGraph_holding tenantId graph).pre ?_
    rintro _ rfl
    exact hstart
  exact triple_bind hreplace fun _ => triple_pure fun _ hs => hw.replaced hgraph hs

/-! ### Ingestion keeps it -/

/-- An event of the tenant's own ingestion is its own. -/
theorem tenantId_of_stores {payload : JsonObject} {row : SecurityEvent}
    (h : Stores rt tenantId payload row) : row.payload.tenantId = tenantId := by
  obtain ⟨event, attributes, ⟨raw, t, t', intel, hraw, rfl⟩, rfl⟩ := h
  have horigin := (attributes_sameOrigin (enrichEvent rt intel raw) attributes).trans
    (enrichEvent_sameOrigin rt intel raw)
  have hdraws : DrawsFor t.uuids tenantId (normalizePayload rt payload tenantId) :=
    drawsFor_normalizePayload tenantId payload
  exact horigin.tenantId.trans (Triple.ok hdraws (le_refl t.uuids) hraw).1

theorem Projected.add_event (h : Projected rt tenantId accepted seen s) {row : SecurityEvent}
    (hrow : row.payload.tenantId = tenantId) :
    Projected rt tenantId accepted seen (s.add (S := schema) (t := .events) row) := by
  refine h.same rfl ?_ (List.Subset.refl _) ?_
  · rw [Session.add_pendingOf_of_ne (S := schema) _ (by decide)]
    exact h.settled
  · rw [Session.add_all_self (S := schema)]
    intro r hr hown
    rcases List.mem_append.mp hr with hr | hr
    · exact h.own r hr hown
    · obtain rfl := List.mem_singleton.mp hr
      exact hrow

theorem ingestPayloads_projected (actorId : String) (payloads : List JsonObject) :
    Keeps (Projected rt tenantId accepted seen) (fun _ _ => True)
      (ingestPayloads rt tenantId actorId payloads) := by
  have hstable : Stable (Projected rt tenantId accepted seen) (fun _ _ => True) besideEntities :=
    projected_stable
  have hproject : Keeps (Projected rt tenantId accepted seen) (fun _ _ => True)
      (loadWindow tenantId >>= fun window => projectGraph rt tenantId window) := by
    have heq : (loadWindow tenantId >>= fun window => projectGraph rt tenantId window) =
        projectWindow rt tenantId >>= fun _ => pure () := by
      unfold projectWindow
      simp only [projectGraph_eq, bind_assoc]
    rw [heq]
    exact keeps_bind projectWindow_projected fun _ => keeps_pure _
  refine keeps_bind (ingestLoop_keeps (F := fun _ => True) rt tenantId actorId hstable (by decide)
    (by decide) payloads ?_ ?_) fun result => ?_
  · intro payload _ row hrow s hs
    exact hs.add_event (tenantId_of_stores hrow)
  · intro context event
    exact evaluateAndStoreFindings_keeps rt tenantId hstable (by decide) (by decide) (by decide) _ _ _
  · refine keeps_bind ?_ fun _ => keeps_pure _
    unfold projectBatch
    split
    · exact keeps_pure _
    · rw [← bind_assoc]
      refine keeps_bind hproject fun _ => ?_
      exact persistStorylinesAndIncidents_keeps rt tenantId hstable (by decide) (by decide)
        fun _ _ => trivial

/-! ### An analyst sets a criticality -/

theorem eq_singleton_of_scalarOneOrNone {t : Table} {rows : List t.Row} {r : t.Row}
    (h : scalarOneOrNone rows = .ok (some r)) : rows = [r] := by
  unfold scalarOneOrNone at h
  split at h
  · cases h
  · cases h
    rfl
  · cases h

/-- A lookup reads, and the row that it returns is the only one. -/
theorem sole_of_selectOne {t : Table} {p : t.Row → Bool} {w w' : World} {r : t.Row}
    (h : selectOne t tenantId p w = (.ok (some r), w')) :
    w' = w ∧ (w.session.stored t).filter (fun x => Table.tenantId x = tenantId && p x) = [r] := by
  obtain ⟨found, w₁, hselect, hlift⟩ := ok_of_bind h
  obtain ⟨hfound, rfl⟩ := Prod.mk.inj hselect
  obtain ⟨hone, rfl⟩ := Prod.mk.inj hlift
  obtain rfl := Except.ok.inj hfound
  exact ⟨rfl, eq_singleton_of_scalarOneOrNone hone⟩

/-- The change of one criticality. -/
theorem Projected.update (h : Projected rt tenantId accepted seen s) {row : EntityRecord}
    (hsole : (s.stored .entities).filter (fun r => r.tenantId = tenantId && r.id = row.id) = [row])
    (value : Criticality) :
    Projected rt tenantId (Function.update accepted row.id value) seen
      (s.update .entities fun r => if r = row then { r with criticality := value } else r) := by
  have hrow : row ∈ s.stored .entities ∧ row.tenantId = tenantId := by
    have hmem : row ∈ (s.stored .entities).filter
        fun r => r.tenantId = tenantId && r.id = row.id := by
      rw [hsole]
      exact List.mem_singleton_self _
    simpa using List.mem_filter.mp hmem
  have hunique : ∀ r ∈ s.stored .entities, r.tenantId = tenantId → r.id = row.id → r = row := by
    intro r hr hown hid
    have hmem : r ∈ (s.stored .entities).filter
        fun r => r.tenantId = tenantId && r.id = row.id :=
      List.mem_filter.mpr ⟨hr, by simp [hown, hid]⟩
    rw [hsole] at hmem
    exact List.mem_singleton.mp hmem
  have hstored : ∀ r, r ∈ (s.update .entities fun r =>
      if r = row then { r with criticality := value } else r).stored .entities ↔
      ∃ r' ∈ s.stored .entities,
        (if r' = row then { r' with criticality := value } else r') = r := by
    intro r
    rw [Session.update_stored_self (S := schema)]
    exact List.mem_map
  have hhas : ∀ id, HasEntity tenantId id s → HasEntity tenantId id
      (s.update .entities fun r => if r = row then { r with criticality := value } else r) := by
    rintro id ⟨r, hr, hown, rfl⟩
    refine ⟨_, (hstored _).mpr ⟨r, hr, rfl⟩, ?_, ?_⟩
    · split <;> exact hown
    · split <;> rfl
  refine ⟨h.settled, ?_, ?_, ?_, ?_, fun id hseen => hhas id (h.kept id hseen)⟩
  · rw [Session.update_all_of_ne (S := schema) _ (by decide)]
    exact h.own
  · intro r hr hown
    obtain ⟨r', hr', rfl⟩ := (hstored r).mp hr
    rw [Session.update_stored_of_ne (S := schema) _ (by decide)]
    split
    · exact h.named r' hr' (by simp_all)
    · exact h.named r' hr' (by simp_all)
  · intro r hr hown
    obtain ⟨r', hr', rfl⟩ := (hstored r).mp hr
    by_cases hsame : r' = row
    · simp [hsame]
    · rw [if_neg hsame] at hown ⊢
      have hne : r'.id ≠ row.id := fun hid => hsame (hunique r' hr' hown hid)
      rw [Function.update_of_ne hne]
      exact h.criticality r' hr' hown
  · intro id hne
    by_cases hid : id = row.id
    · subst hid
      exact hhas _ ⟨row, hrow.1, hrow.2, rfl⟩
    · rw [Function.update_of_ne hid] at hne
      exact hhas id (h.changed id hne)

/-- The entity that a lookup finds is there, and it is the only one of its id. -/
theorem getEntity_found {entityId : String} {w w' : World} {row : EntityRecord}
    (h : getEntity tenantId entityId w = (.ok (some row), w')) :
    w' = w ∧ row.id = entityId ∧ HasEntity tenantId entityId w.session ∧
      (w.session.stored .entities).filter (fun r => r.tenantId = tenantId && r.id = row.id) =
        [row] := by
  obtain ⟨rfl, hsole⟩ := sole_of_selectOne h
  have hsole : (w'.session.stored .entities).filter
      (fun r => r.tenantId = tenantId && r.id = entityId) = [row] := hsole
  have hmem := List.mem_singleton_self row
  rw [← hsole] at hmem
  obtain ⟨hstored, hmatch⟩ := List.mem_filter.mp hmem
  obtain ⟨hown, rfl⟩ : row.tenantId = tenantId ∧ row.id = entityId := by simpa using hmatch
  exact ⟨rfl, rfl, ⟨row, hstored, hown, rfl⟩, hsole⟩

/-- A criticality is set only where the text is allowed and the entity is there. -/
theorem setCriticality_some {entityId text : String} {w w' : World} {row : EntityRecord}
    (h : setCriticality tenantId entityId text w = (.ok (some row), w')) :
    (∃ value, criticalityOf text = some value) ∧ HasEntity tenantId entityId w.session := by
  obtain ⟨found, w₁, hget, hset⟩ := ok_of_bind h
  cases found with
  | none => cases hset
  | some found =>
      obtain ⟨-, -, hhas, -⟩ := getEntity_found hget
      refine ⟨?_, hhas⟩
      cases hvalue : criticalityOf text with
      | some value => exact ⟨value, rfl⟩
      | none =>
          simp only [hvalue] at hset
          cases hset

theorem setCriticality_projected (entityId text : String) :
    Triple (fun w => Projected rt tenantId accepted seen w.session)
      (setCriticality tenantId entityId text)
      (fun result w => ∀ row, result = some row → ∃ value, criticalityOf text = some value ∧
        Projected rt tenantId (Function.update accepted entityId value) seen w.session)
      (fun _ _ => True) := by
  refine triple_from fun w hw => ?_
  refine triple_bind (Q := fun found w' => ∀ row, found = some row → w' = w ∧
    row.id = entityId ∧ (w.session.stored .entities).filter
      (fun r => r.tenantId = tenantId && r.id = row.id) = [row]) ?_ fun found => ?_
  · constructor
    intro w' hw'
    subst hw'
    rcases hrun : getEntity tenantId entityId w' with ⟨⟨e⟩ | ⟨found⟩, w₁⟩
    · trivial
    · rintro row rfl
      obtain ⟨hsame, hid, -, hsole⟩ := getEntity_found hrun
      exact ⟨hsame, hid, hsole⟩
  cases found with
  | none => exact triple_pure fun _ _ row hrow => by cases hrow
  | some row =>
      cases hvalue : criticalityOf text with
      | none =>
          refine triple_raise ?_
          exact fun _ _ => trivial
      | some value =>
          refine triple_bind (Q := fun _ w => Projected rt tenantId
            (Function.update accepted entityId value) seen w.session) ?_ fun _ => ?_
          · refine triple_update fun w' hfound => ?_
            obtain ⟨rfl, rfl, hsole⟩ := hfound row rfl
            exact hw.update hsole value
          refine triple_bind (Q := fun _ w => Projected rt tenantId
            (Function.update accepted entityId value) seen w.session) ?_ fun _ => ?_
          · exact triple_flush (fun _ _ h hflush => h.flush hflush) fun _ _ _ _ => trivial
          · exact triple_pure fun _ h _ _ => ⟨value, rfl, h⟩

end

end BlueTeam.Services
