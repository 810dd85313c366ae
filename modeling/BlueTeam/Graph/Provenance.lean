/- GID: BlueTeam/Graph/Provenance
   generality: I
   source: packages/entity-graph/blueteam_graph/engine.py
   digest: A graph holds the entities that its events mention and edges between them, each with the
     events it was seen in. -/

import BlueTeam.Graph.Gathering

set_option autoImplicit false
set_option relaxedAutoImplicit false

namespace BlueTeam.Graph

open BlueTeam.Python BlueTeam.Schema BlueTeam.Lib BlueTeam.Lib.Exec

/-! ### Sightings and edges of an event -/

section

variable {rt : Runtime} {tenantId : String} {event : CanonicalEvent}

theorem sightings_mentioned (entityType : EntityType) (key : Option String)
    (name : String → String) (attrs : List (String × String)) :
    (mentioned event entityType key name attrs).filterMap (Observation.sighting rt) =
      key.toList.map fun key => ⟨event, entityType, rt.lower key, name key, attrs⟩ := by
  cases key <;> rfl

theorem sightings_edge (src : Option String) (relation : RelationType) (dst : Option String) :
    (edge event src relation dst).filterMap (Observation.sighting rt) = [] := by
  cases src with
  | none => rfl
  | some src => cases dst <;> rfl

theorem edges_mentioned (entityType : EntityType) (key : Option String)
    (name : String → String) (attrs : List (String × String)) :
    (mentioned event entityType key name attrs).filterMap Observation.asEdge = [] := by
  cases key <;> rfl

theorem mem_edges_edge {src dst : Option String} {relation : RelationType} {a : Edge}
    (h : a ∈ (edge event src relation dst).filterMap Observation.asEdge) :
    a.eventId = event.id ∧ src = some a.src ∧ dst = some a.dst := by
  cases src with
  | none => cases h
  | some src =>
      cases dst with
      | none => cases h
      | some dst =>
          obtain rfl := List.mem_singleton.mp h
          exact ⟨rfl, rfl, rfl⟩

/-- The sightings of an event are its mentions. -/
theorem sightings_keys (rt : Runtime) (tenantId : String) (event : CanonicalEvent) :
    ((observations rt tenantId event).filterMap (Observation.sighting rt)).map
        (fun a => (a.event, a.entityType, a.key)) =
      (mentions event).map fun m => (event, m.1, rt.lower m.2) := by
  unfold observations userSeen hostSeen processSeen ipSeen domainSeen cloudSeen parentSeen mentions
  simp only [List.filterMap_append, sightings_mentioned, sightings_edge, List.append_nil,
    List.map_append, List.map_map, List.flatMap_cons, List.flatMap_nil, List.append_assoc]
  rfl

theorem mem_sightings {a : Sighting}
    (h : a ∈ (observations rt tenantId event).filterMap (Observation.sighting rt)) :
    a.event = event ∧ ∃ key, (a.entityType, key) ∈ mentions event ∧ rt.lower key = a.key := by
  have hmem := List.mem_map_of_mem (f := fun a => (a.event, a.entityType, a.key)) h
  rw [sightings_keys] at hmem
  obtain ⟨m, hm, hsame⟩ := List.mem_map.mp hmem
  obtain ⟨hevent, htype, hkey⟩ : event = a.event ∧ m.1 = a.entityType ∧ rt.lower m.2 = a.key := by
    simpa using hsame
  refine ⟨hevent.symm, m.2, ?_, hkey⟩
  rw [← htype]
  exact hm

theorem exists_sighting (rt : Runtime) (tenantId : String) {m : EntityType × String}
    (h : m ∈ mentions event) :
    ∃ a ∈ (observations rt tenantId event).filterMap (Observation.sighting rt),
      a.event = event ∧ a.entityType = m.1 ∧ a.key = rt.lower m.2 := by
  have hmem := List.mem_map_of_mem (f := fun m => (event, m.1, rt.lower m.2)) h
  rw [← sightings_keys rt tenantId event] at hmem
  obtain ⟨a, ha, hsame⟩ := List.mem_map.mp hmem
  obtain ⟨hevent, htype, hkey⟩ : a.event = event ∧ a.entityType = m.1 ∧ a.key = rt.lower m.2 := by
    simpa using hsame
  exact ⟨a, ha, hevent, htype, hkey⟩

/-- An id of an entity that the event mentions. -/
def Mentioned (rt : Runtime) (tenantId : String) (event : CanonicalEvent) (id : String) : Prop :=
  ∃ m ∈ mentions event, entityId rt tenantId m.1 m.2 = id

theorem mentioned_of_map {entityType : EntityType} {key : Option String} {id : String}
    (hkey : ∀ k, key = some k → (entityType, k) ∈ mentions event)
    (h : key.map (entityId rt tenantId entityType) = some id) : Mentioned rt tenantId event id := by
  obtain ⟨k, hk, hid⟩ := Option.map_eq_some_iff.mp h
  exact ⟨(entityType, k), hkey k hk, hid⟩

/-- The edges of an event are between entities that it mentions. -/
theorem mem_edges {a : Edge}
    (h : a ∈ (observations rt tenantId event).filterMap Observation.asEdge) :
    a.eventId = event.id ∧ Mentioned rt tenantId event a.src ∧
      Mentioned rt tenantId event a.dst := by
  have huser : ∀ id, userId rt tenantId event = some id → Mentioned rt tenantId event id :=
    fun _ => mentioned_of_map fun k hk => by simp [mentions, hk]
  have hhost : ∀ id, hostId rt tenantId event = some id → Mentioned rt tenantId event id :=
    fun _ => mentioned_of_map fun k hk => by simp [mentions, hk]
  have hproc : ∀ id, procId rt tenantId event = some id → Mentioned rt tenantId event id :=
    fun _ => mentioned_of_map fun k hk => by simp [mentions, hk]
  have hsrc : ∀ id, srcId rt tenantId event = some id → Mentioned rt tenantId event id :=
    fun _ => mentioned_of_map fun k hk => by simp [mentions, hk]
  have hdst : ∀ id, dstId rt tenantId event = some id → Mentioned rt tenantId event id :=
    fun _ => mentioned_of_map fun k hk => by simp [mentions, hk]
  have hdomain : ∀ id, domainId rt tenantId event = some id → Mentioned rt tenantId event id :=
    fun _ => mentioned_of_map fun k hk => by simp [mentions, hk]
  have hparent : ∀ id, parentId rt tenantId event = some id → Mentioned rt tenantId event id :=
    fun _ => mentioned_of_map fun k hk => by simp [mentions, hk]
  have hends : ∀ {src dst : Option String} {relation : RelationType},
      (∀ id, src = some id → Mentioned rt tenantId event id) →
      (∀ id, dst = some id → Mentioned rt tenantId event id) →
      a ∈ (edge event src relation dst).filterMap Observation.asEdge →
      a.eventId = event.id ∧ Mentioned rt tenantId event a.src ∧
        Mentioned rt tenantId event a.dst := by
    intro src dst relation hs hd hmem
    obtain ⟨hid, ha, hb⟩ := mem_edges_edge hmem
    exact ⟨hid, hs _ ha, hd _ hb⟩
  unfold observations userSeen hostSeen processSeen ipSeen domainSeen cloudSeen parentSeen at h
  simp only [List.filterMap_append, edges_mentioned, List.nil_append, List.append_nil,
    List.mem_append] at h
  rcases h with ((((((h | h) | h) | h) | h) | h) | h) | h
  · exact hends huser hsrc h
  · exact hends hhost hsrc h
  · exact hends hhost hdst h
  · exact hends hproc hdst h
  · exact hends hsrc hdomain h
  · exact hends huser hhost h
  · exact hends hhost hproc h
  · exact hends hproc hparent h

end

/-! ### Ids -/

/-- What is hashed for an observation: the type and the lower-cased key of an entity. The id of a
relationship is made from the text that `entity_id` hashes for the type `src` and the key
`relation|dst`. -/
def Observation.hashed (rt : Runtime) : Observation → String × String
  | .mention _ entityType key _ _ => (entityType.text, rt.lower key)
  | .edge src relation dst _ => (src, relation.text ++ "|" ++ dst)

/-- `entity_id` tells the types and lower-cased keys apart that are hashed for these events. -/
def IdsApart (rt : Runtime) (tenantId : String) (events : List CanonicalEvent) : Prop :=
  ∀ o ∈ events.flatMap (observations rt tenantId),
    ∀ o' ∈ events.flatMap (observations rt tenantId),
      entityIdOf tenantId (o.hashed rt).1 (o.hashed rt).2 =
        entityIdOf tenantId (o'.hashed rt).1 (o'.hashed rt).2 → o.hashed rt = o'.hashed rt

theorem EntityType.text_injective {a b : EntityType} (h : a.text = b.text) : a = b := by
  cases a <;> cases b <;> first | rfl | (exact absurd h (by decide))

theorem RelationType.bar_notMem (relation : RelationType) : '|' ∉ relation.text.toList := by
  cases relation <;> decide

theorem RelationType.text_injective {a b : RelationType} (h : a.text = b.text) : a = b := by
  cases a <;> cases b <;> first | rfl | (exact absurd h (by decide))

/-- Where a mark is in neither front, what is before it and after it is determined. -/
theorem append_mark_inj {α : Type} {mark : α} {front front' back back' : List α}
    (h : mark ∉ front) (h' : mark ∉ front') (heq : front ++ mark :: back = front' ++ mark :: back') :
    front = front' ∧ back = back' := by
  induction front generalizing front' with
  | nil =>
      cases front' with
      | nil => exact ⟨rfl, (List.cons.inj heq).2⟩
      | cons c cs => exact absurd ((List.cons.inj heq).1 ▸ List.mem_cons_self) h'
  | cons c cs ih =>
      cases front' with
      | nil => exact absurd ((List.cons.inj heq).1 ▸ List.mem_cons_self) h
      | cons d ds =>
          obtain ⟨rfl, htail⟩ := List.cons.inj heq
          obtain ⟨rfl, hback⟩ := ih (fun hm => h (List.mem_cons_of_mem _ hm))
            (fun hm => h' (List.mem_cons_of_mem _ hm)) htail
          exact ⟨rfl, hback⟩

/-- The text of a relation ends at its bar. -/
theorem relation_inj {relation relation' : RelationType} {dst dst' : String}
    (h : relation.text ++ "|" ++ dst = relation'.text ++ "|" ++ dst') :
    relation = relation' ∧ dst = dst' := by
  have hchars := congrArg String.toList h
  simp only [String.toList_append, List.append_assoc] at hchars
  have hparts := append_mark_inj (RelationType.bar_notMem relation)
    (RelationType.bar_notMem relation') hchars
  exact ⟨RelationType.text_injective (String.toList_inj.mp hparts.1),
    String.toList_inj.mp hparts.2⟩

theorem append_left_cancel {a b c : String} (h : a ++ b = a ++ c) : b = c := by
  have hchars := congrArg String.toList h
  rw [String.toList_append, String.toList_append] at hchars
  exact String.toList_inj.mp (List.append_cancel_left hchars)

/-- Ids of relationships are equal where `entity_id` gives equal ids. -/
theorem entityIdOf_of_relationshipId {tenantId src src' dst dst' : String}
    {relation relation' : RelationType}
    (h : relationshipId tenantId src relation dst = relationshipId tenantId src' relation' dst') :
    entityIdOf tenantId src (relation.text ++ "|" ++ dst) =
      entityIdOf tenantId src' (relation'.text ++ "|" ++ dst') := by
  have hdigest := append_left_cancel h
  unfold entityIdOf
  simp only [String.append_assoc] at hdigest ⊢
  rw [hdigest]

/-! ### The graph of some events -/

/-- An entity as it leaves `build_graph`. -/
def finished (rt : Runtime) (findings : List Finding) (criticality : List (String × Criticality))
    (e : GraphEntity) : GraphEntity :=
  applyRisk rt findings { e with criticality := (criticality.lookup e.id).getD .unknown }

/-- A graph is what was built from the observations of its events, finished and sorted. -/
structure Finished (rt : Runtime) (tenantId : String) (events : List CanonicalEvent)
    (findings : List Finding) (criticality : List (String × Criticality)) (graph : EntityGraph)
    (g : Building) : Prop where
  observed : Observed rt tenantId (events.flatMap (observations rt tenantId)) g
  entities : graph.entities.Perm (g.entities.map (finished rt findings criticality))
  relationships : graph.relationships = g.relationships

section

variable {rt : Runtime} {tenantId : String} {events : List CanonicalEvent}
  {findings : List Finding} {criticality : List (String × Criticality)} {graph : EntityGraph}
  {g : Building}

theorem mem_sightings_events {a : Sighting}
    (h : a ∈ (events.flatMap (observations rt tenantId)).filterMap (Observation.sighting rt)) :
    ∃ event ∈ events,
      a ∈ (observations rt tenantId event).filterMap (Observation.sighting rt) := by
  obtain ⟨o, ho, ha⟩ := List.mem_filterMap.mp h
  obtain ⟨event, hevent, ho⟩ := List.mem_flatMap.mp ho
  exact ⟨event, hevent, List.mem_filterMap.mpr ⟨o, ho, ha⟩⟩

theorem mem_edges_events {a : Edge}
    (h : a ∈ (events.flatMap (observations rt tenantId)).filterMap Observation.asEdge) :
    ∃ event ∈ events, a ∈ (observations rt tenantId event).filterMap Observation.asEdge := by
  obtain ⟨o, ho, ha⟩ := List.mem_filterMap.mp h
  obtain ⟨event, hevent, ho⟩ := List.mem_flatMap.mp ho
  exact ⟨event, hevent, List.mem_filterMap.mpr ⟨o, ho, ha⟩⟩

theorem buildGraph_finished (htenant : ∀ event ∈ events, event.tenantId = tenantId)
    (hcomparable : ∀ a ∈ events, ∀ b ∈ events, a.timestamp.Comparable b.timestamp)
    (findings : List Finding) (criticality : List (String × Criticality)) :
    ∃ graph g, buildGraph rt events findings criticality = .ok graph ∧
      Finished rt tenantId events findings criticality graph g := by
  cases hevents : events with
  | nil => exact ⟨_, {}, rfl, observed_empty, List.Perm.refl _, rfl⟩
  | cons event rest =>
      obtain rfl : event.tenantId = tenantId := htenant event (by simp [hevents])
      have hagree : ∀ o ∈ events.flatMap (observations rt event.tenantId),
          ∀ o' ∈ events.flatMap (observations rt event.tenantId), o.Agree rt o' := by
        intro o ho o' ho' a ha b hb
        obtain ⟨e, he, ha⟩ := mem_sightings_events (List.mem_filterMap.mpr ⟨o, ho, ha⟩)
        obtain ⟨e', he', hb⟩ := mem_sightings_events (List.mem_filterMap.mpr ⟨o', ho', hb⟩)
        have hcomp := hcomparable e he e' he'
        rw [← (mem_sightings ha).1, ← (mem_sightings hb).1] at hcomp
        exact hcomp
      obtain ⟨g, hrun, hobserved⟩ := observe_observed hagree
      rw [← loop_addEvent, hevents] at hrun
      rw [hevents] at hobserved
      let graph : EntityGraph :=
        { tenantId := event.tenantId
          entities := (g.entities.map (finished rt findings criticality)).insertionSort
            fun a b => b.riskScore ≤ a.riskScore
          relationships := g.relationships }
      refine ⟨graph, g, ?_, hobserved, List.perm_insertionSort _ _, rfl⟩
      unfold buildGraph
      dsimp only
      rw [hrun]
      rfl

/-- Two entities of one type and key are the same one to an event. -/
def Mentions (rt : Runtime) (event : CanonicalEvent) (e : GraphEntity) : Prop :=
  ∃ key, (e.entityType, key) ∈ mentions event ∧ rt.lower key = e.key

/-- What a graph tells of the events it was built from, and nothing else. -/
structure Provenance (rt : Runtime) (events : List CanonicalEvent) (graph : EntityGraph) :
    Prop where
  entityIds : (graph.entities.map GraphEntity.id).Nodup
  complete : ∀ event ∈ events, ∀ m ∈ mentions event,
    ∃ e ∈ graph.entities, e.entityType = m.1 ∧ e.key = rt.lower m.2
  eventIds : ∀ e ∈ graph.entities, e.eventIds.Nodup ∧
    ∀ id, id ∈ e.eventIds ↔ ∃ event ∈ events, event.id = id ∧ Mentions rt event e
  firstSeen : ∀ e ∈ graph.entities,
    (∃ event ∈ events, Mentions rt event e ∧ event.timestamp = e.firstSeen) ∧
      ∀ event ∈ events, Mentions rt event e → event.timestamp.lt e.firstSeen = .ok false
  lastSeen : ∀ e ∈ graph.entities,
    (∃ event ∈ events, Mentions rt event e ∧ event.timestamp = e.lastSeen) ∧
      ∀ event ∈ events, Mentions rt event e → e.lastSeen.lt event.timestamp = .ok false
  relationshipIds : (graph.relationships.map GraphRelationship.id).Nodup
  observed : ∀ r ∈ graph.relationships, r.eventIds ≠ [] ∧ r.eventIds.Nodup
  source : ∀ r ∈ graph.relationships,
    ∃ e ∈ graph.entities, e.id = r.srcId ∧ r.eventIds ⊆ e.eventIds
  target : ∀ r ∈ graph.relationships,
    ∃ e ∈ graph.entities, e.id = r.dstId ∧ r.eventIds ⊆ e.eventIds

/-- The sightings that an entity was gathered from. -/
def sightingsOf (rt : Runtime) (tenantId : String) (events : List CanonicalEvent) (id : String) :
    List Sighting :=
  ((events.flatMap (observations rt tenantId)).filterMap (Observation.sighting rt)).filter
    fun a => (entityGatherer tenantId).itemKey a = id

def edgesOf (rt : Runtime) (tenantId : String) (events : List CanonicalEvent) (id : String) :
    List Edge :=
  ((events.flatMap (observations rt tenantId)).filterMap Observation.asEdge).filter
    fun a => (edgeGatherer tenantId).itemKey a = id

theorem IdsApart.sightings (hids : IdsApart rt tenantId events) {a b : Sighting}
    (ha : a ∈ (events.flatMap (observations rt tenantId)).filterMap (Observation.sighting rt))
    (hb : b ∈ (events.flatMap (observations rt tenantId)).filterMap (Observation.sighting rt))
    (h : entityIdOf tenantId a.entityType.text a.key = entityIdOf tenantId b.entityType.text b.key) :
    a.entityType = b.entityType ∧ a.key = b.key := by
  obtain ⟨o, ho, ha⟩ := List.mem_filterMap.mp ha
  obtain ⟨o', ho', hb⟩ := List.mem_filterMap.mp hb
  cases o with
  | edge => cases ha
  | mention =>
      cases o' with
      | edge => cases hb
      | mention =>
          obtain rfl := Option.some.inj ha
          obtain rfl := Option.some.inj hb
          obtain ⟨htype, hkey⟩ := Prod.mk.inj (hids _ ho _ ho' h)
          exact ⟨EntityType.text_injective htype, hkey⟩

theorem IdsApart.edges (hids : IdsApart rt tenantId events) {a b : Edge}
    (ha : a ∈ (events.flatMap (observations rt tenantId)).filterMap Observation.asEdge)
    (hb : b ∈ (events.flatMap (observations rt tenantId)).filterMap Observation.asEdge)
    (h : relationshipId tenantId a.src a.relation a.dst =
      relationshipId tenantId b.src b.relation b.dst) :
    a.src = b.src ∧ a.relation = b.relation ∧ a.dst = b.dst := by
  obtain ⟨o, ho, ha⟩ := List.mem_filterMap.mp ha
  obtain ⟨o', ho', hb⟩ := List.mem_filterMap.mp hb
  cases o with
  | mention => cases ha
  | edge =>
      cases o' with
      | mention => cases hb
      | edge =>
          obtain rfl := Option.some.inj ha
          obtain rfl := Option.some.inj hb
          obtain ⟨hsrc, hrest⟩ := Prod.mk.inj (hids _ ho _ ho' (entityIdOf_of_relationshipId h))
          exact ⟨hsrc, relation_inj hrest⟩

/-- The sightings behind an entity are the mentions of its type and key. -/
theorem sighting_iff (hids : IdsApart rt tenantId events) {e : GraphEntity}
    (he : Told tenantId (sightingsOf rt tenantId events e.id) e) {event : CanonicalEvent}
    (hevent : event ∈ events) :
    (∃ a ∈ sightingsOf rt tenantId events e.id, a.event = event) ↔ Mentions rt event e := by
  obtain ⟨a₀, ha₀, htype, hkey⟩ := he.opened
  obtain ⟨hmem₀, hid₀⟩ := List.mem_filter.mp ha₀
  have hid₀ : entityIdOf tenantId a₀.entityType.text a₀.key = e.id := of_decide_eq_true hid₀
  constructor
  · rintro ⟨a, ha, rfl⟩
    obtain ⟨hmem, hid⟩ := List.mem_filter.mp ha
    have hid : entityIdOf tenantId a.entityType.text a.key = e.id := of_decide_eq_true hid
    obtain ⟨htype', hkey'⟩ := hids.sightings hmem hmem₀ (hid.trans hid₀.symm)
    obtain ⟨event, -, hobserved⟩ := mem_sightings_events hmem
    obtain ⟨rfl, key, hmention, hlower⟩ := mem_sightings hobserved
    refine ⟨key, ?_, ?_⟩
    · rw [← htype, ← htype']
      exact hmention
    · rw [hlower, hkey', hkey]
  · rintro ⟨key, hmention, hlower⟩
    obtain ⟨a, ha, hsame, htype', hkey'⟩ := exists_sighting rt tenantId hmention
    refine ⟨a, List.mem_filter.mpr ⟨?_, ?_⟩, hsame⟩
    · obtain ⟨o, ho, hsighting⟩ := List.mem_filterMap.mp ha
      exact List.mem_filterMap.mpr ⟨o, List.mem_flatMap.mpr ⟨event, hevent, ho⟩, hsighting⟩
    · have hid : entityIdOf tenantId a.entityType.text a.key = e.id := by
        rw [← hid₀, htype', hkey', htype, hkey]
        exact congrArg _ hlower
      exact decide_eq_true hid

/-! ### Provenance -/

theorem Finished.mem (h : Finished rt tenantId events findings criticality graph g)
    {e : GraphEntity} (he : e ∈ graph.entities) :
    ∃ built ∈ g.entities, finished rt findings criticality built = e :=
  List.mem_map.mp (h.entities.subset he)

theorem Finished.entityIds (h : Finished rt tenantId events findings criticality graph g) :
    (graph.entities.map GraphEntity.id).Nodup := by
  have hsame : (g.entities.map (finished rt findings criticality)).map GraphEntity.id =
      g.entities.map GraphEntity.id := by
    rw [List.map_map]
    rfl
  refine (h.entities.map GraphEntity.id).nodup_iff.mpr ?_
  rw [hsame]
  exact h.observed.entities.distinct

/-- Risk and criticality leave alone what an entity tells of its events. -/
theorem Finished.told (h : Finished rt tenantId events findings criticality graph g)
    {e : GraphEntity} (he : e ∈ graph.entities) :
    Told tenantId (sightingsOf rt tenantId events e.id) e := by
  obtain ⟨built, hbuilt, rfl⟩ := h.mem he
  have htold := h.observed.entities.sums built hbuilt
  exact ⟨htold.tenant, htold.opened, htold.distinct, htold.events, htold.first, htold.last,
    htold.since, htold.upTo⟩

theorem Finished.related (h : Finished rt tenantId events findings criticality graph g)
    {r : GraphRelationship} (hr : r ∈ graph.relationships) :
    Related (edgesOf rt tenantId events r.id) r := by
  rw [h.relationships] at hr
  exact h.observed.relationships.sums r hr

/-- What an event mentions is there, and lists the event. -/
theorem Finished.entity_of_mention (h : Finished rt tenantId events findings criticality graph g)
    {event : CanonicalEvent} (hevent : event ∈ events) {m : EntityType × String}
    (hm : m ∈ mentions event) :
    ∃ e ∈ graph.entities, e.id = entityId rt tenantId m.1 m.2 ∧ event.id ∈ e.eventIds := by
  obtain ⟨a, ha, hsame, htype, hkey⟩ := exists_sighting rt tenantId hm
  have hmem : a ∈ (events.flatMap (observations rt tenantId)).filterMap
      (Observation.sighting rt) := by
    obtain ⟨o, ho, hsighting⟩ := List.mem_filterMap.mp ha
    exact List.mem_filterMap.mpr ⟨o, List.mem_flatMap.mpr ⟨event, hevent, ho⟩, hsighting⟩
  obtain ⟨built, hbuilt, hid⟩ := h.observed.entities.covered a hmem
  have hin : finished rt findings criticality built ∈ graph.entities :=
    h.entities.symm.subset (List.mem_map_of_mem hbuilt)
  have hentity : entityIdOf tenantId a.entityType.text a.key = entityId rt tenantId m.1 m.2 := by
    rw [htype, hkey]
    rfl
  refine ⟨_, hin, hid.trans hentity, ((h.told hin).events event.id).mpr ⟨a, ?_, by rw [hsame]⟩⟩
  exact List.mem_filter.mpr ⟨hmem, decide_eq_true hid.symm⟩

/-- Events that all mention one id list themselves in one entity. -/
theorem Finished.endpoint (h : Finished rt tenantId events findings criticality graph g)
    {edges : List Edge} {id : String} (hne : edges ≠ [])
    (hends : ∀ a ∈ edges, ∃ event ∈ events, a.eventId = event.id ∧
      Mentioned rt tenantId event id) :
    ∃ e ∈ graph.entities, e.id = id ∧ ∀ a ∈ edges, a.eventId ∈ e.eventIds := by
  have hlisted : ∀ a ∈ edges, ∃ e ∈ graph.entities, e.id = id ∧ a.eventId ∈ e.eventIds := by
    intro a ha
    obtain ⟨event, hevent, hid, m, hm, hmention⟩ := hends a ha
    obtain ⟨e, he, hentity, hin⟩ := h.entity_of_mention hevent hm
    rw [← hid] at hin
    exact ⟨e, he, hentity.trans hmention, hin⟩
  obtain ⟨a₀, ha₀⟩ := List.exists_mem_of_ne_nil _ hne
  obtain ⟨e, he, hid, -⟩ := hlisted a₀ ha₀
  refine ⟨e, he, hid, ?_⟩
  intro a ha
  obtain ⟨e', he', hid', hin⟩ := hlisted a ha
  obtain rfl : e' = e := List.inj_on_of_nodup_map h.entityIds he' he (hid'.trans hid.symm)
  exact hin

theorem mem_edgesOf {id : String} {a : Edge} (ha : a ∈ edgesOf rt tenantId events id) :
    a ∈ (events.flatMap (observations rt tenantId)).filterMap Observation.asEdge ∧
      relationshipId tenantId a.src a.relation a.dst = id := by
  obtain ⟨hmem, hid⟩ := List.mem_filter.mp ha
  exact ⟨hmem, of_decide_eq_true hid⟩

/-- The edges behind a relationship have its ends, which their events mention. -/
theorem Finished.edges (h : Finished rt tenantId events findings criticality graph g)
    (hids : IdsApart rt tenantId events) {r : GraphRelationship} (hr : r ∈ graph.relationships)
    {a : Edge} (ha : a ∈ edgesOf rt tenantId events r.id) :
    ∃ event ∈ events, a.eventId = event.id ∧ Mentioned rt tenantId event r.srcId ∧
      Mentioned rt tenantId event r.dstId := by
  obtain ⟨a₀, ha₀, hsrc, -, hdst⟩ := (h.related hr).opened
  obtain ⟨hmem, hid⟩ := mem_edgesOf ha
  obtain ⟨hmem₀, hid₀⟩ := mem_edgesOf ha₀
  obtain ⟨hsrc', -, hdst'⟩ := hids.edges hmem hmem₀ (hid.trans hid₀.symm)
  obtain ⟨event, hevent, hobserved⟩ := mem_edges_events hmem
  obtain ⟨heventId, hfrom, hto⟩ := mem_edges hobserved
  rw [hsrc', hsrc] at hfrom
  rw [hdst', hdst] at hto
  exact ⟨event, hevent, heventId, hfrom, hto⟩

/-- An end that all events of a relationship mention is an entity that lists them all. -/
theorem Finished.end_listed (h : Finished rt tenantId events findings criticality graph g)
    {r : GraphRelationship} (hr : r ∈ graph.relationships) {id : String}
    (hends : ∀ a ∈ edgesOf rt tenantId events r.id, ∃ event ∈ events, a.eventId = event.id ∧
      Mentioned rt tenantId event id) :
    ∃ e ∈ graph.entities, e.id = id ∧ r.eventIds ⊆ e.eventIds := by
  obtain ⟨a₀, ha₀, -⟩ := (h.related hr).opened
  obtain ⟨e, he, hid, hlisted⟩ := h.endpoint (List.ne_nil_of_mem ha₀) hends
  refine ⟨e, he, hid, ?_⟩
  intro x hx
  obtain ⟨a, ha, rfl⟩ := ((h.related hr).events x).mp hx
  exact hlisted a ha

theorem event_of_sighting {id : String} {a : Sighting}
    (ha : a ∈ sightingsOf rt tenantId events id) : a.event ∈ events := by
  obtain ⟨event, hevent, hobserved⟩ := mem_sightings_events (List.mem_filter.mp ha).1
  rw [(mem_sightings hobserved).1]
  exact hevent

section

variable (h : Finished rt tenantId events findings criticality graph g)
  (hids : IdsApart rt tenantId events)

include h hids

theorem Finished.complete {event : CanonicalEvent} (hevent : event ∈ events)
    {m : EntityType × String} (hm : m ∈ mentions event) :
    ∃ e ∈ graph.entities, e.entityType = m.1 ∧ e.key = rt.lower m.2 := by
  obtain ⟨a, ha, hsame, htype, hkey⟩ := exists_sighting rt tenantId hm
  obtain ⟨e, he, hid, -⟩ := h.entity_of_mention hevent hm
  obtain ⟨a₀, ha₀, htype₀, hkey₀⟩ := (h.told he).opened
  obtain ⟨hmem₀, hid₀⟩ := List.mem_filter.mp ha₀
  have hid₀ : entityIdOf tenantId a₀.entityType.text a₀.key = e.id := of_decide_eq_true hid₀
  have hmem : a ∈ (events.flatMap (observations rt tenantId)).filterMap
      (Observation.sighting rt) := by
    obtain ⟨o, ho, hsighting⟩ := List.mem_filterMap.mp ha
    exact List.mem_filterMap.mpr ⟨o, List.mem_flatMap.mpr ⟨event, hevent, ho⟩, hsighting⟩
  have hid₁ : entityIdOf tenantId a₀.entityType.text a₀.key =
      entityIdOf tenantId a.entityType.text a.key := by
    rw [hid₀, hid, htype, hkey]
    rfl
  obtain ⟨htype₁, hkey₁⟩ := hids.sightings hmem₀ hmem hid₁
  refine ⟨e, he, ?_, ?_⟩
  · rw [← htype₀, htype₁, htype]
  · rw [← hkey₀, hkey₁, hkey]

theorem Finished.mem_eventIds_iff {e : GraphEntity} (he : e ∈ graph.entities) (id : String) :
    id ∈ e.eventIds ↔ ∃ event ∈ events, event.id = id ∧ Mentions rt event e := by
  rw [(h.told he).events id]
  constructor
  · rintro ⟨a, ha, rfl⟩
    have hevent := event_of_sighting ha
    exact ⟨a.event, hevent, rfl, (sighting_iff hids (h.told he) hevent).mp ⟨a, ha, rfl⟩⟩
  · rintro ⟨event, hevent, rfl, hmention⟩
    obtain ⟨a, ha, rfl⟩ := (sighting_iff hids (h.told he) hevent).mpr hmention
    exact ⟨a, ha, rfl⟩

variable (hcomparable : ∀ a ∈ events, ∀ b ∈ events, a.timestamp.Comparable b.timestamp)

include hcomparable

theorem Finished.firstSeen {e : GraphEntity} (he : e ∈ graph.entities) :
    (∃ event ∈ events, Mentions rt event e ∧ event.timestamp = e.firstSeen) ∧
      ∀ event ∈ events, Mentions rt event e → event.timestamp.lt e.firstSeen = .ok false := by
  obtain ⟨a, ha, hfirst⟩ := (h.told he).first
  have hevent := event_of_sighting ha
  have hmention := (sighting_iff hids (h.told he) hevent).mp ⟨a, ha, rfl⟩
  refine ⟨⟨a.event, hevent, hmention, hfirst⟩, ?_⟩
  intro event hevent' hmention'
  obtain ⟨b, hb, rfl⟩ := (sighting_iff hids (h.told he) hevent').mpr hmention'
  have hcomp := hcomparable _ hevent' _ hevent
  rw [hfirst] at hcomp
  have hsince := (h.told he).since b hb
  rw [hcomp.lt_eq, decide_eq_false (not_lt.mpr hsince)]

theorem Finished.lastSeen {e : GraphEntity} (he : e ∈ graph.entities) :
    (∃ event ∈ events, Mentions rt event e ∧ event.timestamp = e.lastSeen) ∧
      ∀ event ∈ events, Mentions rt event e → e.lastSeen.lt event.timestamp = .ok false := by
  obtain ⟨a, ha, hlast⟩ := (h.told he).last
  have hevent := event_of_sighting ha
  have hmention := (sighting_iff hids (h.told he) hevent).mp ⟨a, ha, rfl⟩
  refine ⟨⟨a.event, hevent, hmention, hlast⟩, ?_⟩
  intro event hevent' hmention'
  obtain ⟨b, hb, rfl⟩ := (sighting_iff hids (h.told he) hevent').mpr hmention'
  have hcomp := hcomparable _ hevent _ hevent'
  rw [hlast] at hcomp
  have hupTo := (h.told he).upTo b hb
  rw [hcomp.lt_eq, decide_eq_false (not_lt.mpr hupTo)]

end

end

/-- For every list of events of one tenant whose time stamps may be compared, where `entity_id`
does not confuse what is hashed for them: the graph is built, and it tells of the events what they
mention and nothing else. -/
theorem graph_provenance (rt : Runtime) (tenantId : String) (events : List CanonicalEvent)
    (htenant : ∀ event ∈ events, event.tenantId = tenantId)
    (hcomparable : ∀ a ∈ events, ∀ b ∈ events, a.timestamp.Comparable b.timestamp)
    (hids : IdsApart rt tenantId events) (findings : List Finding)
    (criticality : List (String × Criticality)) :
    ∃ graph, buildGraph rt events findings criticality = .ok graph ∧
      Provenance rt events graph := by
  obtain ⟨graph, g, hrun, h⟩ := buildGraph_finished htenant hcomparable findings criticality
  refine ⟨graph, hrun, ?_⟩
  constructor
  · exact h.entityIds
  · exact fun event hevent m hm => h.complete hids hevent hm
  · exact fun e he => ⟨(h.told he).distinct, h.mem_eventIds_iff hids he⟩
  · exact fun e he => h.firstSeen hids hcomparable he
  · exact fun e he => h.lastSeen hids hcomparable he
  · rw [h.relationships]
    exact h.observed.relationships.distinct
  · intro r hr
    obtain ⟨a, ha, -⟩ := (h.related hr).opened
    have hin : a.eventId ∈ r.eventIds := ((h.related hr).events _).mpr ⟨a, ha, rfl⟩
    exact ⟨List.ne_nil_of_mem hin, (h.related hr).distinct⟩
  · intro r hr
    refine h.end_listed hr fun a ha => ?_
    obtain ⟨event, hevent, hsame, hfrom, -⟩ := h.edges hids hr ha
    exact ⟨event, hevent, hsame, hfrom⟩
  · intro r hr
    refine h.end_listed hr fun a ha => ?_
    obtain ⟨event, hevent, hsame, -, hto⟩ := h.edges hids hr ha
    exact ⟨event, hevent, hsame, hto⟩

/-- A login of a user from an address. -/
def sampleLogin : CanonicalEvent where
  id := "evt_1"
  tenantId := "ten_a"
  timestamp := ⟨63839761325000000, some 0⟩
  ingestedAt := ⟨63839761325000000, some 0⟩
  source := "idp"
  sourceType := "identity"
  eventType := "login"
  category := "authentication"
  user := some { name := some "Alice" }
  srcIp := some "10.0.0.1"

theorem graph_provenance_login :
    ∃ graph, buildGraph sampleRuntime [sampleLogin] [] [] = .ok graph ∧
      Provenance sampleRuntime [sampleLogin] graph := by
  refine graph_provenance sampleRuntime "ten_a" [sampleLogin] ?_ ?_ ?_ [] []
  · decide
  · unfold DateTime.Comparable
    decide
  · unfold IdsApart
    decide +kernel

end BlueTeam.Graph
