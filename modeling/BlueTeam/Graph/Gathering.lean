/- GID: BlueTeam/Graph/Gathering
   generality: I
   source: packages/entity-graph/blueteam_graph/engine.py
   digest: The dicts of a graph under construction sum up the observations made so far. -/

import BlueTeam.Graph.Observed
import BlueTeam.Lib.Gather

set_option autoImplicit false
set_option relaxedAutoImplicit false

namespace BlueTeam.Graph

open BlueTeam.Python BlueTeam.Schema BlueTeam.Lib BlueTeam.Lib.Exec

/-! ### Entities -/

/-- An entity is mentioned by an event, under a lower-cased key. -/
structure Sighting where
  event : CanonicalEvent
  entityType : EntityType
  key : String
  name : String
  attrs : List (String × String)

def Observation.sighting (rt : Runtime) : Observation → Option Sighting
  | .mention event entityType key name attrs => some ⟨event, entityType, rt.lower key, name, attrs⟩
  | .edge .. => none

/-- `entity_id`, of a type and a key that is lower-cased already. -/
def entityIdOf (tenantId entityType lowered : String) : String :=
  "ent_" ++ takeChars 32 (sha256Hex (tenantId ++ "|" ++ entityType ++ "|" ++ lowered))

theorem entityId_eq (rt : Runtime) (tenantId : String) (entityType : EntityType) (key : String) :
    entityId rt tenantId entityType key = entityIdOf tenantId entityType.text (rt.lower key) := rfl

/-- `upsert` gathers the sightings of one id. -/
def entityGatherer (tenantId : String) : Gatherer Sighting GraphEntity String Exn where
  itemKey a := entityIdOf tenantId a.entityType.text a.key
  rowKey := GraphEntity.id
  fresh a :=
    { id := entityIdOf tenantId a.entityType.text a.key
      tenantId := tenantId
      entityType := a.entityType
      key := a.key
      displayName := a.name
      firstSeen := a.event.timestamp
      lastSeen := a.event.timestamp
      eventIds := [a.event.id]
      attributes := a.attrs.filter fun f => f.2 ≠ "" }
  merge a := touch a.event

/-- `if id not in ids: ids.append(id)` -/
def addId (id : String) (ids : List String) : List String :=
  if id ∈ ids then ids else ids ++ [id]

theorem nodup_addId {id : String} {ids : List String} (h : ids.Nodup) : (addId id ids).Nodup := by
  unfold addId
  split
  · exact h
  · rename_i hnotin
    rw [List.nodup_append]
    refine ⟨h, by simp, ?_⟩
    rintro x hx y hy rfl
    obtain rfl := List.mem_singleton.mp hy
    exact hnotin hx

theorem mem_addId {id x : String} {ids : List String} : x ∈ addId id ids ↔ x ∈ ids ∨ x = id := by
  unfold addId
  split
  · rename_i hin
    constructor
    · exact .inl
    · rintro (hx | rfl)
      · exact hx
      · exact hin
  · rw [List.mem_append, List.mem_singleton]

/-- Ids that list the events of some items, with the event of one item more. -/
theorem mem_addId_iff {α : Type} {eventId : α → String} {items : List α} {ids : List String}
    (h : ∀ id, id ∈ ids ↔ ∃ a ∈ items, eventId a = id) (a : α) (id : String) :
    id ∈ addId (eventId a) ids ↔ ∃ b ∈ items ++ [a], eventId b = id := by
  rw [mem_addId, h]
  constructor
  · rintro (⟨b, hb, hid⟩ | rfl)
    · exact ⟨b, List.mem_append_left _ hb, hid⟩
    · exact ⟨a, by simp, rfl⟩
  · rintro ⟨b, hb, rfl⟩
    rcases List.mem_append.mp hb with hb | hb
    · exact .inl ⟨b, hb, rfl⟩
    · obtain rfl := List.mem_singleton.mp hb
      exact .inr rfl

/-- An entity tells which events mention it, and from when to when. -/
structure Told (tenantId : String) (sightings : List Sighting) (e : GraphEntity) : Prop where
  tenant : e.tenantId = tenantId
  opened : ∃ a ∈ sightings, a.entityType = e.entityType ∧ a.key = e.key
  distinct : e.eventIds.Nodup
  events : ∀ id, id ∈ e.eventIds ↔ ∃ a ∈ sightings, a.event.id = id
  first : ∃ a ∈ sightings, a.event.timestamp = e.firstSeen
  last : ∃ a ∈ sightings, a.event.timestamp = e.lastSeen
  since : ∀ a ∈ sightings, e.firstSeen.instant ≤ a.event.timestamp.instant
  upTo : ∀ a ∈ sightings, a.event.timestamp.instant ≤ e.lastSeen.instant

/-- Two sightings whose time stamps may be compared. -/
def Sighting.Agree (a b : Sighting) : Prop :=
  a.event.timestamp.Comparable b.event.timestamp

theorem told_fresh (tenantId : String) (a : Sighting) :
    Told tenantId [a] ((entityGatherer tenantId).fresh a) where
  tenant := rfl
  opened := ⟨a, List.mem_cons_self, rfl, rfl⟩
  distinct := List.nodup_singleton _
  events id := by
    simp [entityGatherer, eq_comm (a := id)]
  first := ⟨a, List.mem_cons_self, rfl⟩
  last := ⟨a, List.mem_cons_self, rfl⟩
  since b hb := by
    obtain rfl := List.mem_singleton.mp hb
    exact le_refl _
  upTo b hb := by
    obtain rfl := List.mem_singleton.mp hb
    exact le_refl _

/-- An entity after an event mentions it again. -/
def touched (event : CanonicalEvent) (e : GraphEntity) : GraphEntity :=
  { e with
    eventIds := addId event.id e.eventIds
    firstSeen :=
      if event.timestamp.instant < e.firstSeen.instant then event.timestamp else e.firstSeen
    lastSeen :=
      if e.lastSeen.instant < event.timestamp.instant then event.timestamp else e.lastSeen }

theorem touch_eq {event : CanonicalEvent} {e : GraphEntity}
    (hfirst : event.timestamp.Comparable e.firstSeen)
    (hlast : e.lastSeen.Comparable event.timestamp) : touch event e = .ok (touched event e) := by
  unfold touch
  rw [hfirst.lt_eq, hlast.lt_eq]
  simp only [bind, Except.bind, decide_eq_true_eq]
  rfl

theorem Told.touched {tenantId : String} {sightings : List Sighting} {e : GraphEntity}
    (h : Told tenantId sightings e) (a : Sighting) :
    Told tenantId (sightings ++ [a]) (touched a.event e) := by
  obtain ⟨b, hb, hfirst⟩ := h.first
  obtain ⟨c, hc, hlast⟩ := h.last
  obtain ⟨d, hd, hsame⟩ := h.opened
  have hnew : a ∈ sightings ++ [a] := by simp
  have hold : ∀ {b}, b ∈ sightings → b ∈ sightings ++ [a] := fun hb => List.mem_append_left _ hb
  have hcases : ∀ x ∈ sightings ++ [a], x ∈ sightings ∨ x = a := by
    intro x hx
    simpa using hx
  unfold Graph.touched
  refine ⟨h.tenant, ⟨d, hold hd, hsame⟩, nodup_addId h.distinct, mem_addId_iff h.events a, ?_, ?_,
    ?_, ?_⟩ <;> dsimp only
  · split
    · exact ⟨a, hnew, rfl⟩
    · exact ⟨b, hold hb, hfirst⟩
  · split
    · exact ⟨a, hnew, rfl⟩
    · exact ⟨c, hold hc, hlast⟩
  · intro x hx
    rcases hcases x hx with hx | rfl
    · have hsince := h.since x hx
      split <;> omega
    · split <;> omega
  · intro x hx
    rcases hcases x hx with hx | rfl
    · have hupTo := h.upTo x hx
      split <;> omega
    · split <;> omega

/-- An event that comes back to an entity. -/
theorem Told.touch {tenantId : String} {sightings : List Sighting} {e : GraphEntity}
    (h : Told tenantId sightings e) {a : Sighting} (hagree : ∀ b ∈ sightings, b.Agree a) :
    ∃ e', Graph.touch a.event e = .ok e' ∧ e'.id = e.id ∧ Told tenantId (sightings ++ [a]) e' := by
  obtain ⟨b, hb, hfirst⟩ := h.first
  obtain ⟨c, hc, hlast⟩ := h.last
  have hearly : a.event.timestamp.Comparable e.firstSeen := by
    rw [← hfirst]
    exact DateTime.Comparable.symm (hagree b hb)
  have hlate : e.lastSeen.Comparable a.event.timestamp := by
    rw [← hlast]
    exact hagree c hc
  exact ⟨_, touch_eq hearly hlate, rfl, h.touched a⟩

theorem entityGatherer_lawful (tenantId : String) :
    (entityGatherer tenantId).Lawful (Told tenantId) Sighting.Agree where
  fresh_key _ := rfl
  fresh := told_fresh tenantId
  merge _ _ _ htold hagree := htold.touch hagree

theorem upsertIn_eq (tenantId : String) (a : Sighting) (entities : List GraphEntity) :
    upsertIn a.event ((entityGatherer tenantId).fresh a) entities =
      (entityGatherer tenantId).put a entities := by
  induction entities with
  | nil => rfl
  | cons e es ih =>
      unfold upsertIn Gatherer.put
      rw [ih]
      rfl

/-! ### Relationships -/

structure Edge where
  src : String
  relation : RelationType
  dst : String
  eventId : String

def Observation.asEdge : Observation → Option Edge
  | .mention .. => none
  | .edge src relation dst eventId => some ⟨src, relation, dst, eventId⟩

/-- `relate` gathers the edges of one id. -/
def edgeGatherer (tenantId : String) : Gatherer Edge GraphRelationship String Exn where
  itemKey a := relationshipId tenantId a.src a.relation a.dst
  rowKey := GraphRelationship.id
  fresh a :=
    { id := relationshipId tenantId a.src a.relation a.dst
      tenantId := tenantId
      srcId := a.src
      dstId := a.dst
      relation := a.relation
      eventIds := [a.eventId] }
  merge a r := .ok { r with eventIds := addId a.eventId r.eventIds }

structure Related (edges : List Edge) (r : GraphRelationship) : Prop where
  opened : ∃ a ∈ edges, a.src = r.srcId ∧ a.relation = r.relation ∧ a.dst = r.dstId
  distinct : r.eventIds.Nodup
  events : ∀ id, id ∈ r.eventIds ↔ ∃ a ∈ edges, a.eventId = id

theorem related_fresh (tenantId : String) (a : Edge) :
    Related [a] ((edgeGatherer tenantId).fresh a) where
  opened := ⟨a, List.mem_cons_self, rfl, rfl, rfl⟩
  distinct := List.nodup_singleton _
  events id := by
    simp [edgeGatherer, eq_comm (a := id)]

theorem Related.merge {edges : List Edge} {r : GraphRelationship} (h : Related edges r) (a : Edge) :
    Related (edges ++ [a]) { r with eventIds := addId a.eventId r.eventIds } := by
  obtain ⟨d, hd, hsame⟩ := h.opened
  exact ⟨⟨d, List.mem_append_left _ hd, hsame⟩, nodup_addId h.distinct, mem_addId_iff h.events a⟩

theorem edgeGatherer_lawful (tenantId : String) :
    (edgeGatherer tenantId).Lawful Related (fun _ _ => True) where
  fresh_key _ := rfl
  fresh := related_fresh tenantId
  merge _ a _ hrelated _ := ⟨_, rfl, rfl, hrelated.merge a⟩

theorem relateIn_eq (tenantId : String) (a : Edge) (relationships : List GraphRelationship) :
    (edgeGatherer tenantId).put a relationships =
      .ok (relateIn ((edgeGatherer tenantId).fresh a) a.eventId relationships) := by
  induction relationships with
  | nil => rfl
  | cons r rs ih =>
      have hmerged : { r with eventIds := addId a.eventId r.eventIds } =
          if a.eventId ∈ r.eventIds then r
          else { r with eventIds := r.eventIds ++ [a.eventId] } := by
        unfold addId
        split <;> rfl
      unfold relateIn Gatherer.put
      rw [ih, ← hmerged]
      by_cases hr : r.id = ((edgeGatherer tenantId).fresh a).id
      · rw [if_pos hr]
        exact if_pos hr
      · rw [if_neg hr]
        exact if_neg hr

/-! ### What is built -/

/-- What is built sums up the observations made so far. -/
structure Observed (rt : Runtime) (tenantId : String) (done : List Observation) (g : Building) :
    Prop where
  entities : (entityGatherer tenantId).Gathered (Told tenantId)
    (done.filterMap (Observation.sighting rt)) g.entities
  relationships : (edgeGatherer tenantId).Gathered Related
    (done.filterMap Observation.asEdge) g.relationships

/-- The events of the mentions have time stamps that may be compared. -/
def Observation.Agree (rt : Runtime) (o o' : Observation) : Prop :=
  ∀ a ∈ o.sighting rt, ∀ b ∈ o'.sighting rt, a.Agree b

section

variable {rt : Runtime} {tenantId : String} {done : List Observation} {g : Building}

theorem observed_empty : Observed rt tenantId [] {} :=
  ⟨Gatherer.gathered_nil, Gatherer.gathered_nil⟩

/-- What a mention does, if its upsert goes well. -/
theorem perform_mention {event : CanonicalEvent} {entityType : EntityType} {key name : String}
    {attrs : List (String × String)} {entities : List GraphEntity}
    (h : (entityGatherer tenantId).put ⟨event, entityType, rt.lower key, name, attrs⟩ g.entities =
      .ok entities) :
    (Observation.mention event entityType key name attrs).perform rt tenantId g =
      (.ok (), { g with entities := entities }) := by
  rw [← upsertIn_eq] at h
  have hupsert : upsert rt tenantId entityType key name event attrs g =
      (.ok (entityId rt tenantId entityType key), { g with entities := entities }) := by
    dsimp only [entityGatherer] at h
    unfold upsert
    simp only [entityId_eq, h]
  show (upsert rt tenantId entityType key name event attrs >>= fun _ => pure ()) g = _
  rw [bind_run, hupsert]
  rfl

/-- One observation more. -/
theorem Observed.perform (h : Observed rt tenantId done g) {o : Observation}
    (hagree : ∀ o' ∈ done, o'.Agree rt o) :
    ∃ g', o.perform rt tenantId g = (.ok (), g') ∧ Observed rt tenantId (done ++ [o]) g' := by
  cases o with
  | mention event entityType key name attrs =>
      have hput := h.entities.put (entityGatherer_lawful tenantId)
        (a := ⟨event, entityType, rt.lower key, name, attrs⟩) ?_
      · obtain ⟨entities, hentities, hgathered⟩ := hput
        refine ⟨{ g with entities := entities }, perform_mention hentities, ?_, ?_⟩
        · rw [List.filterMap_append]
          exact hgathered
        · rw [List.filterMap_append]
          show (edgeGatherer tenantId).Gathered Related (_ ++ []) g.relationships
          rw [List.append_nil]
          exact h.relationships
      · intro b hb
        obtain ⟨o', ho', hsighting⟩ := List.mem_filterMap.mp hb
        exact hagree o' ho' b hsighting _ rfl
  | edge src relation dst eventId =>
      obtain ⟨relationships, hput, hgathered⟩ := h.relationships.put
        (edgeGatherer_lawful tenantId) (a := ⟨src, relation, dst, eventId⟩) fun _ _ => trivial
      rw [relateIn_eq] at hput
      obtain rfl := Except.ok.inj hput
      refine ⟨_, rfl, ?_, ?_⟩
      · rw [List.filterMap_append]
        show (entityGatherer tenantId).Gathered (Told tenantId) (_ ++ []) g.entities
        rw [List.append_nil]
        exact h.entities
      · rw [List.filterMap_append]
        exact hgathered

/-- All observations, if their events may be compared. -/
theorem observe_observed {todo : List Observation}
    (hagree : ∀ o ∈ todo, ∀ o' ∈ todo, o.Agree rt o') :
    ∃ g, observe rt tenantId todo {} = (.ok (), g) ∧ Observed rt tenantId todo g := by
  let I : Unit → List Observation → Building → Prop := fun _ rest g =>
    ∃ done, done ++ rest = todo ∧ Observed rt tenantId done g
  have hloop : Triple (I () todo) (observe rt tenantId todo) (fun _ => I () [])
      (fun _ _ => False) := by
    refine triple_loop I ?_ () todo
    intro _ o rest
    constructor
    rintro g ⟨done, hdone, hg⟩
    have hmem : ∀ o' ∈ done ++ [o], o' ∈ todo := by
      intro o' ho'
      rw [← hdone]
      simp only [List.mem_append, List.mem_cons, List.not_mem_nil, or_false] at ho' ⊢
      tauto
    obtain ⟨g', hrun, hg'⟩ := hg.perform (o := o) fun o' ho' =>
      hagree o' (hmem o' (List.mem_append_left _ ho')) o (hmem o (by simp))
    rw [hrun]
    exact ⟨done ++ [o], by simpa using hdone, hg'⟩
  have hrun := hloop.run {} ⟨[], rfl, observed_empty⟩
  rcases hobserve : observe rt tenantId todo {} with ⟨⟨e⟩ | ⟨u⟩, g⟩
  · rw [hobserve] at hrun
    exact hrun.elim
  · rw [hobserve] at hrun
    obtain ⟨done, hdone, hg⟩ := hrun
    rw [List.append_nil] at hdone
    subst hdone
    exact ⟨g, rfl, hg⟩

end

end BlueTeam.Graph
