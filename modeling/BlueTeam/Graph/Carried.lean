/- GID: BlueTeam/Graph/Carried
   generality: I
   source: packages/entity-graph/blueteam_graph/engine.py
   digest: The ids and the criticalities of a graph, whatever its time stamps are. -/

import BlueTeam.Graph.Provenance

set_option autoImplicit false
set_option relaxedAutoImplicit false

namespace BlueTeam.Graph

open BlueTeam.Python BlueTeam.Schema BlueTeam.Lib BlueTeam.Lib.Exec

section

variable {rt : Runtime} {tenantId : String}

/-- An upsert that returns keeps the ids that are there and adds its own. -/
theorem upsertIn_ids {event : CanonicalEvent} {fresh : GraphEntity}
    {entities entities' : List GraphEntity} (h : upsertIn event fresh entities = .ok entities')
    (id : String) :
    (∃ e ∈ entities', e.id = id) ↔ (∃ e ∈ entities, e.id = id) ∨ fresh.id = id := by
  induction entities generalizing entities' with
  | nil =>
      obtain rfl := Except.ok.inj h
      simp
  | cons e rest ih =>
      unfold upsertIn at h
      split at h
      · rename_i hsame
        obtain ⟨e', htouch, rfl⟩ := except_of_map h
        have hid := (touch_same htouch).1
        simp only [List.exists_mem_cons_iff, hid, hsame]
        constructor
        · exact .inl
        · rintro (hknown | hfresh)
          · exact hknown
          · exact .inl hfresh
      · obtain ⟨rest', hinner, rfl⟩ := except_of_map h
        have hrest := ih hinner
        simp only [List.exists_mem_cons_iff, hrest, or_assoc]

/-- The id that an observation mentions. -/
def Observation.mentionedId (rt : Runtime) (tenantId : String) : Observation → Option String
  | .mention _ entityType key _ _ => some (entityId rt tenantId entityType key)
  | .edge .. => none

theorem perform_ids {o : Observation} {g g' : Building}
    (h : o.perform rt tenantId g = (.ok (), g')) (id : String) :
    (∃ e ∈ g'.entities, e.id = id) ↔
      (∃ e ∈ g.entities, e.id = id) ∨ o.mentionedId rt tenantId = some id := by
  cases o with
  | mention event entityType key name attrs =>
      obtain ⟨made, g₁, hupsert, hpure⟩ := ok_of_bind h
      obtain ⟨-, rfl⟩ := Prod.mk.inj hpure
      unfold upsert at hupsert
      dsimp only at hupsert
      split at hupsert
      · rename_i entities hentities
        obtain ⟨-, rfl⟩ := Prod.mk.inj hupsert
        rw [upsertIn_ids hentities]
        simp only [Observation.mentionedId, Option.some.injEq]
      · cases hupsert
  | edge src relation dst eventId =>
      obtain ⟨-, rfl⟩ := Prod.mk.inj h
      simp [Observation.mentionedId]

theorem observe_ids {observations : List Observation} {g g' : Building}
    (h : observe rt tenantId observations g = (.ok (), g')) (id : String) :
    (∃ e ∈ g'.entities, e.id = id) ↔
      (∃ e ∈ g.entities, e.id = id) ∨ ∃ o ∈ observations, o.mentionedId rt tenantId = some id := by
  induction observations generalizing g with
  | nil =>
      obtain ⟨-, rfl⟩ := Prod.mk.inj h
      simp
  | cons o rest ih =>
      obtain ⟨u, g₁, hfirst, hrest⟩ := ok_of_bind h
      rw [ih hrest, perform_ids hfirst, List.exists_mem_cons_iff, or_assoc]

theorem mentioned_iff (event : CanonicalEvent) (id : String) :
    (∃ o ∈ observations rt tenantId event, o.mentionedId rt tenantId = some id) ↔
      Mentioned rt tenantId event id := by
  constructor
  · rintro ⟨o, ho, hid⟩
    cases o with
    | edge => cases hid
    | mention seen entityType key name attrs =>
        have hsighting : Sighting.mk seen entityType (rt.lower key) name attrs ∈
            (observations rt tenantId event).filterMap (Observation.sighting rt) :=
          List.mem_filterMap.mpr ⟨_, ho, rfl⟩
        obtain ⟨-, key', hkey', hlower⟩ := mem_sightings hsighting
        refine ⟨(entityType, key'), hkey', ?_⟩
        obtain rfl := Option.some.inj hid
        rw [entityId_eq, entityId_eq]
        exact congrArg (entityIdOf tenantId entityType.text) hlower
  · rintro ⟨m, hm, rfl⟩
    obtain ⟨a, ha, -, htype, hkey⟩ := exists_sighting rt tenantId hm
    obtain ⟨o, ho, hsighting⟩ := List.mem_filterMap.mp ha
    refine ⟨o, ho, ?_⟩
    cases o with
    | edge => cases hsighting
    | mention seen entityType key name attrs =>
        obtain rfl := Option.some.inj hsighting
        have htype : entityType = m.1 := htype
        have hkey : rt.lower key = rt.lower m.2 := hkey
        simp only [Observation.mentionedId, entityId_eq, htype, hkey]

/-- A graph is finished from what its observations build. -/
theorem entities_of_buildGraph {events : List CanonicalEvent} {findings : List Finding}
    {criticality : List (String × Criticality)} {graph : EntityGraph}
    (htenant : ∀ event ∈ events, event.tenantId = tenantId)
    (h : buildGraph rt events findings criticality = .ok graph) :
    ∃ g, observe rt tenantId (events.flatMap (observations rt tenantId)) {} = (.ok (), g) ∧
      graph.entities.Perm (g.entities.map (finished rt findings criticality)) := by
  cases hevents : events with
  | nil =>
      subst hevents
      obtain rfl := Except.ok.inj h
      exact ⟨{}, rfl, List.Perm.refl _⟩
  | cons event rest =>
      obtain rfl : event.tenantId = tenantId := htenant event (by simp [hevents])
      rw [hevents] at h
      unfold buildGraph at h
      dsimp only at h
      split at h
      · cases h
      · rename_i built hloop
        obtain rfl := Except.ok.inj h
        rw [loop_addEvent] at hloop
        exact ⟨built, hloop, List.perm_insertionSort _ _⟩

/-- A graph has the entities that its events mention, and no others. -/
theorem buildGraph_ids {events : List CanonicalEvent} {findings : List Finding}
    {criticality : List (String × Criticality)} {graph : EntityGraph}
    (htenant : ∀ event ∈ events, event.tenantId = tenantId)
    (h : buildGraph rt events findings criticality = .ok graph) (id : String) :
    (∃ e ∈ graph.entities, e.id = id) ↔ ∃ event ∈ events, Mentioned rt tenantId event id := by
  obtain ⟨g, hobserve, hperm⟩ := entities_of_buildGraph htenant h
  have hids : (∃ e ∈ graph.entities, e.id = id) ↔ ∃ e ∈ g.entities, e.id = id := by
    constructor
    · rintro ⟨e, he, rfl⟩
      obtain ⟨e', he', rfl⟩ := List.mem_map.mp (hperm.subset he)
      exact ⟨e', he', rfl⟩
    · rintro ⟨e, he, rfl⟩
      exact ⟨_, hperm.symm.subset (List.mem_map_of_mem he), rfl⟩
  have hobserved := observe_ids hobserve id
  rw [hids, hobserved]
  constructor
  · rintro (⟨e, he, -⟩ | ⟨o, ho, hid⟩)
    · cases he
    · obtain ⟨event, hevent, ho⟩ := List.mem_flatMap.mp ho
      exact ⟨event, hevent, (mentioned_iff event id).mp ⟨o, ho, hid⟩⟩
  · rintro ⟨event, hevent, hmentioned⟩
    obtain ⟨o, ho, hid⟩ := (mentioned_iff event id).mpr hmentioned
    exact .inr ⟨o, List.mem_flatMap.mpr ⟨event, hevent, ho⟩, hid⟩

/-- An entity has the criticality that is given for its id. -/
theorem buildGraph_criticality {events : List CanonicalEvent} {findings : List Finding}
    {criticality : List (String × Criticality)} {graph : EntityGraph}
    (htenant : ∀ event ∈ events, event.tenantId = tenantId)
    (h : buildGraph rt events findings criticality = .ok graph) {e : GraphEntity}
    (he : e ∈ graph.entities) : e.criticality = (criticality.lookup e.id).getD .unknown := by
  obtain ⟨g, -, hperm⟩ := entities_of_buildGraph htenant h
  obtain ⟨e', -, rfl⟩ := List.mem_map.mp (hperm.subset he)
  rfl

end

end BlueTeam.Graph
