/- GID: BlueTeam/Graph/Building
   generality: I
   source: packages/entity-graph/blueteam_graph/engine.py
   digest: Which entities and relationships an event names; what upserts and relations of these
     keep, building the graph keeps. -/

import BlueTeam.Graph.Engine

set_option autoImplicit false
set_option relaxedAutoImplicit false

namespace BlueTeam.Graph

open BlueTeam.Python BlueTeam.Schema BlueTeam.Lib BlueTeam.Lib.Exec

/-! ### What an event names -/

/-- The entities of an event, by type and key. -/
def entityKeys (event : CanonicalEvent) : List (EntityType × String) :=
  List.flatten
    [(event.user.map fun user => (.user, user.name.getD "")).toList,
     (event.host.map fun host => (.host, (firstGiven host.id host.name).getD "")).toList,
     (event.process.map fun process => (.process, processKey process)).toList,
     (event.parentProcess.map fun parent => (.process, processKey parent)).toList,
     [(.ip, event.srcIp.getD ""), (.ip, event.dstIp.getD ""), (.domain, event.domain.getD "")],
     (event.cloudResource.map fun cloud =>
       (.cloudResource, (firstGiven cloud.resourceId cloud.accountId).getD "")).toList]

def entityIds (rt : Runtime) (tenantId : String) (event : CanonicalEvent) : List String :=
  (entityKeys event).map fun k => entityId rt tenantId k.1 k.2

/-- The ids of the relationships there may be between them. -/
def relationshipIds (rt : Runtime) (tenantId : String) (event : CanonicalEvent)
    (relation : RelationType) : List String :=
  (entityIds rt tenantId event).flatMap fun src =>
    (entityIds rt tenantId event).map fun dst => relationshipId tenantId src relation dst

theorem mem_entityIds {rt : Runtime} {tenantId : String} {event : CanonicalEvent}
    {entityType : EntityType} {key : String} (h : (entityType, key) ∈ entityKeys event) :
    entityId rt tenantId entityType key ∈ entityIds rt tenantId event :=
  List.mem_map.mpr ⟨_, h, rfl⟩

theorem mem_relationshipIds {rt : Runtime} {tenantId : String} {event : CanonicalEvent}
    {src dst : String} {relation : RelationType} (hsrc : src ∈ entityIds rt tenantId event)
    (hdst : dst ∈ entityIds rt tenantId event) :
    relationshipId tenantId src relation dst ∈ relationshipIds rt tenantId event relation :=
  List.mem_flatMap.mpr ⟨src, hsrc, List.mem_map.mpr ⟨dst, hdst, rfl⟩⟩

section

variable {rt : Runtime} {tenantId : String} {event : CanonicalEvent}
  {P : Building → Prop} {E : Exn → Building → Prop}

/-- The two operations of `build_graph` keep a statement about what is built so far, applied to
what the event names. -/
structure Keeping (rt : Runtime) (tenantId : String) (event : CanonicalEvent)
    (P : Building → Prop) (E : Exn → Building → Prop) : Prop where
  upsert : ∀ entityType key name attrs, (entityType, key) ∈ entityKeys event →
    Triple P (upsert rt tenantId entityType key name event attrs) (fun _ => P) E
  relate : ∀ src relation dst, src ∈ entityIds rt tenantId event →
    dst ∈ entityIds rt tenantId event →
    Triple P (relate tenantId src relation dst event.id) (fun _ => P) E

/-- What an upsert of the event gives, if anything: the id of one of its entities. -/
def NamedId (rt : Runtime) (tenantId : String) (event : CanonicalEvent) (id : Option String) :
    Prop :=
  ∀ i, id = some i → i ∈ entityIds rt tenantId event

theorem namedId_none : NamedId rt tenantId event none := by
  intro i hi
  cases hi

theorem namedId_some {entityType : EntityType} {key : String}
    (h : (entityType, key) ∈ entityKeys event) :
    NamedId rt tenantId event (some (entityId rt tenantId entityType key)) := by
  intro i hi
  obtain rfl := Option.some.inj hi
  exact mem_entityIds h

/-- A statement is kept, and the id that comes back is one of the event's. -/
def KeepsNamed (rt : Runtime) (tenantId : String) (event : CanonicalEvent) (P : Building → Prop)
    (E : Exn → Building → Prop) (m : Exec Building Exn (Option String)) : Prop :=
  Triple P m (fun id g => NamedId rt tenantId event id ∧ P g) E

theorem keepsNamed_none : KeepsNamed rt tenantId event P E (pure none) :=
  triple_pure fun _ hg => ⟨namedId_none, hg⟩

theorem upsert_id {entityType : EntityType} {key name id : String} {attrs : List (String × String)}
    {g g' : Building} (h : upsert rt tenantId entityType key name event attrs g = (.ok id, g')) :
    id = entityId rt tenantId entityType key := by
  unfold upsert at h
  dsimp only at h
  split at h
  · cases h
    rfl
  · cases h

theorem Keeping.upsertNamed (h : Keeping rt tenantId event P E) {entityType : EntityType}
    {key : String} (hkey : (entityType, key) ∈ entityKeys event) (name : String)
    (attrs : List (String × String)) :
    Triple P (Graph.upsert rt tenantId entityType key name event attrs)
      (fun id g => NamedId rt tenantId event (some id) ∧ P g) E := by
  constructor
  intro g hg
  have hrun := (h.upsert entityType key name attrs hkey).run g hg
  rcases hupsert : Graph.upsert rt tenantId entityType key name event attrs g with ⟨⟨e⟩ | ⟨id⟩, g'⟩
  · rw [hupsert] at hrun
    exact hrun
  · rw [hupsert] at hrun
    obtain rfl := upsert_id hupsert
    exact ⟨namedId_some hkey, hrun⟩

theorem Keeping.upsertSome (h : Keeping rt tenantId event P E) {entityType : EntityType}
    {key : String} (hkey : (entityType, key) ∈ entityKeys event) (name : String)
    (attrs : List (String × String)) :
    KeepsNamed rt tenantId event P E
      (some <$> Graph.upsert rt tenantId entityType key name event attrs) :=
  triple_map (h.upsertNamed hkey name attrs)

theorem Keeping.relateGiven (h : Keeping rt tenantId event P E) {src dst : Option String}
    (hsrc : NamedId rt tenantId event src) (hdst : NamedId rt tenantId event dst)
    (relation : RelationType) :
    Triple P (relateGiven tenantId src relation dst event.id) (fun _ => P) E := by
  unfold Graph.relateGiven
  split
  · rename_i s d
    exact h.relate _ _ _ (hsrc s rfl) (hdst d rfl)
  · exact triple_pure fun _ hg => hg

theorem Keeping.addDomain (h : Keeping rt tenantId event P E) :
    Triple P (addDomain rt tenantId event) (fun _ => P) E := by
  unfold Graph.addDomain
  split
  · refine triple_bind (h.upsertNamed (by simp [entityKeys]) _ _) fun domainId => ?_
    refine triple_given fun hdomain => ?_
    refine h.relateGiven ?_ hdomain _
    split
    · exact namedId_some (by simp [entityKeys])
    · exact namedId_none
  · exact triple_pure fun _ hg => hg

theorem Keeping.addCloudResource (h : Keeping rt tenantId event P E) :
    Triple P (addCloudResource rt tenantId event) (fun _ => P) E := by
  unfold Graph.addCloudResource
  split
  · rename_i cloud hcloud
    dsimp only
    split
    · refine triple_bind (h.upsert _ _ _ _ ?_) fun _ => triple_pure fun _ hg => hg
      simp [entityKeys, hcloud]
    · exact triple_pure fun _ hg => hg
  · exact triple_pure fun _ hg => hg

theorem Keeping.addParent (h : Keeping rt tenantId event P E) {procId : Option String}
    (hproc : NamedId rt tenantId event procId) :
    Triple P (addParent rt tenantId event procId) (fun _ => P) E := by
  unfold Graph.addParent
  split
  · rename_i parent hparent
    split
    · refine triple_bind (h.upsertNamed ?_ _ _) fun parentId => ?_
      · simp [entityKeys, hparent]
      · exact triple_given fun hid => h.relateGiven hproc hid _
    · exact triple_pure fun _ hg => hg
  · exact triple_pure fun _ hg => hg

theorem Keeping.upsertUser (h : Keeping rt tenantId event P E) :
    KeepsNamed rt tenantId event P E (upsertUser rt tenantId event) := by
  unfold Graph.upsertUser
  split
  · rename_i user huser
    split
    · exact h.upsertSome (by simp [entityKeys, huser]) _ _
    · exact keepsNamed_none
  · exact keepsNamed_none

theorem Keeping.upsertHost (h : Keeping rt tenantId event P E) :
    KeepsNamed rt tenantId event P E (upsertHost rt tenantId event) := by
  unfold Graph.upsertHost
  split
  · rename_i host hhost
    dsimp only
    split
    · exact h.upsertSome (by simp [entityKeys, hhost]) _ _
    · exact keepsNamed_none
  · exact keepsNamed_none

theorem Keeping.upsertProcess (h : Keeping rt tenantId event P E) :
    KeepsNamed rt tenantId event P E (upsertProcess rt tenantId event) := by
  unfold Graph.upsertProcess
  split
  · rename_i process hprocess
    split
    · exact h.upsertSome (by simp [entityKeys, hprocess]) _ _
    · exact keepsNamed_none
  · exact keepsNamed_none

theorem Keeping.upsertIp (h : Keeping rt tenantId event P E) {ip : Option String} {role : String}
    (hip : (.ip, ip.getD "") ∈ entityKeys event) :
    KeepsNamed rt tenantId event P E (upsertIp rt tenantId event ip role) := by
  unfold Graph.upsertIp
  split
  · exact h.upsertSome hip _ _
  · exact keepsNamed_none

theorem Keeping.addEvent (h : Keeping rt tenantId event P E) :
    Triple P (addEvent rt tenantId event) (fun _ => P) E := by
  unfold Graph.addEvent
  refine triple_bind h.upsertUser fun userId => triple_given fun huser => ?_
  refine triple_bind h.upsertHost fun hostId => triple_given fun hhost => ?_
  refine triple_bind h.upsertProcess fun procId => triple_given fun hproc => ?_
  refine triple_bind (h.upsertIp (by simp [entityKeys])) fun srcIp => triple_given fun hsrc => ?_
  refine triple_bind (h.relateGiven huser hsrc _) fun _ => ?_
  refine triple_bind (h.relateGiven hhost hsrc _) fun _ => ?_
  refine triple_bind (h.upsertIp (by simp [entityKeys])) fun dstIp => triple_given fun hdst => ?_
  refine triple_bind (h.relateGiven hhost hdst _) fun _ => ?_
  refine triple_bind (h.relateGiven hproc hdst _) fun _ => ?_
  refine triple_bind h.addDomain fun _ => ?_
  refine triple_bind h.addCloudResource fun _ => ?_
  refine triple_bind (h.relateGiven huser hhost _) fun _ => ?_
  refine triple_bind (h.relateGiven hhost hproc _) fun _ => ?_
  exact h.addParent hproc

end

/-- A graph comes from what was built: its entities with their risk, its relationships as they
are. -/
structure Built (rt : Runtime) (findings : List Finding) (built : Building) (graph : EntityGraph) :
    Prop where
  entities : ∀ entity ∈ graph.entities, ∃ e ∈ built.entities, ∃ criticality,
    entity = applyRisk rt findings { e with criticality := criticality }
  relationships : graph.relationships = built.relationships

/-- What holds of nothing and is kept for every event, holds of what a graph is built from. -/
theorem buildGraph_spec (rt : Runtime) (events : List CanonicalEvent) (tenantId : String)
    {P : Building → Prop} {E : Exn → Building → Prop}
    (htenant : ∀ event, events.head? = some event → event.tenantId = tenantId)
    (hkeeping : ∀ event ∈ events, Keeping rt tenantId event P E) (hempty : P {})
    (findings : List Finding) (criticality : List (String × Criticality)) :
    (∃ built graph, buildGraph rt events findings criticality = .ok graph ∧ P built ∧
        Built rt findings built graph) ∨
      ∃ e g, buildGraph rt events findings criticality = .error e ∧ E e g := by
  cases events with
  | nil => exact .inl ⟨{}, _, rfl, hempty, fun entity hentity => (by cases hentity), rfl⟩
  | cons event events =>
      obtain rfl := htenant event rfl
      have hloop := triple_loop (E := E)
        (f := fun (_ : Unit) e => addEvent rt event.tenantId e)
        (fun _ rest g => rest ⊆ event :: events ∧ P g) ?_ () (event :: events)
      · have hrun := hloop.run {} ⟨List.Subset.refl _, hempty⟩
        unfold buildGraph
        dsimp only
        rcases hloop' : loop (fun (_ : Unit) e => addEvent rt event.tenantId e) ()
          (event :: events) {} with ⟨⟨e⟩ | ⟨u⟩, g⟩
        · rw [hloop'] at hrun
          exact .inr ⟨e, g, rfl, hrun⟩
        · rw [hloop'] at hrun
          refine .inl ⟨g, _, rfl, hrun.2, ?_, rfl⟩
          intro entity hentity
          have hmem := (List.perm_insertionSort _ _).subset hentity
          obtain ⟨e, he, rfl⟩ := List.mem_map.mp hmem
          exact ⟨e, he, _, rfl⟩
      · intro _ e rest
        refine triple_given fun hsub => ?_
        obtain ⟨he, hrest⟩ := List.cons_subset.mp hsub
        exact (hkeeping e he).addEvent.post fun _ g hg => ⟨hrest, hg⟩

/-! ### The ids of a graph -/

section

variable {rt : Runtime} {tenantId : String} {events : List CanonicalEvent}

/-- Entities and relationships of one tenant, under ids that the events name. -/
structure Named (rt : Runtime) (tenantId : String) (events : List CanonicalEvent)
    (entities : List GraphEntity) (relationships : List GraphRelationship) : Prop where
  entities : ∀ entity ∈ entities, entity.tenantId = tenantId ∧
    ∃ event ∈ events, entity.id ∈ entityIds rt tenantId event
  relationships : ∀ rel ∈ relationships, rel.tenantId = tenantId ∧
    ∃ event ∈ events, ∃ relation, rel.id ∈ relationshipIds rt tenantId event relation

theorem touch_same {event : CanonicalEvent} {e e' : GraphEntity} (h : touch event e = .ok e') :
    e'.id = e.id ∧ e'.tenantId = e.tenantId := by
  obtain ⟨early, -, h⟩ := except_of_bind h
  obtain ⟨late, -, h⟩ := except_of_bind h
  obtain rfl := Except.ok.inj h
  exact ⟨rfl, rfl⟩

/-- An upsert leaves the ids and tenants that are there, and adds at most its own. -/
theorem forall_upsertIn {p : String → String → Prop} {event : CanonicalEvent} {fresh : GraphEntity}
    {entities entities' : List GraphEntity} (hfresh : p fresh.id fresh.tenantId)
    (h : ∀ e ∈ entities, p e.id e.tenantId) (hrun : upsertIn event fresh entities = .ok entities') :
    ∀ e ∈ entities', p e.id e.tenantId := by
  induction entities generalizing entities' with
  | nil =>
      obtain rfl := Except.ok.inj hrun
      simpa using hfresh
  | cons e rest ih =>
      obtain ⟨he, hrest⟩ := List.forall_mem_cons.mp h
      unfold upsertIn at hrun
      split at hrun
      · obtain ⟨e', htouch, rfl⟩ := except_of_map hrun
        obtain ⟨hid, htenant⟩ := touch_same htouch
        refine List.forall_mem_cons.mpr ⟨?_, hrest⟩
        rw [hid, htenant]
        exact he
      · obtain ⟨rest', hinner, rfl⟩ := except_of_map hrun
        exact List.forall_mem_cons.mpr ⟨he, ih hrest hinner⟩

theorem forall_relateIn {p : String → String → Prop} {fresh : GraphRelationship} {eventId : String}
    {relationships : List GraphRelationship} (hfresh : p fresh.id fresh.tenantId)
    (h : ∀ r ∈ relationships, p r.id r.tenantId) :
    ∀ r ∈ relateIn fresh eventId relationships, p r.id r.tenantId := by
  induction relationships with
  | nil => simpa [relateIn] using hfresh
  | cons r rest ih =>
      obtain ⟨hr, hrest⟩ := List.forall_mem_cons.mp h
      unfold relateIn
      split
      · refine List.forall_mem_cons.mpr ⟨?_, hrest⟩
        split
        · exact hr
        · exact hr
      · exact List.forall_mem_cons.mpr ⟨hr, ih hrest⟩

theorem keeping_named {event : CanonicalEvent} (hevent : event ∈ events) :
    Keeping rt tenantId event (fun g => Named rt tenantId events g.entities g.relationships)
      (fun _ _ => True) where
  upsert entityType key name attrs hkey := by
    constructor
    intro g hg
    unfold upsert
    dsimp only
    split
    · rename_i heq
      split at heq
      · rename_i entities hentities
        cases heq
        refine ⟨?_, hg.relationships⟩
        refine forall_upsertIn (p := fun id tenant => tenant = tenantId ∧
          ∃ event ∈ events, id ∈ entityIds rt tenantId event) ?_ hg.entities hentities
        exact ⟨rfl, event, hevent, mem_entityIds hkey⟩
      · cases heq
    · trivial
  relate src relation dst hsrc hdst := by
    refine triple_modify fun g hg => ⟨hg.entities, ?_⟩
    refine forall_relateIn (p := fun id tenant => tenant = tenantId ∧
      ∃ event ∈ events, ∃ relation, id ∈ relationshipIds rt tenantId event relation) ?_
      hg.relationships
    exact ⟨rfl, event, hevent, relation, mem_relationshipIds hsrc hdst⟩

/-- A graph over one tenant's events is that tenant's, under ids that the events name. -/
theorem buildGraph_named (htenant : ∀ event ∈ events, event.tenantId = tenantId)
    {findings : List Finding} {criticality : List (String × Criticality)} {graph : EntityGraph}
    (h : buildGraph rt events findings criticality = .ok graph) :
    Named rt tenantId events graph.entities graph.relationships := by
  have hspec := buildGraph_spec rt events tenantId
    (fun event hevent => htenant event (List.mem_of_mem_head? hevent))
    (fun event hevent => keeping_named hevent)
    (show Named rt tenantId events [] [] from ⟨by simp, by simp⟩) findings criticality
  rcases hspec with ⟨built, graph', hgraph, hnamed, hbuilt⟩ | ⟨e, g, herror, -⟩
  · rw [h] at hgraph
    obtain rfl := Except.ok.inj hgraph
    refine ⟨?_, ?_⟩
    · intro entity hentity
      obtain ⟨e, he, c, rfl⟩ := hbuilt.entities entity hentity
      exact hnamed.entities e he
    · rw [hbuilt.relationships]
      exact hnamed.relationships
  · rw [h] at herror
    cases herror

end

end BlueTeam.Graph
