/- GID: BlueTeam/Graph/Order
   generality: I
   source: packages/entity-graph/blueteam_graph/engine.py
   digest: A graph does not depend on the order of its events and findings. -/

import BlueTeam.Graph.Provenance
import Mathlib.Algebra.BigOperators.Group.List.Basic

set_option autoImplicit false
set_option relaxedAutoImplicit false

namespace BlueTeam.Graph

open BlueTeam.Python BlueTeam.Schema BlueTeam.Lib BlueTeam.Lib.Exec

/-- Two lists with the same elements. -/
def SameIds (ids ids' : List String) : Prop :=
  ∀ id, id ∈ ids ↔ id ∈ ids'

/-- Two entities that differ in the order of their events and findings and in what the first writer
chooses: the display name, the attributes and the notation of a point of time. -/
structure SameEntity (e e' : GraphEntity) : Prop where
  id : e.id = e'.id
  entityType : e.entityType = e'.entityType
  key : e.key = e'.key
  eventIds : SameIds e.eventIds e'.eventIds
  firstSeen : e.firstSeen.Same e'.firstSeen
  lastSeen : e.lastSeen.Same e'.lastSeen
  findingIds : SameIds e.findingIds e'.findingIds
  criticality : e.criticality = e'.criticality
  riskScore : e.riskScore = e'.riskScore

structure SameRelationship (r r' : GraphRelationship) : Prop where
  id : r.id = r'.id
  srcId : r.srcId = r'.srcId
  dstId : r.dstId = r'.dstId
  relation : r.relation = r'.relation
  eventIds : SameIds r.eventIds r'.eventIds

/-- Two graphs with the same set of entities and the same set of relationships. -/
structure SameGraph (graph graph' : EntityGraph) : Prop where
  entities : ∀ e ∈ graph.entities, ∃ e' ∈ graph'.entities, SameEntity e e'
  entities' : ∀ e' ∈ graph'.entities, ∃ e ∈ graph.entities, SameEntity e e'
  relationships : ∀ r ∈ graph.relationships, ∃ r' ∈ graph'.relationships, SameRelationship r r'
  relationships' : ∀ r' ∈ graph'.relationships, ∃ r ∈ graph.relationships, SameRelationship r r'

theorem SameIds.symm {ids ids' : List String} (h : SameIds ids ids') : SameIds ids' ids :=
  fun id => (h id).symm

theorem sameIds_of_perm {ids ids' : List String} (h : ids.Perm ids') : SameIds ids ids' :=
  fun _ => h.mem_iff

theorem Same.symm {a b : DateTime} (h : a.Same b) : b.Same a :=
  ⟨h.1.symm, h.2.symm⟩

theorem SameEntity.symm {e e' : GraphEntity} (h : SameEntity e e') : SameEntity e' e :=
  ⟨h.id.symm, h.entityType.symm, h.key.symm, h.eventIds.symm, Same.symm h.firstSeen,
    Same.symm h.lastSeen, h.findingIds.symm, h.criticality.symm, h.riskScore.symm⟩

theorem SameRelationship.symm {r r' : GraphRelationship} (h : SameRelationship r r') :
    SameRelationship r' r :=
  ⟨h.id.symm, h.srcId.symm, h.dstId.symm, h.relation.symm, h.eventIds.symm⟩

/-! ### Risk -/

/-- What the risk of an entity is made from, besides the findings. -/
structure SameTouch (e e' : GraphEntity) : Prop where
  tenantId : e.tenantId = e'.tenantId
  entityType : e.entityType = e'.entityType
  key : e.key = e'.key
  eventIds : SameIds e.eventIds e'.eventIds

theorem SameTouch.findingTouches {e e' : GraphEntity} (h : SameTouch e e') (rt : Runtime)
    (finding : Finding) : findingTouches rt e finding = findingTouches rt e' finding := by
  have hevents : e.eventIds.any (· ∈ finding.eventIds) = e'.eventIds.any (· ∈ finding.eventIds) := by
    rw [Bool.eq_iff_iff, List.any_eq_true, List.any_eq_true]
    constructor
    · rintro ⟨id, hid, hin⟩
      exact ⟨id, (h.eventIds id).mp hid, hin⟩
    · rintro ⟨id, hid, hin⟩
      exact ⟨id, (h.eventIds id).mpr hid, hin⟩
  unfold Graph.findingTouches
  rw [hevents, h.entityType, h.key]

/-- The findings that touch an entity, in another order. -/
theorem SameTouch.touching {e e' : GraphEntity} (h : SameTouch e e') (rt : Runtime)
    {findings findings' : List Finding} (hperm : findings.Perm findings') :
    (findings.filter fun f => f.tenantId = e.tenantId ∧ Graph.findingTouches rt e f).Perm
      (findings'.filter fun f => f.tenantId = e'.tenantId ∧ Graph.findingTouches rt e' f) := by
  have hsame : (fun f : Finding => decide (f.tenantId = e.tenantId ∧ Graph.findingTouches rt e f)) =
      fun f => decide (f.tenantId = e'.tenantId ∧ Graph.findingTouches rt e' f) := by
    funext f
    rw [h.tenantId, h.findingTouches]
  rw [hsame]
  exact hperm.filter _

/-- The finding ids and the score of an entity do not depend on the order of the findings. -/
theorem SameTouch.applyRisk {e e' : GraphEntity} (h : SameTouch e e')
    (hcriticality : e.criticality = e'.criticality) (rt : Runtime)
    {findings findings' : List Finding} (hperm : findings.Perm findings') :
    SameIds (applyRisk rt findings e).findingIds (applyRisk rt findings' e').findingIds ∧
      (applyRisk rt findings e).riskScore = (applyRisk rt findings' e').riskScore := by
  have htouching := h.touching rt hperm
  refine ⟨sameIds_of_perm (htouching.map _), ?_⟩
  have hraw := (htouching.map fun f => (severityPoints f.severity).1).sum_eq
  unfold Graph.applyRisk
  simp only [hraw, hcriticality]

/-! ### The two graphs -/

section

variable {rt : Runtime} {tenantId : String} {events events' : List CanonicalEvent}
  {findings findings' : List Finding} {criticality : List (String × Criticality)}
  {graph graph' : EntityGraph} {g g' : Building}

theorem IdsApart.perm (h : IdsApart rt tenantId events) (hperm : events.Perm events') :
    IdsApart rt tenantId events' := by
  have hobservations := (hperm.flatMap_right (observations rt tenantId)).symm
  intro o ho o' ho'
  exact h o (hobservations.subset ho) o' (hobservations.subset ho')

/-- Two points of time that bound the same sightings from one side, and are among them, are the
same. -/
theorem instant_eq {R : Int → Int → Prop} (hR : ∀ x y, R x y → R y x → x = y)
    {own own' : List Sighting} (hperm : own.Perm own') {t t' : DateTime}
    (ht : ∃ a ∈ own, a.event.timestamp = t) (ht' : ∃ a ∈ own', a.event.timestamp = t')
    (hbound : ∀ a ∈ own, R t.instant a.event.timestamp.instant)
    (hbound' : ∀ a ∈ own', R t'.instant a.event.timestamp.instant) : t.instant = t'.instant := by
  obtain ⟨a, ha, rfl⟩ := ht
  obtain ⟨b, hb, rfl⟩ := ht'
  have hab := hbound b (hperm.symm.subset hb)
  have hba := hbound' a (hperm.subset ha)
  exact hR _ _ hab hba

theorem comparable_of_sightings
    (hcomparable : ∀ a ∈ events, ∀ b ∈ events, a.timestamp.Comparable b.timestamp)
    {a b : Sighting}
    (ha : a ∈ (events.flatMap (observations rt tenantId)).filterMap (Observation.sighting rt))
    (hb : b ∈ (events.flatMap (observations rt tenantId)).filterMap (Observation.sighting rt)) :
    a.event.timestamp.Comparable b.event.timestamp := by
  obtain ⟨e, he, ha⟩ := mem_sightings_events ha
  obtain ⟨e', he', hb⟩ := mem_sightings_events hb
  rw [(mem_sightings ha).1, (mem_sightings hb).1]
  exact hcomparable e he e' he'

variable (h : Finished rt tenantId events findings criticality graph g)
  (h' : Finished rt tenantId events' findings' criticality graph' g')
  (hperm : events.Perm events') (hids : IdsApart rt tenantId events)

include h h' hperm hids

theorem Finished.sameEntity (hfindings : findings.Perm findings')
    (hcomparable : ∀ a ∈ events, ∀ b ∈ events, a.timestamp.Comparable b.timestamp)
    {e : GraphEntity} (he : e ∈ graph.entities) : ∃ e' ∈ graph'.entities, SameEntity e e' := by
  have hsightings : ((events.flatMap (observations rt tenantId)).filterMap
      (Observation.sighting rt)).Perm ((events'.flatMap (observations rt tenantId)).filterMap
      (Observation.sighting rt)) := (hperm.flatMap_right _).filterMap _
  obtain ⟨built, hbuilt, rfl⟩ := h.mem he
  obtain ⟨built', hbuilt', hid, own, own', hown, hsub, htold, htold'⟩ :=
    h.observed.entities.perm h'.observed.entities hsightings
      (fun items r hr => List.ne_nil_of_mem hr.opened.choose_spec.1) hbuilt
  have hid : built'.id = built.id := hid
  have hmem : finished rt findings' criticality built' ∈ graph'.entities :=
    h'.entities.symm.subset (List.mem_map_of_mem hbuilt')
  -- Both were opened by a sighting of the same type and key.
  obtain ⟨a, ha, htype, hkey⟩ := (h.told he).opened
  obtain ⟨b, hb, htype', hkey'⟩ := (h'.told hmem).opened
  obtain ⟨hain, haid⟩ := List.mem_filter.mp ha
  obtain ⟨hbin, hbid⟩ := List.mem_filter.mp hb
  have haid : entityIdOf tenantId a.entityType.text a.key = built.id := of_decide_eq_true haid
  have hbid : entityIdOf tenantId b.entityType.text b.key = built'.id := of_decide_eq_true hbid
  obtain ⟨hsameType, hsameKey⟩ := hids.sightings hain (hsightings.symm.subset hbin)
    (haid.trans (hid.symm.trans hbid.symm))
  have htouch : SameTouch built built' := by
    refine ⟨htold.tenant.trans htold'.tenant.symm, ?_, ?_, ?_⟩
    · exact htype.symm.trans (hsameType.trans htype')
    · exact hkey.symm.trans (hsameKey.trans hkey')
    · intro id
      rw [htold.events, htold'.events]
      exact ⟨fun ⟨c, hc, hcid⟩ => ⟨c, hown.subset hc, hcid⟩,
        fun ⟨c, hc, hcid⟩ => ⟨c, hown.symm.subset hc, hcid⟩⟩
  have hcriticality : (criticality.lookup built.id).getD Criticality.unknown =
      (criticality.lookup built'.id).getD .unknown := by
    rw [hid]
  have hcomp : ∀ {x y : DateTime}, (∃ a ∈ own, a.event.timestamp = x) →
      (∃ a ∈ own', a.event.timestamp = y) → x.Comparable y := by
    rintro _ _ ⟨c, hc, rfl⟩ ⟨d, hd, rfl⟩
    exact comparable_of_sightings hcomparable (hsub hc) (hsub (hown.symm.subset hd))
  have htouch' : SameTouch { built with
      criticality := (criticality.lookup built.id).getD .unknown } { built' with
      criticality := (criticality.lookup built'.id).getD .unknown } :=
    ⟨htouch.tenantId, htouch.entityType, htouch.key, htouch.eventIds⟩
  obtain ⟨hfindingIds, hscore⟩ := htouch'.applyRisk hcriticality rt hfindings
  refine ⟨_, hmem, ?_⟩
  exact
    { id := hid.symm
      entityType := htouch.entityType
      key := htouch.key
      eventIds := htouch.eventIds
      firstSeen := ⟨hcomp htold.first htold'.first,
        instant_eq (fun _ _ => Int.le_antisymm) hown htold.first htold'.first htold.since
          htold'.since⟩
      lastSeen := ⟨hcomp htold.last htold'.last,
        instant_eq (R := fun x y => y ≤ x) (fun _ _ h h' => Int.le_antisymm h' h) hown
          htold.last htold'.last htold.upTo htold'.upTo⟩
      findingIds := hfindingIds
      criticality := hcriticality
      riskScore := hscore }

theorem Finished.sameRelationship {r : GraphRelationship} (hr : r ∈ graph.relationships) :
    ∃ r' ∈ graph'.relationships, SameRelationship r r' := by
  have hedges : ((events.flatMap (observations rt tenantId)).filterMap Observation.asEdge).Perm
      ((events'.flatMap (observations rt tenantId)).filterMap Observation.asEdge) :=
    (hperm.flatMap_right _).filterMap _
  have hbuilt := hr
  rw [h.relationships] at hbuilt
  obtain ⟨r', hr', hid, own, own', hown, hsub, hrelated, hrelated'⟩ :=
    h.observed.relationships.perm h'.observed.relationships hedges
      (fun items r hr => List.ne_nil_of_mem hr.opened.choose_spec.1) hbuilt
  have hid : r'.id = r.id := hid
  rw [← h'.relationships] at hr'
  obtain ⟨a, ha, hsrc, hrelation, hdst⟩ := (h.related hr).opened
  obtain ⟨b, hb, hsrc', hrelation', hdst'⟩ := (h'.related hr').opened
  obtain ⟨hain, haid⟩ := mem_edgesOf ha
  obtain ⟨hbin, hbid⟩ := mem_edgesOf hb
  obtain ⟨hsameSrc, hsameRelation, hsameDst⟩ := hids.edges hain (hedges.symm.subset hbin)
    (haid.trans (hid.symm.trans hbid.symm))
  refine ⟨r', hr', hid.symm, ?_, ?_, ?_, ?_⟩
  · exact hsrc.symm.trans (hsameSrc.trans hsrc')
  · exact hdst.symm.trans (hsameDst.trans hdst')
  · exact hrelation.symm.trans (hsameRelation.trans hrelation')
  · intro id
    rw [hrelated.events, hrelated'.events]
    exact ⟨fun ⟨c, hc, hcid⟩ => ⟨c, hown.subset hc, hcid⟩,
      fun ⟨c, hc, hcid⟩ => ⟨c, hown.symm.subset hc, hcid⟩⟩

end

/-- For every order of the events and every order of the findings the same graph is built. -/
theorem graph_order_independent (rt : Runtime) (tenantId : String)
    (events events' : List CanonicalEvent) (findings findings' : List Finding)
    (hevents : events.Perm events') (hfindings : findings.Perm findings')
    (htenant : ∀ event ∈ events, event.tenantId = tenantId)
    (hcomparable : ∀ a ∈ events, ∀ b ∈ events, a.timestamp.Comparable b.timestamp)
    (hids : IdsApart rt tenantId events) (criticality : List (String × Criticality)) :
    ∃ graph graph', buildGraph rt events findings criticality = .ok graph ∧
      buildGraph rt events' findings' criticality = .ok graph' ∧ SameGraph graph graph' := by
  have hsub := hevents.symm.subset
  have hcomparable' : ∀ a ∈ events', ∀ b ∈ events', a.timestamp.Comparable b.timestamp :=
    fun a ha b hb => hcomparable a (hsub ha) b (hsub hb)
  obtain ⟨graph, g, hrun, h⟩ := buildGraph_finished htenant hcomparable findings criticality
  obtain ⟨graph', g', hrun', h'⟩ := buildGraph_finished
    (fun event hevent => htenant event (hsub hevent)) hcomparable' findings' criticality
  have hids' := hids.perm hevents
  refine ⟨graph, graph', hrun, hrun', ?_⟩
  constructor
  · exact fun e he => h.sameEntity h' hevents hids hfindings hcomparable he
  · intro e' he'
    obtain ⟨e, he, hsame⟩ :=
      h'.sameEntity h hevents.symm hids' hfindings.symm hcomparable' he'
    exact ⟨e, he, hsame.symm⟩
  · exact fun r hr => h.sameRelationship h' hevents hids hr
  · intro r' hr'
    obtain ⟨r, hr, hsame⟩ := h'.sameRelationship h hevents.symm hids' hr'
    exact ⟨r, hr, hsame.symm⟩

/-- The same user and address an hour earlier, in another notation. -/
def earlierLogin : CanonicalEvent :=
  { sampleLogin with
    id := "evt_0"
    timestamp := ⟨63839757725000000, some 0⟩
    user := some { name := some "ALICE" } }

theorem graph_order_independent_logins :
    ∃ graph graph', buildGraph sampleRuntime [sampleLogin, earlierLogin] [] [] = .ok graph ∧
      buildGraph sampleRuntime [earlierLogin, sampleLogin] [] [] = .ok graph' ∧
      SameGraph graph graph' := by
  refine graph_order_independent sampleRuntime "ten_a" [sampleLogin, earlierLogin]
    [earlierLogin, sampleLogin] [] [] (List.Perm.swap _ _ _) (List.Perm.refl _) ?_ ?_ ?_ []
  · decide
  · unfold DateTime.Comparable
    decide
  · unfold IdsApart
    decide +kernel

end BlueTeam.Graph
