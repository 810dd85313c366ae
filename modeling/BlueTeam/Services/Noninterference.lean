/- GID: BlueTeam/Services/Noninterference
   generality: I
   source: services/api/app/services/ingestion.py, detection.py, intel.py, graph.py, incidents.py
   digest: What a batch does for a tenant does not depend on the rows of the other tenants. -/

import BlueTeam.Graph.Building
import BlueTeam.Services.Events
import BlueTeam.Services.Pairing
import BlueTeam.Services.Storylines
import Mathlib.Data.List.Pairwise

set_option autoImplicit false
set_option relaxedAutoImplicit false

namespace BlueTeam.Services

open BlueTeam.Python BlueTeam.Schema BlueTeam.Lib BlueTeam.Lib.Exec BlueTeam.Ingest
open BlueTeam.Detection BlueTeam.Correlation BlueTeam.Graph

/-! ### The setting -/

/-- A batch of a tenant, and how many ids were drawn before it. -/
structure Batch where
  tenantId : String
  payloads : List JsonObject
  drawn : Nat

namespace Batch

/-- The events that the payloads are normalised to. -/
def Raw (rt : Runtime) (b : Batch) (raw : CanonicalEvent) : Prop :=
  ∃ payload ∈ b.payloads, ∃ t t', b.drawn ≤ t.uuids ∧
    normalizePayload rt payload b.tenantId t = (.ok raw, t')

/-- The tenant's events during the batch: those it has, and those the payloads become. -/
def Known (rt : Runtime) (b : Batch) (db : Database schema) (event : CanonicalEvent) : Prop :=
  (∃ row : SecurityEvent, row ∈ db.own b.tenantId .events ∧ event = row.payload) ∨
    ∃ raw intel attributes, b.Raw rt raw ∧
      event = { enrichEvent rt intel raw with attributes := attributes }

/-- The ids of the batch are the tenant's alone: no other tenant holds an event under an id that
occurs in it, a generated id that is still to come, or an id that is hashed from the tenant and one
of its entities or relationships. -/
structure Apart (rt : Runtime) (b : Batch) (db : Database schema) : Prop where
  events : ∀ raw, b.Raw rt raw → db.Free b.tenantId .events raw.id
  generated : ∀ t tag k, b.drawn ≤ k → db.Free b.tenantId t (tag ++ "_" ++ rt.uuid4 k)
  entities : ∀ event, b.Known rt db event → ∀ id ∈ entityIds rt b.tenantId event,
    db.Free b.tenantId .entities id
  relationships : ∀ event, b.Known rt db event → ∀ relation,
    ∀ id ∈ relationshipIds rt b.tenantId event relation, db.Free b.tenantId .relationships id

end Batch

/-- What the tenant's rows say of the tenant: its events are of the tenant, and its storylines name
no incident of another one. -/
structure Coherent (tenantId : String) (db : Database schema) : Prop where
  events : ∀ row : SecurityEvent, row ∈ db.own tenantId .events → row.payload.tenantId = tenantId
  storylines : ∀ row : StorylineRecord, row ∈ db.own tenantId .storylines →
    ∀ id, row.incidentId = some id → db.Free tenantId .incidents id

/-- A state of the database between two requests, as the batch finds it. -/
structure Batch.Ready (rt : Runtime) (b : Batch) (w : World) : Prop where
  pending : w.session.pending = []
  keyed : ∀ t, schema.Keyed (w.session.stored t)
  drawn : w.ticks.uuids = b.drawn
  apart : b.Apart rt w.session.stored

/-- Two states with the same clock and generator that agree on all rows of the tenant. -/
structure SameFor (tenantId : String) (w₁ w₂ : World) : Prop where
  ticks : w₁.ticks = w₂.ticks
  own : ∀ t, w₁.session.stored.own tenantId t = w₂.session.stored.own tenantId t

/-- The batch ends alike in both states: it raises in both or returns the same in both, and leaves
the tenant with the same rows; the rows of the other tenants stay as they are. -/
structure Noninterferes (rt : Runtime) (b : Batch) (actorId : String) (w₁ w₂ : World) : Prop where
  result : (request (ingestPayloads rt b.tenantId actorId b.payloads) w₁).1 =
    (request (ingestPayloads rt b.tenantId actorId b.payloads) w₂).1
  own : ∀ t,
    (request (ingestPayloads rt b.tenantId actorId b.payloads) w₁).2.session.stored.own b.tenantId
        t =
      (request (ingestPayloads rt b.tenantId actorId b.payloads) w₂).2.session.stored.own b.tenantId
        t
  left : ∀ t,
    (request (ingestPayloads rt b.tenantId actorId b.payloads) w₁).2.session.stored.others
      b.tenantId t = w₁.session.stored.others b.tenantId t
  right : ∀ t,
    (request (ingestPayloads rt b.tenantId actorId b.payloads) w₂).2.session.stored.others
      b.tenantId t = w₂.session.stored.others b.tenantId t

/-! ### The rows of the batch -/

section

variable {rt : Runtime} {b : Batch} {left right : Database schema}

/-- No other tenant holds the key, in either database. -/
def FreeBoth (b : Batch) (left right : Database schema) (t : Table) (id : String) : Prop :=
  left.Free b.tenantId t id ∧ right.Free b.tenantId t id

/-- What is asked of the tenant's rows besides a key of their own. -/
def Attested (rt : Runtime) (b : Batch) (left right : Database schema) : (t : Table) → t.Row → Prop
  | .events, row => b.Known rt left (SecurityEvent.payload row) ∧
      (SecurityEvent.payload row).tenantId = b.tenantId
  | .storylines, row => ∀ id, StorylineRecord.incidentId row = some id →
      FreeBoth b left right .incidents id
  | _, _ => True

/-- The tenancy of a batch in two databases. -/
def tenancy (rt : Runtime) (b : Batch) (left right : Database schema) : Tenancy schema where
  tenant := b.tenantId
  left := left.others b.tenantId
  right := right.others b.tenantId
  Good t row := FreeBoth b left right t (Table.id row) ∧ Attested rt b left right t row
  free t row h r' hr' := by
    rcases hr' with hr' | hr'
    · exact h.1.1 r' hr'
    · exact h.1.2 r' hr'

theorem unheld_of_freeBoth {t : Table} {id : String} (h : FreeBoth b left right t id) :
    Unheld (tenancy rt b left right) t id := by
  rintro r (hr | hr)
  · exact h.1 r hr
  · exact h.2 r hr

theorem Owned.freeBoth {t : Table} {r : t.Row} (h : Owned (tenancy rt b left right) r) :
    FreeBoth b left right t (Table.id r) :=
  h.2.1

end

/-- Two databases that a batch finds apart, with the same rows of the tenant. -/
structure Setting (rt : Runtime) (b : Batch) (left right : Database schema) : Prop where
  apartLeft : b.Apart rt left
  apartRight : b.Apart rt right
  own : ∀ t, left.own b.tenantId t = right.own b.tenantId t

section

variable {rt : Runtime} {b : Batch} {left right : Database schema}

theorem Setting.known (h : Setting rt b left right) {event : CanonicalEvent}
    (hevent : b.Known rt left event) : b.Known rt right event := by
  unfold Batch.Known
  rw [← h.own]
  exact hevent

theorem Setting.drawn (h : Setting rt b left right) {tag id : String}
    (hid : DrawnId rt b.drawn tag id) (t : Table) : FreeBoth b left right t id := by
  obtain ⟨k, hk, rfl⟩ := hid
  exact ⟨h.apartLeft.generated t tag k hk, h.apartRight.generated t tag k hk⟩

theorem Setting.raw (h : Setting rt b left right) {raw : CanonicalEvent} (hraw : b.Raw rt raw) :
    FreeBoth b left right .events raw.id :=
  ⟨h.apartLeft.events raw hraw, h.apartRight.events raw hraw⟩

/-- The id of an alert is drawn with the id of its finding. -/
theorem drawnId_alertId {n : Nat} {id : String} (h : DrawnId rt n "fnd" id) :
    ∃ tag, DrawnId rt n tag (alertId id) := by
  unfold alertId
  split
  · obtain ⟨k, hk, rfl⟩ := h
    refine ⟨"alt", k, hk, ?_⟩
    simp [String.toList_append, String.ofList_toList]
  · exact ⟨"fnd", h⟩

/-! ### The services -/

/-- A service that does alike in both databases. -/
def Lockstep (rt : Runtime) (b : Batch) (left right : Database schema) {α : Type} (m : Service α)
    (Q : α → Prop) : Prop :=
  Coupled (Paired (tenancy rt b left right) b.drawn) m Q

theorem owned_of_drawn (h : Setting rt b left right) {t : Table} {r : t.Row} {tag : String}
    (htenant : Table.tenantId r = b.tenantId) (hid : DrawnId rt b.drawn tag (Table.id r))
    (hattested : Attested rt b left right t r) : Owned (tenancy rt b left right) r :=
  ⟨htenant, h.drawn hid t, hattested⟩

theorem lockstep_deadLetter (h : Setting rt b left right) (payload : JsonObject) (reason : String) :
    Lockstep rt b left right (deadLetter rt b.tenantId payload reason) (fun _ => True) := by
  refine coupled_bind (coupled_draw (draws_newId _)) fun id hid => ?_
  refine coupled_bind (coupled_draw draws_utcnow) fun createdAt _ => ?_
  exact coupled_add (owned_of_drawn h rfl hid trivial)

theorem lockstep_activeIntelMap :
    Lockstep rt b left right (activeIntelMap rt b.tenantId) (fun _ => True) := by
  refine coupled_bind (Q := fun _ => True) ?_ fun _ _ => coupled_pure trivial
  refine coupled_bind (coupled_select _) fun rows _ => ?_
  refine coupled_bind (coupled_draw draws_utcnow) fun now _ => ?_
  exact coupled_compute fun _ _ => trivial

theorem filterRaising_subset {α : Type} {p : α → Except Exn Bool} {as kept : List α}
    (h : filterRaising p as = .ok kept) : kept ⊆ as := by
  induction as generalizing kept with
  | nil =>
      obtain rfl := Except.ok.inj h
      exact List.Subset.refl _
  | cons a as ih =>
      unfold filterRaising at h
      obtain ⟨keep, -, h⟩ := except_of_bind h
      obtain ⟨rest, hrest, h⟩ := except_of_bind h
      obtain rfl := Except.ok.inj h
      split
      · exact List.cons_subset_cons _ (ih hrest)
      · exact List.subset_cons_of_subset _ (ih hrest)

/-- Sightings are counted on the tenant's own indicators. -/
theorem lockstep_sight (now : DateTime) (matched : List String) (candidate : String) :
    Lockstep rt b left right (sight rt b.tenantId now matched candidate) (fun _ => True) := by
  refine coupled_bind (coupled_select _) fun rows hrows => ?_
  refine coupled_bind (coupled_compute fun live hlive => filterRaising_subset hlive)
    fun live hlive => ?_
  refine coupled_bind (coupled_update ?_ ?_) fun _ _ => coupled_pure trivial
  · intro r hr
    split
    · exact hr
    · exact hr
  · intro r hr
    have hnot : r ∉ live := fun hmem => hr (hrows r (hlive hmem)).1
    rw [if_neg hnot]

theorem lockstep_recordSightings (event : CanonicalEvent) :
    Lockstep rt b left right (recordSightings rt b.tenantId event) (fun _ => True) := by
  refine coupled_bind (coupled_draw draws_utcnow) fun now _ => ?_
  refine coupled_bind (coupled_loop (fun _ => True) (fun matched candidate _ _ =>
    lockstep_sight now matched candidate) trivial) fun matched _ => ?_
  split
  · exact coupled_pure trivial
  · exact coupled_bind coupled_flush fun _ _ => coupled_pure trivial

/-- The event that comes of a payload: what it is normalised to, enriched, for the tenant. -/
structure Comes (rt : Runtime) (b : Batch) (event : CanonicalEvent) : Prop where
  raw : ∃ raw intel, b.Raw rt raw ∧ event = enrichEvent rt intel raw
  tenantId : event.tenantId = b.tenantId

theorem lockstep_normalizeAndEnrich {payload : JsonObject} (hpayload : payload ∈ b.payloads) :
    Lockstep rt b left right (normalizeAndEnrich rt b.tenantId payload) (Comes rt b) := by
  refine coupled_bind (coupled_draw (drawsFor_normalizePayload _ payload).traced) fun raw hraw => ?_
  obtain ⟨htenant, t, t', ht, hrun⟩ := hraw
  refine coupled_bind lockstep_activeIntelMap fun intel _ => ?_
  refine coupled_bind (lockstep_recordSightings _) fun _ _ => coupled_pure ?_
  refine ⟨⟨raw, _, ⟨payload, hpayload, t, t', ht, hrun⟩, rfl⟩, ?_⟩
  rw [(enrichEvent_sameOrigin rt _ raw).tenantId]
  exact htenant

/-! ### Detection -/

/-- An event of the tenant, during the batch. -/
def Mine (rt : Runtime) (b : Batch) (left : Database schema) (event : CanonicalEvent) : Prop :=
  b.Known rt left event ∧ event.tenantId = b.tenantId

theorem lockstep_loadWindow :
    Lockstep rt b left right (loadWindow b.tenantId)
      (fun events => ∀ event ∈ events, Mine rt b left event) := by
  refine coupled_bind (coupled_select _) fun rows hrows => coupled_pure ?_
  intro event hevent
  obtain ⟨row, hrow, rfl⟩ := List.mem_map.mp hevent
  exact (hrows row ((List.perm_insertionSort _ _).subset hrow)).2.2

theorem lockstep_openFingerprints :
    Lockstep rt b left right (openFingerprints b.tenantId) (fun _ => True) :=
  coupled_bind (coupled_select _) fun _ _ => coupled_pure trivial

theorem lockstep_registerEventEvidence (h : Setting rt b left right) (eventId actorId : String) :
    Lockstep rt b left right (registerEventEvidence rt b.tenantId eventId actorId)
      (fun _ => True) := by
  unfold registerEventEvidence
  refine coupled_bind (coupled_selectOne _) fun existing _ => ?_
  cases existing with
  | some existing => exact coupled_pure trivial
  | none =>
      refine coupled_bind (coupled_selectOne _) fun event _ => ?_
      cases event with
      | none => exact coupled_raise
      | some event =>
          refine coupled_bind (coupled_draw (draws_newId _)) fun id hid => ?_
          refine coupled_bind (coupled_draw draws_utcnow) fun ingestedAt _ => ?_
          refine coupled_bind (coupled_draw draws_utcnow) fun acquired _ => ?_
          refine coupled_bind (coupled_draw draws_utcnow) fun hashed _ => ?_
          refine coupled_bind (coupled_draw draws_utcnow) fun sealedAt _ => ?_
          refine coupled_bind (coupled_add (owned_of_drawn h rfl hid trivial)) fun _ _ => ?_
          exact coupled_bind coupled_flush fun _ _ => coupled_pure trivial

theorem lockstep_isSuppressed (finding : Finding) :
    Lockstep rt b left right (isSuppressed rt b.tenantId finding) (fun _ => True) := by
  refine coupled_bind (coupled_draw draws_utcnow) fun now _ => ?_
  refine coupled_bind (coupled_select _) fun rows _ => ?_
  refine coupled_bind (coupled_compute fun _ _ => trivial) fun suppressed (_ : True) => ?_
  split
  · exact coupled_pure trivial
  · exact coupled_bind (coupled_select _) fun _ _ => coupled_pure trivial

theorem lockstep_storeFinding (h : Setting rt b left right) (actorId : String) (acc : Created)
    {finding : Finding} (hid : DrawnId rt b.drawn "fnd" finding.id) :
    Lockstep rt b left right (storeFinding rt b.tenantId actorId acc finding) (fun _ => True) := by
  unfold storeFinding
  refine coupled_bind (lockstep_isSuppressed finding) fun suppressed _ => ?_
  split
  · exact coupled_pure trivial
  · refine coupled_bind (coupled_selectOne _) fun existing _ => ?_
    cases existing with
    | some _ => exact coupled_pure trivial
    | none =>
        refine coupled_bind (coupled_loop (fun _ => True) ?_ trivial) fun ids _ => ?_
        · intro ids eventId _ _
          exact coupled_bind (lockstep_registerEventEvidence h eventId actorId) fun _ _ =>
            coupled_pure trivial
        · obtain ⟨tag, halert⟩ := drawnId_alertId hid
          refine coupled_bind (coupled_add (owned_of_drawn h rfl hid trivial)) fun _ _ => ?_
          refine coupled_bind (coupled_add (owned_of_drawn h rfl halert trivial)) fun _ _ => ?_
          exact coupled_pure trivial

theorem lockstep_evaluateAndStore (h : Setting rt b left right) (actorId : String)
    (event : CanonicalEvent) :
    Lockstep rt b left right (evaluateAndStore rt b.tenantId actorId event) (fun _ => True) := by
  refine coupled_bind lockstep_loadWindow fun events _ => ?_
  refine coupled_bind lockstep_openFingerprints fun fps _ => ?_
  refine coupled_bind (Q := fun _ => True) ?_ fun _ _ => coupled_pure trivial
  refine coupled_bind (coupled_draw (draws_evaluateAll _ _ _)) fun findings hfindings => ?_
  refine coupled_bind (coupled_loop (fun _ => True) (fun acc finding hfinding _ =>
    lockstep_storeFinding h actorId acc (hfindings finding hfinding)) trivial) fun acc _ => ?_
  exact coupled_bind coupled_flush fun _ _ => coupled_pure trivial

/-! ### The batch -/

theorem lockstep_acceptEvent (h : Setting rt b left right) (actorId : String) (payload : JsonObject)
    (acc : IngestResult) {event : CanonicalEvent} (hevent : Comes rt b event) :
    Lockstep rt b left right (acceptEvent rt b.tenantId actorId payload acc event)
      (fun _ => True) := by
  refine coupled_bind (coupled_draw (draws_bestEffortProject rt event)) fun event' hproject => ?_
  obtain ⟨attributes, rfl⟩ := hproject
  refine coupled_bind (coupled_add ?_) fun _ _ => ?_
  · obtain ⟨raw, intel, hraw, heq⟩ := hevent.raw
    have hid : event.id = raw.id := by
      rw [heq]
      exact (enrichEvent_sameOrigin rt intel raw).id
    refine ⟨rfl, ?_, .inr ⟨raw, intel, attributes, hraw, ?_⟩, hevent.tenantId⟩
    · show FreeBoth b left right .events event.id
      rw [hid]
      exact h.raw hraw
    · rw [heq]
      rfl
  · refine coupled_bind coupled_flush fun _ _ => ?_
    exact coupled_bind (lockstep_evaluateAndStore h actorId _) fun _ _ => coupled_pure trivial

theorem lockstep_placeEvent (h : Setting rt b left right) (actorId : String) (payload : JsonObject)
    (acc : IngestResult) {event : CanonicalEvent} (hevent : Comes rt b event) :
    Lockstep rt b left right (placeEvent rt b.tenantId actorId payload acc event)
      (fun _ => True) := by
  unfold placeEvent
  have hkey : Lockstep rt b left right (sameKey b.tenantId event) (fun _ => True) := by
    unfold sameKey
    split
    · exact (coupled_selectOne _).post fun _ _ => trivial
    · exact coupled_pure trivial
  refine coupled_bind hkey fun existing _ => ?_
  cases existing with
  | some _ => exact coupled_pure trivial
  | none =>
      have hfree : FreeBoth b left right .events event.id := by
        obtain ⟨raw, intel, hraw, rfl⟩ := hevent.raw
        rw [(enrichEvent_sameOrigin rt intel raw).id]
        exact h.raw hraw
      refine coupled_bind (coupled_get (unheld_of_freeBoth hfree)) fun existing _ => ?_
      cases existing with
      | some existing =>
          dsimp only
          split
          · exact coupled_bind (lockstep_deadLetter h _ _) fun _ _ => coupled_pure trivial
          · exact coupled_pure trivial
      | none => exact lockstep_acceptEvent h actorId payload acc hevent

theorem lockstep_ingestPayload (h : Setting rt b left right) (actorId : String) (acc : IngestResult)
    {payload : JsonObject} (hpayload : payload ∈ b.payloads) :
    Lockstep rt b left right (ingestPayload rt b.tenantId actorId acc payload) (fun _ => True) := by
  unfold ingestPayload
  refine coupled_bind (coupled_attempt (lockstep_normalizeAndEnrich hpayload)) fun outcome hcomes => ?_
  cases outcome with
  | ok event => exact lockstep_placeEvent h actorId payload acc (hcomes event rfl)
  | error e =>
      cases e with
      | python e =>
          dsimp only
          split
          · exact coupled_bind (lockstep_deadLetter h _ _) fun _ _ => coupled_pure trivial
          · exact coupled_raise
      | integrityError c => exact coupled_raise
      | multipleResultsFound t => exact coupled_raise
      | blueTeamError code message status => exact coupled_raise

/-! ### The graph -/

theorem owned_entityRecord (h : Setting rt b left right) {events : List CanonicalEvent}
    (hevents : ∀ event ∈ events, Mine rt b left event) {entities : List GraphEntity}
    {relationships : List GraphRelationship}
    (hnamed : Named rt b.tenantId events entities relationships) {entity : GraphEntity}
    (hentity : entity ∈ entities) :
    Owned (t := .entities) (tenancy rt b left right) (entityRecord entity) := by
  obtain ⟨htenant, event, hevent, hid⟩ := hnamed.entities entity hentity
  have hknown := (hevents event hevent).1
  refine ⟨htenant, ⟨?_, ?_⟩, trivial⟩
  · exact h.apartLeft.entities event hknown _ hid
  · exact h.apartRight.entities event (h.known hknown) _ hid

theorem owned_relationshipRecord (h : Setting rt b left right) {events : List CanonicalEvent}
    (hevents : ∀ event ∈ events, Mine rt b left event) {entities : List GraphEntity}
    {relationships : List GraphRelationship}
    (hnamed : Named rt b.tenantId events entities relationships) {rel : GraphRelationship}
    (hrel : rel ∈ relationships) :
    Owned (t := .relationships) (tenancy rt b left right) (relationshipRecord rel) := by
  obtain ⟨htenant, event, hevent, relation, hid⟩ := hnamed.relationships rel hrel
  have hknown := (hevents event hevent).1
  refine ⟨htenant, ⟨?_, ?_⟩, trivial⟩
  · exact h.apartLeft.relationships event hknown relation _ hid
  · exact h.apartRight.relationships event (h.known hknown) relation _ hid

theorem lockstep_projectGraph (h : Setting rt b left right) {events : List CanonicalEvent}
    (hevents : ∀ event ∈ events, Mine rt b left event) :
    Lockstep rt b left right (projectGraph rt b.tenantId events) (fun _ => True) := by
  refine coupled_bind (coupled_select _) fun findings _ => ?_
  refine coupled_bind (coupled_select _) fun stored _ => ?_
  refine coupled_bind (coupled_compute fun graph hgraph => buildGraph_named
    (fun event hevent => (hevents event hevent).2) hgraph) fun graph hnamed => ?_
  refine coupled_bind (coupled_deleteAll .entities) fun _ _ => ?_
  refine coupled_bind (coupled_deleteAll .relationships) fun _ _ => ?_
  refine coupled_bind coupled_flush fun _ _ => ?_
  refine coupled_bind (coupled_loop (fun _ => True) (fun _ entity hentity _ =>
    coupled_add (owned_entityRecord h hevents hnamed hentity)) trivial) fun _ _ => ?_
  refine coupled_bind (coupled_loop (fun _ => True) (fun _ rel hrel _ =>
    coupled_add (owned_relationshipRecord h hevents hnamed hrel)) trivial) fun _ _ => ?_
  exact coupled_flush

/-! ### Storylines and incidents -/

theorem lockstep_createIncident (h : Setting rt b left right) (fingerprint : String)
    (story : Storyline) (now : DateTime) :
    Lockstep rt b left right (createIncident rt b.tenantId fingerprint story now)
      (fun incident => Owned (t := .incidents) (tenancy rt b left right) incident) := by
  refine coupled_bind (coupled_draw (draws_newId _)) fun id hid => ?_
  refine coupled_bind (coupled_draw (draws_timelineEvent _ _ _ _ _)) fun created _ => ?_
  have howned := owned_of_drawn h (t := .incidents) (r :=
    { id := id
      tenantId := b.tenantId
      fingerprint := fingerprint
      title := story.title
      status := .grouped
      severity := if 4 / 5 ≤ story.confidence then .high else .medium
      findingRuleIds := findingRuleIds rt story
      eventIds := story.eventIds
      evidenceIds := story.evidenceIds
      mitreTechniques := story.mitreTechniques
      timeline := [created]
      payload := .storyline story
      createdAt := now
      updatedAt := now }) rfl hid trivial
  refine coupled_bind (coupled_add howned) fun _ _ => ?_
  exact coupled_bind coupled_flush fun _ _ => coupled_pure howned

/-- The incident that a storyline of the tenant names is not another tenant's. -/
theorem lockstep_incidentOf {existing : Option StorylineRecord}
    (h : ∀ row, existing = some row →
      Owned (t := .storylines) (tenancy rt b left right) row) :
    Lockstep rt b left right (incidentOf existing) (fun _ => True) := by
  unfold incidentOf
  split
  · rename_i id hid
    split
    · exact coupled_pure trivial
    · obtain ⟨row, hrow, hincident⟩ := Option.bind_eq_some_iff.mp hid
      have hfree := (h row hrow).2.2 id hincident
      exact (coupled_get (unheld_of_freeBoth hfree)).post fun _ _ => trivial
  · exact coupled_pure trivial

theorem lockstep_linkStoryline (story : Storyline) {incident : IncidentRecord}
    (h : Owned (t := .incidents) (tenancy rt b left right) incident) (now : DateTime) :
    Lockstep rt b left right (linkStoryline story incident now) (fun _ => True) := by
  refine coupled_update ?_ ?_
  · intro r hr
    split
    · exact hr
    · exact hr
  · intro r hr
    have hnot : ¬ (r = incident ∧ story.storylineId ∉ r.storylineIds) := by
      rintro ⟨rfl, -⟩
      exact hr h.1
    rw [if_neg hnot]

theorem lockstep_persistStory (h : Setting rt b left right) {story : Storyline}
    (hid : DrawnId rt b.drawn "stl" story.storylineId) :
    Lockstep rt b left right (persistStory rt b.tenantId story) (fun _ => True) := by
  unfold persistStory
  refine coupled_bind (coupled_selectOne _) fun existing hexisting => ?_
  refine coupled_bind (lockstep_incidentOf hexisting) fun known _ => ?_
  cases known with
  | some _ => exact coupled_pure trivial
  | none =>
      refine coupled_bind (coupled_selectOne _) fun found hfound => ?_
      refine coupled_bind (coupled_draw draws_utcnow) fun now _ => ?_
      refine coupled_bind (Q := fun incident =>
        Owned (t := .incidents) (tenancy rt b left right) incident) ?_ fun incident hincident => ?_
      · cases found with
        | some incident => exact coupled_pure (hfound incident rfl)
        | none => exact lockstep_createIncident h _ story now
      · cases existing with
        | some _ => exact coupled_pure trivial
        | none =>
            refine coupled_bind (coupled_add (owned_of_drawn h rfl hid ?_)) fun _ _ => ?_
            · intro id hlinked
              obtain rfl := Option.some.inj hlinked
              exact hincident.freeBoth
            · exact lockstep_linkStoryline story hincident now

theorem lockstep_persistStorylinesAndIncidents (h : Setting rt b left right) :
    Lockstep rt b left right (persistStorylinesAndIncidents rt b.tenantId) (fun _ => True) := by
  refine coupled_bind lockstep_loadWindow fun events _ => ?_
  refine coupled_bind (Q := fun _ => True) ?_ fun findings _ => ?_
  · exact coupled_bind (coupled_select _) fun _ _ => coupled_pure trivial
  · refine coupled_bind (coupled_draw (draws_correlate _ _)) fun stories hstories => ?_
    refine coupled_bind (coupled_loop (fun _ => True) (fun _ story hstory _ =>
      lockstep_persistStory h (hstories story hstory)) trivial) fun _ _ => ?_
    exact coupled_flush

theorem lockstep_ingestPayloads (h : Setting rt b left right) (actorId : String) :
    Lockstep rt b left right (ingestPayloads rt b.tenantId actorId b.payloads)
      (fun _ => True) := by
  refine coupled_bind (coupled_loop (fun _ => True) (fun acc payload hpayload _ =>
    lockstep_ingestPayload h actorId acc hpayload) trivial) fun result _ => ?_
  refine coupled_bind (Q := fun _ => True) ?_ fun _ _ => coupled_pure trivial
  unfold projectBatch
  split
  · exact coupled_pure trivial
  · refine coupled_bind lockstep_loadWindow fun window hwindow => ?_
    refine coupled_bind (lockstep_projectGraph h hwindow) fun _ _ => ?_
    exact lockstep_persistStorylinesAndIncidents h

/-- A row of the tenant holds a key of its own. -/
theorem free_of_own {w : World} (hkeyed : ∀ t, schema.Keyed (w.session.stored t)) {tenantId : String}
    {t : Table} {r : t.Row} (hr : r ∈ w.session.stored.own tenantId t) :
    w.session.stored.Free tenantId t (Table.id r) := by
  intro r' hr'
  obtain ⟨hmem, htenant⟩ := Database.mem_own.mp hr
  obtain ⟨hmem', htenant'⟩ := Database.mem_others.mp hr'
  have hne : r' ≠ r := by
    rintro rfl
    exact htenant' htenant
  have hkeys : (w.session.stored t).Pairwise fun a c => Table.id a ≠ Table.id c :=
    (hkeyed t).imp fun h => h.1
  have hsymm : Std.Symm fun a c : t.Row => Table.id a ≠ Table.id c := ⟨fun _ _ h => Ne.symm h⟩
  exact hkeys.forall hmem' hmem hne

/-- The tenant's rows are attested at first. -/
theorem attested_of_coherent {w₁ w₂ : World} (hsame : SameFor b.tenantId w₁ w₂)
    (hleft : Coherent b.tenantId w₁.session.stored) (hright : Coherent b.tenantId w₂.session.stored)
    {t : Table} {r : t.Row} (hr : r ∈ w₁.session.stored.own b.tenantId t) :
    Attested rt b w₁.session.stored w₂.session.stored t r := by
  cases t with
  | events => exact ⟨.inl ⟨r, hr, rfl⟩, hleft.events r hr⟩
  | storylines =>
      intro id hid
      refine ⟨hleft.storylines r hr id hid, hright.storylines r ?_ id hid⟩
      rwa [← hsame.own]
  | _ => trivial

theorem paired_of_ready {w₁ w₂ : World} (h₁ : b.Ready rt w₁) (h₂ : b.Ready rt w₂)
    (hsame : SameFor b.tenantId w₁ w₂) (hleft : Coherent b.tenantId w₁.session.stored)
    (hright : Coherent b.tenantId w₂.session.stored) :
    Paired (tenancy rt b w₁.session.stored w₂.session.stored) b.drawn w₁ w₂ := by
  refine ⟨hsame.ticks, h₁.drawn.ge, ?_, hsame.own, fun _ => rfl, fun _ => rfl, ?_, ?_⟩
  · rw [h₁.pending, h₂.pending]
  · intro t r hr
    refine ⟨⟨free_of_own h₁.keyed hr, ?_⟩, attested_of_coherent hsame hleft hright hr⟩
    exact free_of_own h₂.keyed (by rwa [← hsame.own])
  · intro e he
    rw [h₁.pending] at he
    cases he

end

/-- A batch ends alike in every two states that agree on the tenant's rows, as long as these rows
say of the tenant what the services wrote. -/
theorem ingest_noninterference (rt : Runtime) (b : Batch) (actorId : String) (w₁ w₂ : World)
    (h₁ : b.Ready rt w₁) (h₂ : b.Ready rt w₂) (hsame : SameFor b.tenantId w₁ w₂)
    (hcoherent₁ : Coherent b.tenantId w₁.session.stored)
    (hcoherent₂ : Coherent b.tenantId w₂.session.stored) :
    Noninterferes rt b actorId w₁ w₂ := by
  have hsetting : Setting rt b w₁.session.stored w₂.session.stored :=
    ⟨h₁.apart, h₂.apart, hsame.own⟩
  have hpaired := paired_of_ready h₁ h₂ hsame hcoherent₁ hcoherent₂
  obtain ⟨hresult, hafter, -⟩ :=
    (coupled_request (lockstep_ingestPayloads hsetting actorId)).run w₁ w₂ hpaired
  exact ⟨hresult, hafter.agree.own, hafter.agree.left, hafter.agree.right⟩

/-! ### Samples -/

def foreignStory : Storyline :=
  { storylineId := "STL-7"
    tenantId := "ten_b"
    title := ""
    confidence := 75
    start := sampleRuntime.now 0
    finish := sampleRuntime.now 0 }

/-- An incident of another tenant. -/
def foreignIncident : IncidentRecord :=
  { id := "INC-7"
    tenantId := "ten_b"
    fingerprint := ""
    title := ""
    payload := .storyline foreignStory
    createdAt := sampleRuntime.now 0
    updatedAt := sampleRuntime.now 0 }

/-- A storyline of the tenant that names it. -/
def strayStoryline : StorylineRecord :=
  { id := "STL-1"
    tenantId := "ten_a"
    incidentId := some "INC-7"
    title := "Office to PowerShell to beacon"
    fingerprint := "Office to PowerShell to beacon|host=h|ip=|process="
    confidence := 85
    payload := foreignStory
    createdAt := sampleRuntime.now 0 }

/-- An event of the tenant whose payload is of another one. -/
def strayEvent : SecurityEvent :=
  securityEvent "ten_a" "00"
    { id := "EVT-1"
      tenantId := "ten_b"
      timestamp := ⟨0, some 0⟩
      ingestedAt := ⟨0, some 0⟩
      source := "edr"
      sourceType := "endpoint"
      eventType := "endpoint"
      category := "process"
      host := some { name := some "h" } }

/-- A database in which the tenant has the rows of `correlatedWorld`, and at most an event and a
storyline besides; another tenant has at most an incident. -/
def sharedWorld (event : Option SecurityEvent) (storyline : Option StorylineRecord)
    (incident : Option IncidentRecord) : World :=
  { session :=
      { stored := fun t => match t with
          | .events => event.toList
          | .storylines => storyline.toList
          | .incidents => incident.toList
          | t => correlatedWorld.session.stored t
        pending := [] } }

/-- An event that no detection looks at. -/
def quietBatch : Batch where
  tenantId := "ten_a"
  payloads :=
    [[("schema_version", .str "1.0.0"), ("id", .str "evt_1"), ("source", .str "edr"),
      ("source_type", .str "endpoint"), ("event_type", .str "endpoint"), ("category", .str "log"),
      ("timestamp", .int 1700000000), ("ingested_at", .int 1700000000), ("raw_hash", .str "00")]]
  drawn := 0

/-- Generated ids have an underscore. -/
theorem ne_generated {id tag uuid : String} (h : '_' ∉ id.toList) : id ≠ tag ++ "_" ++ uuid := by
  rintro rfl
  exact h (by simp)

theorem sharedWorld_ready {event : Option SecurityEvent} {storyline : Option StorylineRecord}
    {incident : Option IncidentRecord} (hevent : ∀ row ∈ event.toList, row.tenantId = "ten_a")
    (hstoryline : ∀ row ∈ storyline.toList, row.tenantId = "ten_a")
    (hids : ∀ row ∈ incident.toList, '_' ∉ row.id.toList) :
    quietBatch.Ready sampleRuntime (sharedWorld event storyline incident) := by
  have hothers : ∀ t, t ≠ .incidents →
      (sharedWorld event storyline incident).session.stored.others "ten_a" t = [] := by
    intro t ht
    cases t with
    | incidents => exact absurd rfl ht
    | events =>
        refine List.filter_eq_nil_iff.mpr fun row hrow => ?_
        have htenant : Table.tenantId (t := .events) row = "ten_a" := hevent row hrow
        simp [htenant]
    | storylines =>
        refine List.filter_eq_nil_iff.mpr fun row hrow => ?_
        have htenant : Table.tenantId (t := .storylines) row = "ten_a" := hstoryline row hrow
        simp [htenant]
    | _ => rfl
  have hfree : ∀ t, t ≠ .incidents → ∀ id,
      (sharedWorld event storyline incident).session.stored.Free "ten_a" t id := by
    intro t ht id row hrow
    rw [hothers t ht] at hrow
    cases hrow
  refine ⟨rfl, ?_, rfl, ?_, ?_, ?_, ?_⟩
  · intro t
    cases t with
    | events => cases event <;> simp [sharedWorld, Schema.Keyed]
    | storylines => cases storyline <;> simp [sharedWorld, Schema.Keyed]
    | incidents => cases incident <;> simp [sharedWorld, Schema.Keyed]
    | findings =>
        show schema.Keyed (t := .findings) (correlatedWorld.session.stored .findings)
        unfold Schema.Keyed
        decide
    | _ => exact .nil
  · exact fun raw _ => hfree .events (by decide) raw.id
  · intro t tag k _
    by_cases ht : t = .incidents
    · subst ht
      intro row hrow
      exact ne_generated (hids row (Database.mem_others.mp hrow).1)
    · exact hfree t ht _
  · exact fun _ _ id _ => hfree .entities (by decide) id
  · exact fun _ _ _ id _ => hfree .relationships (by decide) id

theorem sharedWorld_same (event : Option SecurityEvent) (storyline : Option StorylineRecord) :
    SameFor "ten_a" (sharedWorld event storyline none)
      (sharedWorld event storyline (some foreignIncident)) := by
  refine ⟨rfl, fun t => ?_⟩
  cases t <;> rfl

theorem quiet_noninterference :
    Noninterferes sampleRuntime quietBatch "usr_1" (sharedWorld none none none)
      (sharedWorld none none (some foreignIncident)) := by
  refine ingest_noninterference sampleRuntime quietBatch "usr_1" _ _
    (sharedWorld_ready (by decide) (by decide) (by decide))
    (sharedWorld_ready (by decide) (by decide) (by decide)) (sharedWorld_same none none) ?_ ?_
  · exact ⟨fun row hrow => (by cases hrow), fun row hrow => (by cases hrow)⟩
  · exact ⟨fun row hrow => (by cases hrow), fun row hrow => (by cases hrow)⟩

/-- Neither part of the coherence can go. A storyline's incident is looked up by its id alone, so
whether another tenant has it decides whether the tenant gets an incident; and the graph is written
under the tenant that the first event's payload names. -/
theorem incoherent_rows_interfere :
    (¬ ∀ (rt : Runtime) (b : Batch) (actorId : String) (w₁ w₂ : World), b.Ready rt w₁ →
      b.Ready rt w₂ → SameFor b.tenantId w₁ w₂ →
        w₁.session.stored.own b.tenantId .events = [] → Noninterferes rt b actorId w₁ w₂) ∧
    ¬ ∀ (rt : Runtime) (b : Batch) (actorId : String) (w₁ w₂ : World), b.Ready rt w₁ →
      b.Ready rt w₂ → SameFor b.tenantId w₁ w₂ →
        w₁.session.stored.own b.tenantId .storylines = [] → Noninterferes rt b actorId w₁ w₂ := by
  constructor
  · intro h
    have hsame := (h sampleRuntime quietBatch "usr_1" (sharedWorld none (some strayStoryline) none)
      (sharedWorld none (some strayStoryline) (some foreignIncident))
      (sharedWorld_ready (by decide) (by decide) (by decide))
      (sharedWorld_ready (by decide) (by decide) (by decide)) (sharedWorld_same none _)
      rfl).own .incidents
    have hdiffers : (request (ingestPayloads sampleRuntime "ten_a" "usr_1" quietBatch.payloads)
        (sharedWorld none (some strayStoryline) none)).2.session.stored.own "ten_a" .incidents ≠
        (request (ingestPayloads sampleRuntime "ten_a" "usr_1" quietBatch.payloads)
          (sharedWorld none (some strayStoryline) (some foreignIncident))).2.session.stored.own
            "ten_a" .incidents := by decide +kernel
    exact hdiffers hsame
  · intro h
    have hsame := (h sampleRuntime quietBatch "usr_1" (sharedWorld (some strayEvent) none none)
      (sharedWorld (some strayEvent) none (some foreignIncident))
      (sharedWorld_ready (by decide) (by decide) (by decide))
      (sharedWorld_ready (by decide) (by decide) (by decide)) (sharedWorld_same _ none)
      rfl).left .entities
    have hwritten : (request (ingestPayloads sampleRuntime "ten_a" "usr_1" quietBatch.payloads)
        (sharedWorld (some strayEvent) none none)).2.session.stored.others "ten_a" .entities ≠
          (sharedWorld (some strayEvent) none none).session.stored.others "ten_a" .entities := by
      decide +kernel
    exact hwritten hsame

end BlueTeam.Services
