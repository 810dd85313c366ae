/- GID: BlueTeam/Services/Timestamps
   generality: I
   source: packages/ingest-adapters/blueteam_ingest/router.py,
     packages/detection-sdk/blueteam_detection/context.py, packages/entity-graph/blueteam_graph/engine.py,
     packages/blueql/blueteam_blueql/engine.py
   digest: Where the time stamps of a tenant are aware, and what compares them without raising. -/

import BlueTeam.BlueQL.Engine
import BlueTeam.Graph.Building
import BlueTeam.Services.Dedupe

set_option autoImplicit false
set_option relaxedAutoImplicit false

namespace BlueTeam.Services

open BlueTeam.Python BlueTeam.Schema BlueTeam.Lib BlueTeam.Lib.Exec BlueTeam.Ingest
open BlueTeam.Detection BlueTeam.Graph BlueTeam.BlueQL

/-! ### The window of a detection -/

theorem filterRaising_ok {α : Type} {p : α → Except Exn Bool} {as : List α}
    (h : ∀ a ∈ as, ∃ b, p a = .ok b) : ∃ kept, filterRaising p as = .ok kept := by
  induction as with
  | nil => exact ⟨[], rfl⟩
  | cons a as ih =>
      obtain ⟨keep, hkeep⟩ := h a List.mem_cons_self
      obtain ⟨rest, hrest⟩ := ih fun b hb => h b (List.mem_cons_of_mem _ hb)
      refine ⟨if keep then a :: rest else rest, ?_⟩
      unfold filterRaising
      rw [hkeep, hrest]
      rfl

theorem inWindow_ok {event : CanonicalEvent} (hevent : event.timestamp.Aware) (tenantId : String)
    {since until_ : DateTime} (hsince : since.Aware) (huntil : until_.Aware) (f : Filters) :
    ∃ b, Detection.inWindow tenantId since until_ f event = .ok b := by
  unfold Detection.inWindow
  split
  · exact ⟨false, rfl⟩
  · obtain ⟨early, hearly⟩ := hevent.lt_ok hsince
    obtain ⟨late, hlate⟩ := huntil.lt_ok hevent
    rw [hearly]
    cases early with
    | true => exact ⟨false, rfl⟩
    | false =>
        refine ⟨!late && f.admits event, ?_⟩
        rw [hlate]
        rfl

/-- Over aware time stamps, a window is refused only if it would begin before year 1. -/
theorem eventsInWindow_error {context : DetectionContext} {event : CanonicalEvent} {seconds : Nat}
    {f : Filters} (hwindow : Timed context.window) (hevent : event.timestamp.Aware) {e : Exn}
    (h : context.eventsInWindow event seconds f = .error e) : e = .overflowError := by
  unfold DetectionContext.eventsInWindow at h
  rcases DateTime.before_cases event.timestamp seconds with hbefore | ⟨since, hbefore, hsince⟩
  · rw [hbefore] at h
    exact (Except.error.inj h).symm
  · rw [hbefore] at h
    obtain ⟨kept, hkept⟩ := filterRaising_ok
      (p := Detection.inWindow event.tenantId since event.timestamp f)
      fun a ha => inWindow_ok (hwindow a ha) event.tenantId (hsince hevent) hevent f
    have hok : filterRaising (Detection.inWindow event.tenantId since event.timestamp f) context.window =
        .error e := h
    rw [hkept] at hok
    cases hok

/-! ### The graph -/

/-- All entities under construction were seen at aware times. -/
def Seen (g : Building) : Prop :=
  ∀ entity ∈ g.entities, entity.firstSeen.Aware ∧ entity.lastSeen.Aware

section

variable {rt : Runtime} {tenantId : String} {event : CanonicalEvent}

theorem touch_ok (hevent : event.timestamp.Aware) {entity : GraphEntity}
    (hfirst : entity.firstSeen.Aware) (hlast : entity.lastSeen.Aware) :
    ∃ entity', touch event entity = .ok entity' ∧ entity'.firstSeen.Aware ∧
      entity'.lastSeen.Aware := by
  obtain ⟨early, hearly⟩ := hevent.lt_ok hfirst
  obtain ⟨late, hlate⟩ := hlast.lt_ok hevent
  unfold touch
  rw [hearly, hlate]
  refine ⟨_, rfl, ?_, ?_⟩
  · cases early with
    | true => exact hevent
    | false => exact hfirst
  · cases late with
    | true => exact hevent
    | false => exact hlast

theorem upsertIn_ok (hevent : event.timestamp.Aware) {fresh : GraphEntity}
    (hfresh : fresh.firstSeen.Aware ∧ fresh.lastSeen.Aware) {entities : List GraphEntity}
    (h : ∀ entity ∈ entities, entity.firstSeen.Aware ∧ entity.lastSeen.Aware) :
    ∃ entities', upsertIn event fresh entities = .ok entities' ∧
      ∀ entity ∈ entities', entity.firstSeen.Aware ∧ entity.lastSeen.Aware := by
  induction entities with
  | nil => exact ⟨[fresh], rfl, by simpa using hfresh⟩
  | cons entity rest ih =>
      obtain ⟨hentity, hrest⟩ := List.forall_mem_cons.mp h
      unfold upsertIn
      split
      · obtain ⟨entity', hrun, hseen⟩ := touch_ok hevent hentity.1 hentity.2
        rw [hrun]
        exact ⟨entity' :: rest, rfl, List.forall_mem_cons.mpr ⟨hseen, hrest⟩⟩
      · obtain ⟨rest', hrun, hseen⟩ := ih hrest
        rw [hrun]
        exact ⟨entity :: rest', rfl, List.forall_mem_cons.mpr ⟨hentity, hseen⟩⟩

theorem upsert_spec (hevent : event.timestamp.Aware) (entityType : EntityType) (key name : String)
    (attrs : List (String × String)) :
    Triple Seen (upsert rt tenantId entityType key name event attrs) (fun _ => Seen)
      (fun _ _ => False) := by
  constructor
  intro g hg
  unfold upsert
  let fresh : GraphEntity :=
    { id := entityId rt tenantId entityType key
      tenantId := tenantId
      entityType := entityType
      key := rt.lower key
      displayName := name
      firstSeen := event.timestamp
      lastSeen := event.timestamp
      eventIds := [event.id]
      attributes := attrs.filter fun f => f.2 ≠ "" }
  have hfresh : fresh.firstSeen.Aware ∧ fresh.lastSeen.Aware := ⟨hevent, hevent⟩
  obtain ⟨entities, hrun, hseen⟩ := upsertIn_ok hevent hfresh hg
  dsimp only
  rw [hrun]
  exact hseen

theorem keeping_seen (hevent : event.timestamp.Aware) :
    Keeping rt tenantId event Seen (fun _ _ => False) where
  upsert entityType key name attrs _ := upsert_spec hevent entityType key name attrs
  relate _ _ _ _ _ := triple_modify fun _ hg => hg

end

/-- Over aware time stamps, the graph is always built. -/
theorem buildGraph_ok (rt : Runtime) {events : List CanonicalEvent} (h : Timed events)
    (findings : List Finding) (criticality : List (String × Criticality)) :
    ∃ graph, buildGraph rt events findings criticality = .ok graph := by
  have hbuilt := buildGraph_spec rt events ((events.head?.map (·.tenantId)).getD "")
    (fun event hevent => by simp [hevent]) (fun event hevent => keeping_seen (h event hevent))
    (fun entity hentity => (by cases hentity)) findings criticality
  rcases hbuilt with ⟨_, graph, hgraph, -⟩ | ⟨e, _, -, hfalse⟩
  · exact ⟨graph, hgraph⟩
  · exact hfalse.elim

/-! ### Whole runs -/

/-- The route reads an aware time stamp from the payload, or none at all. -/
def readsAware (rt : Runtime) (payload : JsonObject) : Bool :=
  (carriedTimestamp rt payload).all fun d => d.offset.isSome

/-- An event is aware exactly if its route read an aware time stamp, or none. -/
theorem aware_iff_readsAware {rt : Runtime} (hclock : rt.AwareClock) (hepochs : AwareEpochs rt)
    {tenantId : String} {payload : JsonObject} {raw : CanonicalEvent}
    (h : Normalises rt tenantId payload raw) :
    raw.timestamp.Aware ↔ readsAware rt payload = true := by
  have hstamp := h.carried.timestamp
  unfold readsAware
  cases hcarried : carriedTimestamp rt payload with
  | none =>
      rw [hcarried] at hstamp
      exact ⟨fun _ => rfl, fun _ => hstamp hclock hepochs⟩
  | some d =>
      rw [hcarried] at hstamp
      obtain rfl : raw.timestamp = d := hstamp
      exact Iff.rfl

theorem Stores.aware {rt : Runtime} (hclock : rt.AwareClock) (hepochs : AwareEpochs rt)
    {tenantId : String} {payload : JsonObject} {row : SecurityEvent}
    (h : Stores rt tenantId payload row) (haware : readsAware rt payload = true) :
    row.payload.timestamp.Aware := by
  obtain ⟨raw, t, t', hraw, hof⟩ := h.rowOf
  rw [hof.timestamp]
  exact (aware_iff_readsAware hclock hepochs ⟨t, t', hraw⟩).mpr haware

/-- Nothing that compares the time stamps of these events raises a `TypeError`: no window of a
detection, no graph, and no sequence, whose predicates alone may raise. -/
structure Comparable (rt : Runtime) (events : List CanonicalEvent) : Prop where
  window : ∀ context : DetectionContext, context.window ⊆ events → ∀ event ∈ events,
    ∀ seconds f, context.eventsInWindow event seconds f ≠ .error .typeError
  graph : ∀ shown ⊆ events, ∀ findings criticality,
    ∃ graph, buildGraph rt shown findings criticality = .ok graph
  sequence : ∀ hunted ⊆ events, ∀ within first more e,
    executeSequence rt within first more hunted = .error e → FromPred rt (first :: more) hunted e

theorem comparable_of_timed (rt : Runtime) {events : List CanonicalEvent} (h : Timed events) :
    Comparable rt events where
  window context hsub event hevent seconds f herror := by
    have hoverflow := eventsInWindow_error (h.subset hsub) (h event hevent) herror
    cases hoverflow
  graph shown hsub findings criticality := buildGraph_ok rt (h.subset hsub) findings criticality
  sequence hunted hsub within first more e herror := executeSequence_error (h.subset hsub) herror

/-- An event is aware exactly if its route read an aware time stamp or none; and in every run whose
payloads are all read so, all events of a tenant, those included that are only on their way into
the database, can be compared. -/
theorem payload_timestamps_comparable {rt : Runtime} (hclock : rt.AwareClock)
    (hepochs : AwareEpochs rt) :
    (∀ tenantId payload raw, Normalises rt tenantId payload raw →
      (raw.timestamp.Aware ↔ readsAware rt payload = true)) ∧
    ∀ w, Committed w → (∀ row ∈ w.session.stored .events, row.payload.timestamp.Aware) →
      ∀ requests : List (String × Call),
        (∀ r ∈ requests, ∀ payload ∈ r.2.payloads, readsAware rt payload = true) →
        ∀ tenantId arriving, (∀ row ∈ arriving, ∃ payload, Stores rt tenantId payload row ∧
            readsAware rt payload = true) →
          let events := ((runRequests rt w requests).rowsOf .events tenantId ++ arriving).map
            fun row : SecurityEvent => row.payload
          Timed events ∧ Comparable rt events := by
  refine ⟨fun _ _ _ h => aware_iff_readsAware hclock hepochs h, ?_⟩
  intro w hw hstored requests haware tenantId arriving harriving events
  have hall := runRequests_all hw hstored requests fun r hr payload hpayload row hrow =>
    hrow.aware hclock hepochs (haware r hr payload hpayload)
  have htimed : Timed events := by
    intro event hevent
    obtain ⟨row, hrow, rfl⟩ := List.mem_map.mp hevent
    rcases List.mem_append.mp hrow with hrow | hrow
    · exact hall row (World.mem_rowsOf.mp hrow).1
    · obtain ⟨payload, hstores, hreads⟩ := harriving row hrow
      exact hstores.aware hclock hepochs hreads
  exact ⟨htimed, comparable_of_timed rt htimed⟩

theorem awareEpochs_sampleRuntime : AwareEpochs sampleRuntime := by
  intro v d h
  cases h

theorem beacon_timestamps_comparable :
    readsAware sampleRuntime beaconPayload = true ∧
      Comparable sampleRuntime (((runRequests sampleRuntime emptyWorld
        [("ten_a", .ingest "usr_1" [beaconPayload])]).rowsOf .events "ten_a" ++ []).map
          fun row : SecurityEvent => row.payload) := by
  have hreads : readsAware sampleRuntime beaconPayload = true := by decide +kernel
  refine ⟨hreads, ?_⟩
  refine ((payload_timestamps_comparable (fun _ => rfl)
    awareEpochs_sampleRuntime).2 emptyWorld ⟨rfl, .nil⟩ (fun _ hrow => (by cases hrow)) _ ?_ "ten_a"
      [] (fun _ hrow => (by cases hrow))).2
  intro r hr payload hpayload
  obtain rfl := List.mem_singleton.mp hr
  obtain rfl := List.mem_singleton.mp hpayload
  exact hreads

/-- A runtime that reads one time stamp without an offset, as Python does. -/
def naiveRuntime : Runtime :=
  { sampleRuntime with
    fromisoformat := fun text =>
      if text = "2024-01-01T00:00:00" then .ok ⟨63839664000000000, none⟩
      else .error ("Invalid isoformat string: " ++ text) }

def naivePayload : JsonObject :=
  [("category", .str "dns"), ("timestamp", .str "2024-01-01T00:00:00")]

/-- The generic adapter keeps a naive time stamp naive; beside an event with the time of its
ingestion it cannot be compared. -/
theorem naive_timestamp_mixed :
    ¬ ∀ rt : Runtime, rt.AwareClock → AwareEpochs rt →
      (∀ tenantId payload raw, Normalises rt tenantId payload raw → raw.timestamp.Aware) ∧
      ∀ (requests : List (String × Call)) (tenantId : String),
        Comparable rt (((runRequests rt emptyWorld requests).rowsOf .events tenantId).map
          fun row : SecurityEvent => row.payload) := by
  intro h
  have hmixed := (h naiveRuntime (fun _ => rfl) (fun _ _ hd => (by cases hd))).2
    [("ten_a", .ingest "usr_1" [naivePayload, [("category", .str "dns")]])] "ten_a"
  have hraises : (((runRequests naiveRuntime emptyWorld [("ten_a", .ingest "usr_1"
      [naivePayload, [("category", .str "dns")]])]).rowsOf .events "ten_a").map
        fun row : SecurityEvent => row.payload).any (fun event =>
          decide (DetectionContext.eventsInWindow ⟨((runRequests naiveRuntime emptyWorld
            [("ten_a", .ingest "usr_1" [naivePayload, [("category", .str "dns")]])]).rowsOf .events
              "ten_a").map fun row : SecurityEvent => row.payload, [], false⟩ event 60 {} =
                .error .typeError)) = true := by decide +kernel
  obtain ⟨event, hevent, herror⟩ := List.any_eq_true.mp hraises
  exact hmixed.window _ (List.Subset.refl _) event hevent 60 {} (of_decide_eq_true herror)

end BlueTeam.Services
