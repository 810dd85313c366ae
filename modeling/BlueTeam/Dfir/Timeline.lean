/- GID: BlueTeam/Dfir/Timeline
   generality: I
   source: packages/dfir/blueteam_dfir/__init__.py
   digest: Timelines lose no event, and are chronological where the wall clocks are. -/

import BlueTeam.Lib.Chronicle
import BlueTeam.Python.Calendar
import BlueTeam.Schema.Event

set_option autoImplicit false
set_option relaxedAutoImplicit false

namespace BlueTeam.Dfir

open BlueTeam.Python BlueTeam.Schema BlueTeam.Lib

/-! ### The two timelines -/

structure HostRow where
  eventId : String
  timestamp : String
  source : String
  category : String
  action : Option String
  host : Option String
  user : Option String
  fileHash : Option String
  deriving DecidableEq, Repr

structure NetworkRow where
  eventId : String
  timestamp : String
  source : String
  category : String
  srcIp : Option String
  dstIp : Option String
  domain : Option String
  url : Option String
  deriving DecidableEq, Repr

def hostRow (event : CanonicalEvent) : HostRow where
  eventId := event.id
  timestamp := event.timestamp.isoformat
  source := event.source
  category := event.category
  action := event.action
  host := event.host.bind (·.name)
  user := event.user.bind (·.name)
  fileHash := event.file.bind (·.hashSha256)

def networkRow (event : CanonicalEvent) : NetworkRow where
  eventId := event.id
  timestamp := event.timestamp.isoformat
  source := event.source
  category := event.category
  srcIp := event.srcIp
  dstIp := event.dstIp
  domain := event.domain
  url := event.url

/-- What `host_timeline` does not skip; an empty host asks for nothing. -/
def onHost (host : Option String) (event : CanonicalEvent) : Bool :=
  !(given host && event.host.bind (·.name) ≠ host && event.srcIp ≠ host)

/-- What `network_timeline` does not skip. -/
def onNetwork (event : CanonicalEvent) : Bool :=
  event.sourceType ∈ ["zeek", "suricata", "network"] ||
    event.category ∈ ["dns", "http", "tls", "network", "alert"]

/-- Both timelines: the rows of the events that pass, sorted by the texts of their timestamps. -/
def timeline {Row : Type} (passes : CanonicalEvent → Bool) (row : CanonicalEvent → Row)
    (timestamp : Row → String) (events : List CanonicalEvent) : List Row :=
  ((events.filter passes).map row).insertionSort fun a b => timestamp a ≤ timestamp b

def hostTimeline (events : List CanonicalEvent) (host : Option String) : List HostRow :=
  timeline (onHost host) hostRow (·.timestamp) events

def networkTimeline (events : List CanonicalEvent) : List NetworkRow :=
  timeline onNetwork networkRow (·.timestamp) events

/-! ### What a timeline shows -/

section

variable {Row : Type} {passes : CanonicalEvent → Bool} {row : CanonicalEvent → Row}
  {timestamp : Row → String} {events shown : List CanonicalEvent} {rows : List Row}

/-- One row for each of the events, and no other; the events stand in the order of the rows. -/
def Shows (row : CanonicalEvent → Row) (events shown : List CanonicalEvent) (rows : List Row) : Prop :=
  shown.Perm events ∧ rows = shown.map row

/-- The rows show the events by rising instants. -/
def Chronological (row : CanonicalEvent → Row) (events : List CanonicalEvent) (rows : List Row) :
    Prop :=
  ∃ shown, Shows row events shown rows ∧
    shown.Pairwise fun a b => a.timestamp.instant ≤ b.timestamp.instant

/-- The texts of two datetimes are not the wrong way round: an earlier wall clock is no later
instant, and one wall clock is not shown with two offsets of which the lesser one is not negative. -/
def InStep (a b : DateTime) : Prop :=
  (a.wall < b.wall → a.instant ≤ b.instant) ∧
    (a.wall = b.wall → 0 ≤ a.offset.getD 0 → 0 ≤ b.offset.getD 0 →
      a.offset.getD 0 = b.offset.getD 0)

/-- An aware `datetime` -/
structure Stamped (event : CanonicalEvent) : Prop where
  inRange : event.timestamp.InRange
  aware : event.timestamp.Aware

theorem Stamped.offset_eq {event : CanonicalEvent} (h : Stamped event) :
    event.timestamp.offset = some (event.timestamp.offset.getD 0) := by
  obtain ⟨o, ho⟩ := Option.isSome_iff_exists.mp h.aware
  rw [ho, Option.getD_some]

/-- Two events are in step both ways exactly if their texts are in the order of their instants. -/
theorem inStep_iff {a b : CanonicalEvent} (ha : Stamped a) (hb : Stamped b) :
    InStep a.timestamp b.timestamp ∧ InStep b.timestamp a.timestamp ↔
      (a.timestamp.isoformat < b.timestamp.isoformat → a.timestamp.instant ≤ b.timestamp.instant) ∧
        (b.timestamp.isoformat < a.timestamp.isoformat →
          b.timestamp.instant ≤ a.timestamp.instant) := by
  rw [DateTime.isoformat_lt_iff ha.inRange hb.inRange ha.offset_eq hb.offset_eq,
    DateTime.isoformat_lt_iff hb.inRange ha.inRange hb.offset_eq ha.offset_eq]
  unfold InStep DateTime.ZoneEarlier DateTime.instant
  generalize a.timestamp.offset.getD 0 = o
  generalize b.timestamp.offset.getD 0 = o'
  omega

theorem instant_eq_of_isoformat {a b : CanonicalEvent} (ha : Stamped a) (hb : Stamped b)
    (h : a.timestamp.isoformat = b.timestamp.isoformat) :
    a.timestamp.instant = b.timestamp.instant := by
  obtain ⟨hwall, hoffset⟩ :=
    DateTime.isoformat_injective ha.inRange hb.inRange ha.offset_eq hb.offset_eq h
  rw [DateTime.instant, DateTime.instant, hwall, hoffset]

theorem shows_timeline (hrow : ∀ event, timestamp (row event) = event.timestamp.isoformat) :
    Shows row (events.filter passes)
      ((events.filter passes).insertionSort fun a b =>
        a.timestamp.isoformat ≤ b.timestamp.isoformat)
      (timeline passes row timestamp events) := by
  refine ⟨List.perm_insertionSort _ _, ?_⟩
  refine (List.map_insertionSort _ _ row _ fun a _ b _ => ?_).symm
  rw [hrow, hrow]

/-- Events that a timeline shows stand in the order of their texts. -/
theorem Shows.sorted (hrow : ∀ event, timestamp (row event) = event.timestamp.isoformat)
    (h : Shows row (events.filter passes) shown (timeline passes row timestamp events)) :
    shown.Pairwise fun a b => a.timestamp.isoformat ≤ b.timestamp.isoformat := by
  have hsorted := Chronicle.pairwise_insertionSort_key timestamp ((events.filter passes).map row)
  change (timeline passes row timestamp events).Pairwise _ at hsorted
  rw [h.2, List.pairwise_map] at hsorted
  simpa only [hrow] using hsorted

theorem Shows.chronological_iff (hrow : ∀ event, timestamp (row event) = event.timestamp.isoformat)
    (hstamped : ∀ event ∈ events, Stamped event)
    (h : Shows row (events.filter passes) shown (timeline passes row timestamp events)) :
    (shown.Pairwise fun a b => a.timestamp.instant ≤ b.timestamp.instant) ↔
      ∀ a ∈ events.filter passes, ∀ b ∈ events.filter passes, InStep a.timestamp b.timestamp := by
  have hmem {e : CanonicalEvent} : e ∈ shown ↔ e ∈ events.filter passes := h.1.mem_iff
  have hstamp {e : CanonicalEvent} (he : e ∈ events.filter passes) : Stamped e :=
    hstamped e (List.mem_of_mem_filter he)
  rw [Chronicle.pairwise_time_iff (fun e : CanonicalEvent => e.timestamp.isoformat)
    (fun e => e.timestamp.instant) (h.sorted hrow) fun a ha b hb =>
      instant_eq_of_isoformat (hstamp (hmem.mp ha)) (hstamp (hmem.mp hb))]
  constructor
  · intro htexts a ha b hb
    exact ((inStep_iff (hstamp ha) (hstamp hb)).mpr
      ⟨htexts a (hmem.mpr ha) b (hmem.mpr hb), htexts b (hmem.mpr hb) a (hmem.mpr ha)⟩).1
  · intro hsteps a ha b hb
    have ha := hmem.mp ha
    have hb := hmem.mp hb
    exact ((inStep_iff (hstamp ha) (hstamp hb)).mp ⟨hsteps a ha b hb, hsteps b hb a ha⟩).1

/-- A timeline loses no event, and is chronological if and only if its events are in step. -/
theorem timeline_iff (passes : CanonicalEvent → Bool) (row : CanonicalEvent → Row)
    (timestamp : Row → String) (hrow : ∀ event, timestamp (row event) = event.timestamp.isoformat)
    (hstamped : ∀ event ∈ events, Stamped event) :
    (∃ shown, Shows row (events.filter passes) shown (timeline passes row timestamp events)) ∧
      (Chronological row (events.filter passes) (timeline passes row timestamp events) ↔
        ∀ a ∈ events.filter passes, ∀ b ∈ events.filter passes,
          InStep a.timestamp b.timestamp) := by
  have hshows : Shows row (events.filter passes) _ (timeline passes row timestamp events) :=
    shows_timeline hrow
  refine ⟨⟨_, hshows⟩, ?_, ?_⟩
  · rintro ⟨shown, hshown, htime⟩
    exact (hshown.chronological_iff hrow hstamped).mp htime
  · intro hsteps
    exact ⟨_, hshows, (hshows.chronological_iff hrow hstamped).mpr hsteps⟩

end

/-- Both timelines show each event that passes once and no other event, and show them by rising
instants exactly if the events that pass are in step. -/
theorem timelines_chronological_iff (events : List CanonicalEvent)
    (hstamped : ∀ event ∈ events, Stamped event) (host : Option String) :
    ((∃ shown, Shows hostRow (events.filter (onHost host)) shown (hostTimeline events host)) ∧
      (Chronological hostRow (events.filter (onHost host)) (hostTimeline events host) ↔
        ∀ a ∈ events.filter (onHost host), ∀ b ∈ events.filter (onHost host),
          InStep a.timestamp b.timestamp)) ∧
    (∃ shown, Shows networkRow (events.filter onNetwork) shown (networkTimeline events)) ∧
      (Chronological networkRow (events.filter onNetwork) (networkTimeline events) ↔
        ∀ a ∈ events.filter onNetwork, ∀ b ∈ events.filter onNetwork,
          InStep a.timestamp b.timestamp) :=
  ⟨timeline_iff (onHost host) hostRow _ (fun _ => rfl) hstamped,
    timeline_iff onNetwork networkRow _ (fun _ => rfl) hstamped⟩

/-- Noon two hours east of Greenwich, and eleven o'clock in Greenwich an hour later. -/
def sampleEvents : List CanonicalEvent :=
  [sampleEvent "evt_1" ⟨63839793600000000, some 7200000000⟩,
    sampleEvent "evt_2" ⟨63839790000000000, some 0⟩]
where
  sampleEvent (id : String) (timestamp : DateTime) : CanonicalEvent :=
    { id := id
      tenantId := "acme"
      timestamp := timestamp
      ingestedAt := timestamp
      source := "zeek"
      sourceType := "zeek"
      eventType := "zeek_conn"
      category := "network" }

theorem stamped_sampleEvents : ∀ event ∈ sampleEvents, Stamped event := by
  simp only [sampleEvents, List.forall_mem_cons, List.not_mem_nil, false_implies, implies_true,
    and_true]
  refine ⟨⟨⟨by decide, by decide, ?_⟩, rfl⟩, ⟨by decide, by decide, ?_⟩, rfl⟩
  · rintro o ⟨⟩
    decide
  · rintro o ⟨⟩
    decide

theorem timelines_chronological_iff_sample :
    ((∃ shown, Shows hostRow (sampleEvents.filter (onHost none)) shown
        (hostTimeline sampleEvents none)) ∧
      (Chronological hostRow (sampleEvents.filter (onHost none)) (hostTimeline sampleEvents none) ↔
        ∀ a ∈ sampleEvents.filter (onHost none), ∀ b ∈ sampleEvents.filter (onHost none),
          InStep a.timestamp b.timestamp)) ∧
    (∃ shown, Shows networkRow (sampleEvents.filter onNetwork) shown (networkTimeline sampleEvents)) ∧
      (Chronological networkRow (sampleEvents.filter onNetwork) (networkTimeline sampleEvents) ↔
        ∀ a ∈ sampleEvents.filter onNetwork, ∀ b ∈ sampleEvents.filter onNetwork,
          InStep a.timestamp b.timestamp) :=
  timelines_chronological_iff sampleEvents stamped_sampleEvents none

/-- The later event is shown first: its text has the smaller hour. -/
theorem sampleEvents_not_chronological :
    (networkTimeline sampleEvents).map (fun row => (row.eventId, row.timestamp)) =
        [("evt_2", "2024-01-02T11:00:00+00:00"), ("evt_1", "2024-01-02T12:00:00+02:00")] ∧
      ¬ Chronological networkRow (sampleEvents.filter onNetwork) (networkTimeline sampleEvents) ∧
      ¬ Chronological hostRow (sampleEvents.filter (onHost none)) (hostTimeline sampleEvents none) := by
  have hearly {passes : CanonicalEvent → Bool} (hpasses : sampleEvents.all passes = true)
      (hsteps : ∀ a ∈ sampleEvents.filter passes, ∀ b ∈ sampleEvents.filter passes,
        InStep a.timestamp b.timestamp) : False := by
    rw [List.filter_eq_self.mpr (List.all_eq_true.mp hpasses)] at hsteps
    have hstep := (hsteps _ (List.mem_cons_of_mem _ List.mem_cons_self) _ List.mem_cons_self).1
    exact absurd (hstep (by decide)) (by decide)
  refine ⟨by decide +kernel, fun h => ?_, fun h => ?_⟩
  · have hiff := timeline_iff onNetwork networkRow (·.timestamp) (fun _ => rfl) stamped_sampleEvents
    exact hearly (by decide) (hiff.2.mp h)
  · have hiff := timeline_iff (onHost none) hostRow (·.timestamp) (fun _ => rfl) stamped_sampleEvents
    exact hearly (by decide) (hiff.2.mp h)

end BlueTeam.Dfir
