/- GID: BlueTeam/Services/Diary
   generality: I
   source: services/api/app/services/detection.py, ingestion.py
   digest: What a realtime rule notices of events that arrive in the order of their time. -/

import BlueTeam.Detection.Horizon
import BlueTeam.Services.Notices

set_option autoImplicit false
set_option relaxedAutoImplicit false

namespace BlueTeam.Services

open BlueTeam.Python BlueTeam.Schema BlueTeam.Lib BlueTeam.Lib.Exec BlueTeam.Detection BlueTeam.Rules

/-- Events in the order of their time, with comparable time stamps, and no two at one time. -/
def Chronological (events : List CanonicalEvent) : Prop :=
  events.Pairwise fun a b => a.timestamp.Comparable b.timestamp ∧
    a.timestamp.instant < b.timestamp.instant ∧ a.timestamp.wall ≤ b.timestamp.wall

instance (events : List CanonicalEvent) : Decidable (Chronological events) :=
  inferInstanceAs (Decidable (List.Pairwise _ _))

/-- What a realtime rule notices of events, one after another, each beside those before it. -/
inductive Diary (rt : Runtime) (rule : DetectionRule) : List CanonicalEvent → List Notice → Prop
  | nil : Diary rt rule [] []
  | arrive {arrived : List CanonicalEvent} {noticed noted : List Notice} {event : CanonicalEvent}
      {opened : List String} (before : Diary rt rule arrived noticed)
      (opens : Opens rule opened noticed)
      (notices : rule.Notices rt { window := arrived ++ [event], openFingerprints := opened }
        event noted) :
      Diary rt rule (arrived ++ [event]) (noticed ++ noted)

/-! ### There is one diary -/

section

variable {rt : Runtime} {rule : DetectionRule} {arrived more : List CanonicalEvent}
  {event : CanonicalEvent} {noticed noticed' noted noted' : List Notice} {c c' : DetectionContext}
  {opened opened' : List String} {findings : List Finding}

/-- A rule notices the same in a context where it selects the same and its fingerprints are open
alike. -/
theorem notices_transfer (h : rule.Notices rt c event noted) (hscheduled : c.scheduled = c'.scheduled)
    (hselects : rule.selects rt c event = rule.selects rt c' event)
    (hopen : ∀ tail, rule.fingerprint event.tenantId tail ∈ c.openFingerprints ↔
      rule.fingerprint event.tenantId tail ∈ c'.openFingerprints) :
    rule.Notices rt c' event noted := by
  unfold DetectionRule.Notices at h ⊢
  rw [← runsIn_congr hscheduled, ← hselects]
  split_ifs at h ⊢ with hruns
  · obtain ⟨selected, hselected, rfl⟩ := h
    refine ⟨selected, hselected, ?_⟩
    cases selected with
    | none => rfl
    | some selection =>
        unfold DetectionRule.newly
        simp only [hopen]
  · exact h

theorem notices_unique (h : rule.Notices rt c event noted) (h' : rule.Notices rt c event noted') :
    noted = noted' := by
  unfold DetectionRule.Notices at h h'
  split_ifs at h h'
  · obtain ⟨selected, hselected, rfl⟩ := h
    obtain ⟨selected', hselected', rfl⟩ := h'
    rw [Except.ok.inj (hselected.symm.trans hselected')]
  · rw [h, h']

/-- After the same notices the same of the rule's fingerprints are open. -/
theorem Opens.iff (hrule : rule.WellNamed) (h : Opens rule opened noticed)
    (h' : Opens rule opened' noticed) (tenantId tail : String) :
    rule.fingerprint tenantId tail ∈ opened ↔ rule.fingerprint tenantId tail ∈ opened' := by
  have hname := ruleOf_fingerprint hrule tenantId tail
  rw [h _ hname, h' _ hname]

/-- The fingerprints of an evaluation's findings are opened. -/
theorem Opens.append (h : Opens rule opened noticed)
    (hnamed : ∀ finding ∈ findings, ruleOf finding.fingerprint = finding.ruleId.toList)
    (hbuilt : List.Forall₂ (Built rule) noted (rule.own findings)) :
    Opens rule (opened ++ findings.map (·.fingerprint)) (noticed ++ noted) := by
  intro fingerprint hrule
  have hnew : fingerprint ∈ findings.map (·.fingerprint) ↔
      fingerprint ∈ noted.map (Notice.fingerprint rule) := by
    constructor
    · intro hmem
      obtain ⟨finding, hfinding, rfl⟩ := List.mem_map.mp hmem
      have hid : finding.ruleId = rule.info.ruleId :=
        String.toList_injective ((hnamed finding hfinding).symm.trans hrule)
      obtain ⟨n, hn, hbuilt⟩ := exists_of_forall₂ hbuilt
        (List.mem_filter.mpr ⟨hfinding, decide_eq_true hid⟩)
      exact List.mem_map.mpr ⟨n, hn, hbuilt.fingerprint.symm⟩
    · intro hmem
      obtain ⟨n, hn, rfl⟩ := List.mem_map.mp hmem
      obtain ⟨finding, hfinding, hbuilt⟩ := forall₂_exists hbuilt hn
      exact List.mem_map.mpr ⟨finding, List.mem_of_mem_filter hfinding, hbuilt.fingerprint⟩
  rw [List.mem_append, List.map_append, List.mem_append, h fingerprint hrule, hnew]

/-- The last entry. -/
theorem Diary.last (h : Diary rt rule (arrived ++ [event]) noticed) :
    ∃ before noted opened, Diary rt rule arrived before ∧ Opens rule opened before ∧
      rule.Notices rt { window := arrived ++ [event], openFingerprints := opened } event noted ∧
      noticed = before ++ noted := by
  generalize hall : arrived ++ [event] = all at h
  cases h with
  | nil =>
      rw [List.append_eq_nil_iff] at hall
      cases hall.2
  | arrive before opens notices =>
      obtain ⟨rfl, hlast⟩ := List.append_inj' hall rfl
      obtain rfl := List.singleton_inj.mp hlast
      exact ⟨_, _, _, before, opens, notices, rfl⟩

theorem Diary.unique {horizon : Nat} (hrule : rule.WellNamed) (hlooks : rule.LooksBack horizon)
    (h : Diary rt rule arrived noticed) (h' : Diary rt rule arrived noticed') :
    noticed = noticed' := by
  induction h generalizing noticed' with
  | nil =>
      generalize hall : ([] : List CanonicalEvent) = all at h'
      cases h' with
      | nil => rfl
      | arrive before opens notices =>
          rw [eq_comm, List.append_eq_nil_iff] at hall
          cases hall.2
  | arrive before opens notices ih =>
      obtain ⟨noticed, noted, opened, hbefore, hopens, hnotices, rfl⟩ := h'.last
      obtain rfl := ih hbefore
      congr 1
      refine notices_unique notices (notices_transfer hnotices rfl (hlooks rt _ _ _ ?_) fun tail =>
        hopens.iff hrule opens _ tail)
      exact ⟨fun _ _ f => eventsInWindow_congr rfl f, rfl⟩

/-- A diary begins with that of the events that came first. -/
theorem Diary.start (h : Diary rt rule (arrived ++ more) noticed) :
    ∃ before, Diary rt rule arrived before ∧ before <+: noticed := by
  induction more using List.reverseRecOn generalizing noticed with
  | nil => exact ⟨noticed, by rwa [List.append_nil] at h, List.prefix_rfl⟩
  | append_singleton more event ih =>
      rw [← List.append_assoc] at h
      obtain ⟨middle, noted, opened, hmiddle, -, -, rfl⟩ := h.last
      obtain ⟨before, hbefore, hprefix⟩ := ih hmiddle
      exact ⟨before, hbefore, hprefix.trans (List.prefix_append _ _)⟩

end

/-! ### The rows of the events -/

/-- The tenant's events are filed under their own time. -/
def Dated (tenantId : String) : Session schema → Prop :=
  OnEvents fun stored waiting => ∀ row ∈ stored ++ waiting,
    SecurityEvent.tenantId row = tenantId → row.timestamp = row.payload.timestamp

section

variable {tenantId : String} {s : Session schema}

theorem dated_stable : Stable (Dated tenantId) (fun _ _ => True) besideEvents := by
  refine stable_onEvents fun s s' hs hflush row hrow => hs row ?_
  show row ∈ s.all .events
  rw [← Session.flush_all hflush .events]
  exact hrow

theorem Dated.add_event (h : Dated tenantId s) {rt : Runtime} {payload : JsonObject}
    {row : SecurityEvent} (hrow : Stores rt tenantId payload row) :
    Dated tenantId (s.add (S := schema) (t := .events) row) := by
  intro r hr hown
  change r ∈ (s.add (S := schema) (t := .events) row).all .events at hr
  rw [Session.add_all_self (S := schema), List.mem_append, List.mem_singleton] at hr
  rcases hr with hr | rfl
  · exact h r hr hown
  · obtain ⟨event, attributes, -, rfl⟩ := hrow
    rfl

/-- What arrived in the order of its time is loaded as it arrived. -/
theorem window_of_chronological {w : World} {arrived : List CanonicalEvent}
    (hdated : Dated tenantId w.session) (harrived : arrivals tenantId w.session = arrived)
    (hordered : Chronological arrived) : w.window tenantId = arrived := by
  have hrows : ∀ row ∈ w.rowsOf .events tenantId, row.timestamp = row.payload.timestamp := by
    intro row hrow
    obtain ⟨hmem, hown⟩ := World.mem_rowsOf.mp hrow
    exact hdated row (List.mem_append_left _ hmem) hown
  have hsorted : w.window tenantId = ((w.rowsOf .events tenantId).map
      SecurityEvent.payload).insertionSort fun a b => a.timestamp.wall ≤ b.timestamp.wall := by
    refine List.map_insertionSort _ _ SecurityEvent.payload _ fun a ha b hb => ?_
    rw [hrows a ha, hrows b hb]
  rw [hsorted, ← harrived]
  refine List.Pairwise.insertionSort_eq ?_
  have hlist : arrivals tenantId w.session =
      (w.rowsOf .events tenantId).map SecurityEvent.payload := rfl
  rw [← hlist, harrived]
  exact hordered.imp fun h => h.2.2

end

/-! ### Runs -/

/-- The state between two turns of ingestion: what the rule noticed of what has arrived is its
diary, as long as the events came in the order of their time. -/
structure Journaled (rt : Runtime) (rule : DetectionRule) (tenantId : String)
    (arrived : List CanonicalEvent) (noticed : List Notice) (s : Session schema) : Prop where
  resting : Resting rule tenantId arrived noticed s
  dated : Dated tenantId s
  diary : Chronological arrived → Diary rt rule arrived noticed

def Journaling (rt : Runtime) (rule : DetectionRule) (tenantId : String) (s : Session schema) :
    Prop :=
  ∃ arrived noticed, Journaled rt rule tenantId arrived noticed s

section

variable (rt : Runtime) {rule : DetectionRule} {tenantId : String} {α : Type} {m : Service α}
  {arrived : List CanonicalEvent} {noticed : List Notice}

theorem keeps_journaled (hresting : Keeps (Resting rule tenantId arrived noticed) (fun _ _ => True) m)
    (hdated : Keeps (Dated tenantId) (fun _ _ => True) m) :
    Keeps (Journaled rt rule tenantId arrived noticed) (fun _ _ => True) m := by
  refine triple_from fun w₀ hw₀ => ?_
  refine (hresting.and hdated).conseq ?_ ?_ fun _ _ _ => trivial
  · rintro _ rfl
    exact ⟨hw₀.resting, hw₀.dated⟩
  · rintro _ w ⟨hr, hd⟩
    exact ⟨hr, hd, hw₀.diary⟩

theorem keeps_journaling
    (h : ∀ arrived noticed, Keeps (Journaled rt rule tenantId arrived noticed) (fun _ _ => True) m) :
    Keeps (Journaling rt rule tenantId) (fun _ _ => True) m := by
  refine triple_from ?_
  rintro w₀ ⟨arrived, noticed, hw₀⟩
  refine ((h arrived noticed).pre ?_).post fun _ w hw => ⟨arrived, noticed, hw⟩
  rintro _ rfl
  exact hw₀

end

section

variable (rt : Runtime) {rule : DetectionRule} (hrule : rule ∈ defaultRegistry)
  (tenantId actorId : String) {arrived : List CanonicalEvent} {noticed : List Notice}

include hrule

theorem evaluateAndStore_journaling (event : CanonicalEvent) :
    Triple (fun w => Resting rule tenantId (arrived ++ [event]) noticed w.session ∧
        Dated tenantId w.session ∧ (Chronological arrived → Diary rt rule arrived noticed))
      (evaluateAndStore rt tenantId actorId event)
      (fun _ w => Journaling rt rule tenantId w.session) (fun _ _ => True) := by
  refine triple_from ?_
  rintro w₀ ⟨hw₀, hdated, hdiary⟩
  refine triple_via (fun w => (Tallied rule tenantId (arrived ++ [event]) noticed w.session ∧
    Opens rule (realtimeContext w₀ tenantId).openFingerprints noticed) ∧
      Dated tenantId w.session) ?_
  intro w hw
  rw [hw]
  refine ⟨_, _, evaluateAndStore_run rt tenantId actorId event w₀,
    ⟨⟨hw₀.tallied, hw₀.opens⟩, hdated⟩, ?_⟩
  have htallied : Triple (fun w : World => Tallied rule tenantId (arrived ++ [event]) noticed w.session ∧
      Opens rule (realtimeContext w₀ tenantId).openFingerprints noticed) _ _ _ :=
    evaluateAndStoreFindings_tallied rt tenantId actorId hrule (realtimeContext w₀ tenantId) event
  have hstored := htallied.and
    (evaluateAndStoreFindings_keeps rt tenantId (@dated_stable tenantId) (by decide) (by decide)
      (by decide) actorId (realtimeContext w₀ tenantId) event)
  refine triple_bind (hstored.conseq (fun _ hw => hw) (fun _ _ hw => hw) fun _ _ _ => trivial)
    fun acc => triple_pure ?_
  rintro w ⟨⟨noted, hnotices, hw, -⟩, hd⟩
  refine ⟨arrived ++ [event], noticed ++ noted, hw, hd, fun hordered => ?_⟩
  obtain ⟨found, hwatched⟩ := hw₀.tallied.watched
  have hwindow := window_of_chronological hdated hwatched.arrived hordered
  have hcontext : realtimeContext w₀ tenantId =
      ⟨arrived ++ [event], (realtimeContext w₀ tenantId).openFingerprints, false⟩ := by
    rw [← hwindow]
    rfl
  rw [hcontext] at hnotices
  exact .arrive (hdiary (hordered.sublist (List.sublist_append_left _ _))) hw₀.opens hnotices

theorem ingestPayload_journaling (acc : IngestResult) (payload : JsonObject) :
    Keeps (Journaling rt rule tenantId) (fun _ _ => True)
      (ingestPayload rt tenantId actorId acc payload) := by
  refine triple_from ?_
  rintro w₀ ⟨arrived, noticed, hw₀⟩
  rw [ingestPayload_eq]
  have huntil := (@untilEvaluate_resting rt rule tenantId arrived noticed acc payload).and
    (untilEvaluate_keeps rt tenantId (@dated_stable tenantId) (by decide) (by decide) acc
      fun row hrow s hs => hs.add_event hrow)
  refine triple_bind (huntil.conseq ?_ (fun _ _ hw => hw) fun _ _ _ => trivial) fun next => ?_
  · rintro _ rfl
    exact ⟨hw₀.resting, hw₀.dated⟩
  · rcases next with result | event
    · exact triple_pure fun w hw => ⟨arrived, noticed, hw.1.1 result rfl, hw.2, hw₀.diary⟩
    · refine triple_bind ((evaluateAndStore_journaling rt hrule tenantId actorId event).pre
        fun w hw => ⟨hw.1.2 event rfl, hw.2, hw₀.diary⟩) fun created => triple_pure ?_
      exact fun w hw => hw

variable (hrealtime : rule.info.execution = .realtime)

include hrealtime

/-- A sweep adds nothing to the diary of a realtime rule. -/
theorem sweep_journaled (window : List CanonicalEvent) (opened : List String) :
    Triple (fun w => Journaled rt rule tenantId arrived noticed w.session ∧
        Opens rule opened noticed)
      (loop (sweepEvent rt tenantId actorId window) { openFingerprints := opened } window)
      (fun _ w => Journaled rt rule tenantId arrived noticed w.session) (fun _ _ => True) := by
  let I : Created → List CanonicalEvent → World → Prop := fun acc _ w =>
    Journaled rt rule tenantId arrived noticed w.session ∧ Opens rule acc.openFingerprints noticed
  refine Triple.post (Triple.pre (triple_loop I ?_ { openFingerprints := opened } window)
    fun w hw => hw) fun _ w hw => hw.1
  intro acc event rest
  refine triple_from ?_
  rintro w₀ ⟨hw₀, hopens⟩
  have hdated : Keeps (Dated tenantId) (fun _ _ => True)
      (sweepEvent rt tenantId actorId window acc event) :=
    keeps_bind (evaluateAndStoreFindings_keeps rt tenantId dated_stable (by decide) (by decide)
      (by decide) actorId _ event) fun _ => keeps_pure _
  have hturn := (@sweepEvent_resting rt rule tenantId actorId arrived noticed hrule window acc
    event).and hdated
  refine hturn.conseq ?_ ?_ fun _ _ _ => trivial
  · rintro _ rfl
    exact ⟨⟨hw₀.resting, hopens⟩, hw₀.dated⟩
  · rintro acc' w ⟨⟨noted, hnotices, hw, hopens'⟩, hd⟩
    have hruns : rule.runsIn ⟨window, acc.openFingerprints, true⟩ = false := by
      unfold DetectionRule.runsIn
      rw [hrealtime]
      rfl
    rw [DetectionRule.Notices, hruns, if_neg (by decide)] at hnotices
    rw [hnotices, List.append_nil] at hw hopens'
    exact ⟨⟨hw, hd, hw₀.diary⟩, hopens'⟩

theorem call_journaling (call : Call) :
    Keeps (Journaling rt rule tenantId) (fun _ _ => True) (call.body rt tenantId) := by
  cases call with
  | ingest actorId payloads =>
      refine keeps_bind ?_ fun _ => keeps_pure _
      refine keeps_bind (keeps_loop (fun acc payload _ =>
        ingestPayload_journaling rt hrule tenantId actorId acc payload) _) fun result => ?_
      refine keeps_bind (keeps_journaling rt fun arrived noticed => ?_) fun _ => keeps_pure _
      refine keeps_journaled rt (keeps_resting (fun found => ?_) ?_) ?_
      · exact projectBatch_keeps rt tenantId watched_stable (by decide) trivial result
      · exact projectBatch_keeps rt tenantId listed_stable (by decide) trivial result
      · exact projectBatch_keeps rt tenantId dated_stable (by decide) trivial result
  | scheduled actorId =>
      refine keeps_bind ?_ fun _ => keeps_pure _
      refine triple_from fun w₀ hw₀ => ?_
      obtain ⟨arrived, noticed, hjournaled⟩ := hw₀
      refine triple_via (fun w => w = w₀) ?_
      rintro _ rfl
      refine ⟨_, _, runScheduled_eq rt tenantId actorId _, rfl, ?_⟩
      refine triple_bind ((sweep_journaled rt hrule tenantId actorId hrealtime _ _).pre ?_)
        fun _ => triple_pure fun _ hw => ⟨arrived, noticed, hw⟩
      rintro _ rfl
      exact ⟨hjournaled, hjournaled.resting.opens⟩
  | persist =>
      refine keeps_journaling rt fun arrived noticed => ?_
      refine keeps_journaled rt (keeps_resting (fun found => ?_) ?_) ?_
      · exact persistStorylinesAndIncidents_keeps rt tenantId watched_stable (by decide)
          (by decide) fun _ _ => trivial
      · exact persistStorylinesAndIncidents_keeps rt tenantId listed_stable (by decide) (by decide)
          fun _ _ => trivial
      · exact persistStorylinesAndIncidents_keeps rt tenantId dated_stable (by decide) (by decide)
          fun _ _ => trivial

theorem runCalls_journaling {w : World} (calls : List Call)
    (h : Journaling rt rule tenantId w.session) (hpending : w.session.pending = []) :
    Journaling rt rule tenantId (runCalls rt tenantId w calls).session ∧
      (runCalls rt tenantId w calls).session.pending = [] := by
  induction calls generalizing w with
  | nil => exact ⟨h, hpending⟩
  | cons call calls ih =>
      refine ih ?_ (request_pending hpending)
      have hflush : Keeps (Journaling rt rule tenantId) (fun _ _ => True) flush := by
        refine keeps_journaling rt fun arrived noticed => keeps_journaled rt (keeps_resting ?_ ?_) ?_
        · exact fun found => watched_stable.flush
        · exact listed_stable.flush
        · exact dated_stable.flush
      refine (request_run (F := fun _ => True) ((call_journaling rt hrule tenantId hrealtime
        call).pre ?_) hflush h).1
      rintro _ rfl
      exact h

/-- The findings of a realtime rule, after any run from a state in which the tenant is empty, are
those of its diary, if the events arrived in the order of their time. -/
theorem runCalls_diary {w₀ : World} (hw₀ : Vacant tenantId w₀) (calls : List Call)
    (hordered : Chronological ((runCalls rt tenantId w₀ calls).arrivals tenantId)) :
    ∃ noticed, Diary rt rule ((runCalls rt tenantId w₀ calls).arrivals tenantId) noticed ∧
      List.Forall₂ (RowOfNotice rule tenantId) noticed
        (((runCalls rt tenantId w₀ calls).rowsOf .findings tenantId).filter fun f =>
          FindingRecord.ruleId f = rule.info.ruleId) := by
  have hstart : Journaling rt rule tenantId w₀.session := by
    have hfollowed : FollowedBy (fun arrived noticed => arrived = [] ∧ noticed = []) rule tenantId
        w₀.session := hw₀.followedBy tenantId ⟨rfl, rfl⟩
    obtain ⟨arrived, noticed, hresting, hnone⟩ := hfollowed
    obtain ⟨rfl, rfl⟩ := hnone
    refine ⟨[], [], hresting, fun row hrow hown => ?_, fun _ => .nil⟩
    have hwaiting : w₀.session.pendingOf .events = [] := by
      unfold Session.pendingOf
      rw [hw₀.settled]
      rfl
    rw [hwaiting, List.append_nil] at hrow
    have hmem : row ∈ w₀.rowsOf .events tenantId := World.mem_rowsOf.mpr ⟨hrow, hown⟩
    rw [hw₀.events] at hmem
    cases hmem
  obtain ⟨⟨arrived, noticed, hw⟩, hpending⟩ :=
    runCalls_journaling rt hrule tenantId hrealtime calls hstart hw₀.settled
  obtain ⟨found, hwatched⟩ := hw.resting.tallied.watched
  have harrived : (runCalls rt tenantId w₀ calls).arrivals tenantId = arrived := hwatched.arrived
  refine ⟨noticed, ?_, ?_⟩
  · rw [harrived] at hordered ⊢
    exact hw.diary hordered
  · rw [← rowsIn_of_committed hpending]
    exact hw.resting.tallied.noted

end

end BlueTeam.Services
