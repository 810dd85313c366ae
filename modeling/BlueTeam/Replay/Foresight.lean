/- GID: BlueTeam/Replay/Foresight
   generality: I
   source: packages/blue-range/blueteam_range/runner.py, services/api/app/services/detection.py,
     ingestion.py
   digest: A scenario of recorded traffic finds what ingestion found of it. -/

import BlueTeam.Replay.Range
import BlueTeam.Services.Diary

set_option autoImplicit false
set_option relaxedAutoImplicit false

namespace BlueTeam.Replay

open BlueTeam.Python BlueTeam.Schema BlueTeam.Lib BlueTeam.Lib.Exec BlueTeam.Detection
  BlueTeam.Services

/-! ### One turn of the runner -/

section

variable {rt : Runtime} {rule : DetectionRule} {event : CanonicalEvent} {c : DetectionContext}
  {done later events : List CanonicalEvent} {opened opened' : List String}

/-- What runs on ingestion are the realtime rules. -/
theorem realtime_of_runsIn (hscheduled : c.scheduled = false) (hruns : rule.runsIn c = true) :
    rule.info.execution = .realtime := by
  unfold DetectionRule.runsIn at hruns
  rw [hscheduled] at hruns
  cases hexecution : rule.info.execution with
  | realtime => rfl
  | scheduled =>
      rw [hexecution] at hruns
      cases hruns

/-- A rule that selects, and has the attributes for what it newly notices, returns. -/
theorem evaluate_returns {selected : Option Selection}
    (hselects : rule.selects rt c event = .ok selected)
    (hattributes : ∀ n ∈ rule.newly c.openFingerprints event selected,
      ∃ attributes, rule.attributes n.trigger = .ok attributes) :
    Triple (fun _ => True) (rule.evaluate rt event c) (fun _ _ => True) (fun _ _ => False) := by
  refine ⟨fun t _ => ?_⟩
  cases selected with
  | none =>
      rw [evaluate_none hselects]
      trivial
  | some selection =>
      by_cases hopen : rule.fingerprint event.tenantId selection.tail ∈ c.openFingerprints
      · rw [evaluate_open hselects hopen]
        trivial
      · rw [newly_some, if_neg hopen] at hattributes
        obtain ⟨attributes, hok⟩ := hattributes _ (List.mem_singleton_self _)
        have hclosed := evaluate_closed (t := t) hselects hopen hok
        obtain ⟨finding, hrun, -⟩ := hclosed
        rw [hrun]
        trivial

/-- A registry returns if all of its rules do that run. -/
theorem evaluateAll_returns {rules : List DetectionRule}
    (h : ∀ rule ∈ rules, rule.runsIn c = true →
      Triple (fun _ => True) (rule.evaluate rt event c) (fun _ _ => True) (fun _ _ => False)) :
    Triple (fun _ => True) (evaluateAll rt rules event c) (fun _ _ => True) (fun _ _ => False) := by
  unfold evaluateAll
  refine ((triple_loop (fun _ rest _ => rest ⊆ rules) ?_ [] rules).pre
    fun _ _ => List.Subset.refl _).post fun _ _ _ => trivial
  intro found rule rest
  refine triple_from fun _ hrest => ?_
  obtain ⟨hrule, hrest⟩ := List.cons_subset.mp hrest
  by_cases hruns : rule.runsIn c = true
  · rw [if_pos hruns]
    exact triple_bind ((h rule hrule hruns).pre fun _ _ => trivial) fun more =>
      triple_pure fun _ _ => hrest
  · rw [if_neg hruns]
    exact triple_pure fun _ _ => hrest

/-- To a rule at work on an event, later events make no difference. -/
theorem sameView_of_chronological (hordered : Chronological (done ++ event :: later))
    (horizon : Nat) :
    SameView horizon event ⟨done ++ [event], opened, false⟩
      ⟨done ++ event :: later, opened', false⟩ := by
  obtain ⟨-, hrest, hacross⟩ := List.pairwise_append.mp hordered
  obtain ⟨hafter, -⟩ := List.pairwise_cons.mp hrest
  have hcomparable : ∀ e ∈ done ++ event :: later, e.timestamp.Comparable event.timestamp := by
    intro e he
    rcases List.mem_append.mp he with he | he
    · exact (hacross e he event List.mem_cons_self).1
    · rcases List.mem_cons.mp he with rfl | he
      · rfl
      · exact (hafter e he).1.symm
  have hlater : later.filter (fun e => Recent horizon event e) = [] := by
    refine List.filter_eq_nil_iff.mpr fun e he hrecent => ?_
    obtain ⟨-, -, hlate⟩ := of_decide_eq_true hrecent
    exact absurd (hafter e he).2.1 (not_lt.mpr hlate)
  refine sameView_of_recent rfl (fun e he _ => hcomparable e ?_) (fun e he _ => hcomparable e he) ?_
  · refine List.Sublist.subset ?_ he
    exact List.Sublist.append_left (List.cons_sublist_cons.mpr (List.nil_sublist _)) done
  · show (done ++ [event]).filter _ = (done ++ event :: later).filter _
    rw [List.append_cons done event later, List.filter_append (done ++ [event]), hlater, List.append_nil]

end

/-! ### The runner -/

/-- What the runner holds after some events: of each realtime rule what its diary says. -/
structure Foreseen (rt : Runtime) (events done : List CanonicalEvent)
    (played : DetectionContext × List Finding) : Prop where
  window : played.1.window = events
  scheduled : played.1.scheduled = false
  realtime : ∀ finding ∈ played.2, ∃ rule ∈ defaultRegistry,
    rule.info.execution = .realtime ∧ finding.ruleId = rule.info.ruleId
  rules : ∀ rule ∈ defaultRegistry, rule.info.execution = .realtime → ∃ noticed,
    Diary rt rule done noticed ∧ Opens rule played.1.openFingerprints noticed ∧
      List.Forall₂ (Built rule) noticed (rule.own played.2)

/-- Every realtime rule has a diary of the events, and the attributes for what is in it. -/
def Chronicled (rt : Runtime) (events : List CanonicalEvent) : Prop :=
  ∀ rule ∈ defaultRegistry, rule.info.execution = .realtime → ∃ noticed,
    Diary rt rule events noticed ∧
      ∀ n ∈ noticed, ∃ attributes, rule.attributes n.trigger = .ok attributes

section

variable {rt : Runtime} {events done later : List CanonicalEvent} {event : CanonicalEvent}
  {played : DetectionContext × List Finding}

/-- What a realtime rule notices when the runner comes to an event. -/
theorem Foreseen.notices (h : Foreseen rt events done played)
    (hevents : events = done ++ event :: later) (hordered : Chronological events)
    (hchronicled : Chronicled rt events) {rule : DetectionRule} (hrule : rule ∈ defaultRegistry)
    (hrealtime : rule.info.execution = .realtime) :
    ∃ noticed noted, Diary rt rule (done ++ [event]) (noticed ++ noted) ∧
      Opens rule played.1.openFingerprints noticed ∧
      List.Forall₂ (Built rule) noticed (rule.own played.2) ∧
      rule.Notices rt played.1 event noted ∧
      ∀ n ∈ noted, ∃ attributes, rule.attributes n.trigger = .ok attributes := by
  obtain ⟨all, hall, hattributes⟩ := hchronicled rule hrule hrealtime
  rw [hevents, List.append_cons] at hall
  obtain ⟨started, hstarted, hbegins⟩ := hall.start
  obtain ⟨noticed, noted, opened, hbefore, hopens, hnotices, rfl⟩ := hstarted.last
  obtain ⟨noticed', hdiary, hopens', hbuilt⟩ := h.rules rule hrule hrealtime
  have hlooks := defaultRegistry_looksBack rule hrule
  have hnamed := defaultRegistry_wellNamed rule hrule
  obtain rfl := hdiary.unique hnamed hlooks hbefore
  refine ⟨noticed', noted, hstarted, hopens', hbuilt, ?_, fun n hn => ?_⟩
  · have hcontext : played.1 = ⟨done ++ event :: later, played.1.openFingerprints, false⟩ := by
      rw [← hevents, ← h.window, ← h.scheduled]
    refine notices_transfer hnotices h.scheduled.symm (hlooks rt _ _ _ ?_) fun tail =>
      hopens.iff hnamed hopens' _ tail
    rw [hcontext]
    exact sameView_of_chronological (hevents ▸ hordered) _
  · exact hattributes n (hbegins.subset (List.mem_append_right _ hn))

/-- In a run of the runner every realtime rule writes its diary, and none raises. -/
theorem playEvent_foreseen (hevents : events = done ++ event :: later)
    (hordered : Chronological events) (hchronicled : Chronicled rt events) :
    Triple (fun _ => Foreseen rt events done played)
      (playEvent (registryOf rt defaultRegistry) played event)
      (fun played' _ => Foreseen rt events (done ++ [event]) played') (fun _ _ => False) := by
  refine triple_from fun t hforeseen => ?_
  have hreturns : Triple (fun _ => True) (evaluateAll rt defaultRegistry event played.1)
      (fun _ _ => True) (fun _ _ => False) := by
    refine evaluateAll_returns fun rule hrule hruns => ?_
    have hrealtime := realtime_of_runsIn hforeseen.scheduled hruns
    obtain ⟨noticed, noted, -, -, -, hnotices, hattributes⟩ :=
      hforeseen.notices hevents hordered hchronicled hrule hrealtime
    rw [DetectionRule.Notices, if_pos hruns] at hnotices
    obtain ⟨selected, hselects, rfl⟩ := hnotices
    exact evaluate_returns hselects hattributes
  refine ⟨fun t' _ => ?_⟩
  unfold playEvent registryOf
  rw [bind_run]
  have hrun := hreturns.run t' trivial
  rcases hresult : evaluateAll rt defaultRegistry event played.1 t' with ⟨⟨e⟩ | ⟨findings⟩, t''⟩
  · rw [hresult] at hrun
    exact hrun
  · refine ⟨hforeseen.window, hforeseen.scheduled, fun finding hfinding => ?_,
      fun rule hrule hrealtime => ?_⟩
    · rcases List.mem_append.mp hfinding with hold | hnew
      · exact hforeseen.realtime finding hold
      · obtain ⟨rule, hrule, hruns, hfinds⟩ :=
          (evaluateAll_finds rt defaultRegistry event played.1).ok trivial hresult finding hnew
        exact ⟨rule, hrule, realtime_of_runsIn hforeseen.scheduled hruns, hfinds.ruleId⟩
    · obtain ⟨noticed, noted, hdiary, hopens, hbuilt, hnotices, -⟩ :=
        hforeseen.notices hevents hordered hchronicled hrule hrealtime
      obtain ⟨noted', hnotices', hbuilt'⟩ := (evaluateAll_newly rt hrule defaultRegistry_ids_nodup
        event played.1).ok trivial hresult
      obtain rfl := notices_unique hnotices hnotices'
      refine ⟨noticed ++ noted, hdiary, hopens.append (fun finding hmem => ?_) hbuilt', ?_⟩
      · exact Produced.named rt ⟨t', findings, t'', hresult, hmem⟩
      · rw [own_append]
        exact List.rel_append hbuilt hbuilt'

/-- The runner gives each realtime rule the findings of its diary. -/
theorem play_foreseen {scenario : RangeScenario} (hordered : Chronological scenario.events)
    (hchronicled : Chronicled rt scenario.events) :
    Triple (fun _ => True) (scenario.play (registryOf rt defaultRegistry))
      (fun findings _ => ∃ c, Foreseen rt scenario.events scenario.events (c, findings))
      (fun _ _ => False) := by
  -- what is done and what is to come make up the scenario
  let I : DetectionContext × List Finding → List CanonicalEvent → Ticks → Prop := fun played rest _ =>
    ∃ done, scenario.events = done ++ rest ∧ Foreseen rt scenario.events done played
  have hstart : Foreseen rt scenario.events [] (⟨scenario.events, [], false⟩, []) := by
    refine ⟨rfl, rfl, fun finding hmem => (by cases hmem), fun rule _ _ => ?_⟩
    exact ⟨[], .nil, fun fingerprint _ => Iff.rfl, .nil⟩
  have hloop := triple_loop (E := fun (_ : Exn) (_ : Ticks) => False)
    (f := playEvent (registryOf rt defaultRegistry)) I ?_ (⟨scenario.events, [], false⟩, [])
    scenario.events
  · refine triple_bind (hloop.pre fun _ _ => ⟨[], rfl, hstart⟩) fun played => triple_pure ?_
    rintro _ ⟨done, hdone, hforeseen⟩
    rw [List.append_nil] at hdone
    exact ⟨played.1, by rwa [← hdone] at hforeseen⟩
  · intro played event rest
    refine triple_from ?_
    rintro _ ⟨done, hevents, hforeseen⟩
    refine ((playEvent_foreseen hevents hordered hchronicled).pre fun _ _ => hforeseen).post ?_
    intro played' _ hplayed
    exact ⟨done ++ [event], by rw [hevents, List.append_cons], hplayed⟩

end

/-! ### The scenario and the database -/

/-- A finding of the runner and one that is stored say the same. -/
structure SameFinding (finding : Finding) (row : FindingRecord) : Prop where
  fingerprint : row.fingerprint = finding.fingerprint
  ruleId : row.ruleId = finding.ruleId
  eventIds : row.eventIds = finding.eventIds
  evidence : row.payload.evidence = finding.evidence
  attributes : row.payload.attributes = finding.attributes

/-- The tenant's findings that a rule made. -/
def rowsOfRule (tenantId : String) (w : World) (rule : DetectionRule) : List FindingRecord :=
  (w.rowsOf .findings tenantId).filter fun f => FindingRecord.ruleId f = rule.info.ruleId

/-- The result of a scenario tells what is stored of the realtime rules. -/
structure Foretells (tenantId : String) (w : World) (result : RangeResult) : Prop where
  findings : ∀ rule ∈ defaultRegistry, rule.info.execution = .realtime →
    List.Forall₂ SameFinding (rule.own result.findings) (rowsOfRule tenantId w rule)
  realtime : ∀ finding ∈ result.findings, ∃ rule ∈ defaultRegistry,
    rule.info.execution = .realtime ∧ finding.ruleId = rule.info.ruleId
  assertions : ∀ a ∈ result.assertions, ∀ rule ∈ defaultRegistry,
    rule.info.execution = .realtime → a.ruleId = rule.info.ruleId →
      (a.passed = true ↔ a.expectedMin ≤ (rowsOfRule tenantId w rule).length)

theorem sameFinding_of_notice {rule : DetectionRule} {tenantId : String} {n : Notice}
    {finding : Finding} {row : FindingRecord} (h : Built rule n finding)
    (hrow : RowOfNotice rule tenantId n row) : SameFinding finding row := by
  obtain ⟨stored, evidenceIds, hstored, rfl⟩ := hrow
  exact ⟨hstored.fingerprint.trans h.fingerprint.symm, hstored.ruleId.trans h.ruleId.symm,
    hstored.eventIds.trans h.eventIds.symm, hstored.evidence.trans h.evidence.symm,
    Except.ok.inj (hstored.attributes.symm.trans h.attributes)⟩

theorem forall₂_sameFinding {rule : DetectionRule} {tenantId : String} {noticed : List Notice}
    {findings : List Finding} {rows : List FindingRecord}
    (hfindings : List.Forall₂ (Built rule) noticed findings)
    (hrows : List.Forall₂ (RowOfNotice rule tenantId) noticed rows) :
    List.Forall₂ SameFinding findings rows := by
  induction hfindings generalizing rows with
  | nil =>
      cases hrows
      exact .nil
  | cons hbuilt _ ih =>
      cases hrows with
      | cons hrow hrest => exact .cons (sameFinding_of_notice hbuilt hrow) (ih hrest)

/-- What ingestion stored shows that the rules have diaries. -/
theorem chronicled_of_runCalls (rt : Runtime) (tenantId : String) {w₀ : World}
    (hw₀ : Vacant tenantId w₀) (calls : List Call)
    (hordered : Chronological ((runCalls rt tenantId w₀ calls).arrivals tenantId)) :
    Chronicled rt ((runCalls rt tenantId w₀ calls).arrivals tenantId) := by
  intro rule hrule hrealtime
  obtain ⟨noticed, hdiary, hrows⟩ :=
    runCalls_diary rt hrule tenantId hrealtime hw₀ calls hordered
  refine ⟨noticed, hdiary, fun n hn => ?_⟩
  obtain ⟨row, -, finding, evidenceIds, hbuilt, -⟩ := forall₂_exists hrows hn
  exact ⟨_, hbuilt.attributes⟩

/-- The runner's own clock reading does not fail. -/
theorem runScenario_returns {rt : Runtime} (hclock : rt.AwareClock) {scenario : RangeScenario}
    {registry : Registry} {Q : List Finding → Prop}
    (hplay : Triple (fun _ => True) (scenario.play registry) (fun findings _ => Q findings)
      (fun _ _ => False)) :
    Triple (fun _ => True) (runScenario rt scenario registry)
      (fun result _ => Judged scenario result ∧ Q result.findings) (fun _ _ => False) := by
  have hnow : ∀ {P : Prop}, Triple (fun _ => P) (utcnow rt)
      (fun d _ => d.offset = some 0 ∧ P) (fun _ _ => False) :=
    ⟨fun t hP => ⟨hclock t.readings, hP⟩⟩
  unfold runScenario
  refine triple_bind (hnow.pre fun _ _ => trivial) fun started => ?_
  refine triple_given fun hstarted => ?_
  refine triple_bind (hplay.pre fun _ _ => trivial) fun findings => ?_
  refine triple_bind hnow fun finished => ?_
  refine triple_given fun hfinished => ?_
  refine triple_bind (Q := fun _ _ => Q findings) (triple_lift (fun _ _ _ hQ => hQ) ?_)
    fun latency => triple_pure fun _ hQ => ⟨⟨rfl, rfl, rfl, rfl⟩, hQ⟩
  intro _ e herror _
  have hcomparable : finished.Comparable started := by
    unfold DateTime.Comparable
    rw [hstarted, hfinished]
  rw [totalSeconds, hcomparable.minus_eq] at herror
  cases herror

/-- The lab foretells production: a scenario made of a tenant's recorded events, if they arrived in
the order of their time, runs to its end and finds rule by rule what ingestion stored of the realtime
rules, so its assertions on them pass just if the database holds as many findings. -/
theorem lab_foretells (rt : Runtime) (hclock : rt.AwareClock) (tenantId : String) {w₀ : World}
    (hw₀ : Vacant tenantId w₀) (calls : List Call) {scenario : RangeScenario}
    (hevents : scenario.events = (runCalls rt tenantId w₀ calls).arrivals tenantId)
    (hordered : Chronological scenario.events) (t : Ticks) :
    ∃ result t', runScenario rt scenario (registryOf rt defaultRegistry) t = (.ok result, t') ∧
      Foretells tenantId (runCalls rt tenantId w₀ calls) result := by
  have hchronicled : Chronicled rt scenario.events := by
    rw [hevents] at hordered ⊢
    exact chronicled_of_runCalls rt tenantId hw₀ calls hordered
  have hruns := (runScenario_returns hclock (play_foreseen hordered hchronicled)).run t trivial
  rcases hresult : runScenario rt scenario (registryOf rt defaultRegistry) t with
    ⟨⟨e⟩ | ⟨result⟩, t'⟩
  · rw [hresult] at hruns
    exact hruns.elim
  · rw [hresult] at hruns
    obtain ⟨hjudged, c, hforeseen⟩ := hruns
    have hfindings : ∀ rule ∈ defaultRegistry, rule.info.execution = .realtime →
        List.Forall₂ SameFinding (rule.own result.findings)
          (rowsOfRule tenantId (runCalls rt tenantId w₀ calls) rule) := by
      intro rule hrule hrealtime
      obtain ⟨noticed, hdiary, -, hbuilt⟩ := hforeseen.rules rule hrule hrealtime
      rw [hevents] at hdiary hordered
      obtain ⟨noticed', hdiary', hrows⟩ :=
        runCalls_diary rt hrule tenantId hrealtime hw₀ calls hordered
      obtain rfl := hdiary.unique (defaultRegistry_wellNamed rule hrule)
        (defaultRegistry_looksBack rule hrule) hdiary'
      exact forall₂_sameFinding hbuilt hrows
    refine ⟨result, t', rfl, hfindings, hforeseen.realtime, ?_⟩
    intro a ha rule hrule hrealtime hid
    rw [hjudged.assertions] at ha
    obtain ⟨entry, -, rfl⟩ := List.mem_map.mp ha
    have hcount : observedCount result.findings entry.1 =
        (rowsOfRule tenantId (runCalls rt tenantId w₀ calls) rule).length := by
      rw [← (hfindings rule hrule hrealtime).length_eq, observedCount, List.countP_eq_length_filter]
      unfold DetectionRule.own
      rw [← hid]
      rfl
    show decide _ = true ↔ _
    rw [decide_eq_true_eq, hcount]
    rfl

/-- A query for a name that looks like a tunnel, a minute after the one before. -/
def tunnelQuery (n : Nat) : JsonObject :=
  [("schema_version", .str "1.0.0"), ("id", .str ("evt_" ++ toString n)), ("source", .str "zeek"),
   ("source_type", .str "network"), ("event_type", .str "dns"), ("category", .str "dns"),
   ("timestamp", .int (1700000000 + 60 * n)), ("ingested_at", .int 1700000000),
   ("raw_hash", .str "00"), ("domain", .str "tunnel.example")]

def tunnelCalls : List Call :=
  [.ingest "usr_1" [tunnelQuery 1, tunnelQuery 2]]

/-- The two queries as they were recorded. -/
def tunnelScenario : RangeScenario where
  id := "dns-tunnel"
  events := (runCalls sampleRuntime "ten_a" emptyWorld tunnelCalls).arrivals "ten_a"
  expectedEventCount := 2
  expectedDetections := [{ ruleId := "network.suspicious_dns" }]

theorem lab_foretells_tunnel : ∃ result t',
    runScenario sampleRuntime tunnelScenario (registryOf sampleRuntime defaultRegistry) {} =
      (.ok result, t') ∧
    Foretells "ten_a" (runCalls sampleRuntime "ten_a" emptyWorld tunnelCalls) result :=
  lab_foretells sampleRuntime (fun _ => rfl) "ten_a" vacant_emptyWorld tunnelCalls rfl
    (by decide +kernel) {}

end BlueTeam.Replay
