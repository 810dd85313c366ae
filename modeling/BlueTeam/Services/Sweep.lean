/- GID: BlueTeam/Services/Sweep
   generality: I
   source: detections/python/scheduled/window_sweep.py, services/api/app/services/detection.py,
     packages/detection-sdk/blueteam_detection/context.py
   digest: When a scheduled sweep leaves one finding for each address with failures enough. -/

import BlueTeam.Services.Completion
import BlueTeam.Services.Repeats

set_option autoImplicit false
set_option relaxedAutoImplicit false

namespace BlueTeam.Services

open BlueTeam.Python BlueTeam.Schema BlueTeam.Lib BlueTeam.Lib.Exec BlueTeam.Detection BlueTeam.Rules

/-- The finding cites only failures of the address of the event that triggered it. -/
def KeepsTo (events : List CanonicalEvent) (f : FindingRecord) : Prop :=
  ∀ t ∈ events, HasTrigger f t → ∀ id ∈ f.eventIds,
    ∃ e ∈ events, e.id = id ∧ isFailedAuthentication e ∧ e.srcIp = t.srcIp

/-- The findings of the sweep are one for each address with at least eight failures in a day that
ends with one of them, none for another, and each cites only failures of its address. -/
structure SweepReport (events : List CanonicalEvent) (findings : List FindingRecord) : Prop where
  grouped : ∀ f ∈ findings, f.ruleId = "scheduled.auth_failure_sweep" →
    ∃ t ∈ events, HasTrigger f t
  counted : ∀ address, (findings.filter fun f => f.ruleId = "scheduled.auth_failure_sweep" ∧
      ∃ t ∈ events, HasTrigger f t ∧ t.srcIp = address).length =
    if Swept events address then 1 else 0
  cites : ∀ f ∈ findings, f.ruleId = "scheduled.auth_failure_sweep" → KeepsTo events f

/-- What a sweep needs of the events and of the findings before it: no failure in the first day of
the calendar; the earlier findings of the sweep keep to their addresses; so does each failure that
the sweep would report; and not both a missing address and the address `None` have failures
enough. -/
structure SweepClear (tenantId : String) (events : List CanonicalEvent)
    (findings : List FindingRecord) : Prop where
  calendar : ∀ e ∈ events, isFailedAuthentication e →
    24 * 3600 * DateTime.second ≤ e.timestamp.wall
  earlier : ∀ f ∈ findings, f.ruleId = "scheduled.auth_failure_sweep" → KeepsTo events f
  next : ∀ event ∈ events, Leads events event →
    scheduledAuthFailureSweep.fingerprint tenantId (sweepLabel event) ∉
      findings.map FindingRecord.fingerprint →
    ∀ e ∈ sweptWith events event, e.srcIp = event.srcIp
  apart : ¬ (Swept events none ∧ Swept events (some "None"))

/-! ### The findings and what was noticed -/

section

variable {tenantId : String} {events : List CanonicalEvent} {noticed : List Notice}
  {findings : List FindingRecord} {n : Notice} {f : FindingRecord}

theorem RowOfNotice.eventIds (h : RowOfNotice scheduledAuthFailureSweep tenantId n f)
    (hn : Standing events n) : f.eventIds = n.selection.related.map (·.id) := by
  obtain ⟨finding, evidenceIds, hbuilt, rfl⟩ := h
  show finding.eventIds = _
  rw [hbuilt.eventIds]
  exact if_pos (List.mem_map_of_mem hn.among)

/-- The address of a finding is that of what was noticed. -/
theorem RowOfNotice.address (h : RowOfNotice scheduledAuthFailureSweep tenantId n f)
    (hn : Standing events n) (hids : (events.map (·.id)).Nodup) (address : Option String) :
    (∃ t ∈ events, HasTrigger f t ∧ t.srcIp = address) ↔ n.trigger.srcIp = address := by
  constructor
  · rintro ⟨t, ht, htrigger, rfl⟩
    rw [(h.trigger hn.among hids hn.arrived ht).mp htrigger]
  · intro haddress
    exact ⟨n.trigger, hn.arrived, (h.trigger hn.among hids hn.arrived hn.arrived).mpr rfl, haddress⟩

theorem RowOfNotice.keepsTo (h : RowOfNotice scheduledAuthFailureSweep tenantId n f)
    (hn : Standing events n) (hids : (events.map (·.id)).Nodup) :
    KeepsTo events f ↔ ∀ e ∈ n.selection.related, e.srcIp = n.trigger.srcIp := by
  have htriggers : HasTrigger f n.trigger :=
    (h.trigger hn.among hids hn.arrived hn.arrived).mpr rfl
  constructor
  · intro hkeeps e he
    have hid : e.id ∈ f.eventIds := by
      rw [h.eventIds hn]
      exact List.mem_map_of_mem he
    obtain ⟨e', he', hsame, -, haddress⟩ := hkeeps n.trigger hn.arrived htriggers e.id hid
    rwa [List.inj_on_of_nodup_map hids he' (hn.counted.subset he) hsame] at haddress
  · intro hown t ht htrigger id hid
    rw [h.eventIds hn] at hid
    obtain ⟨e, he, rfl⟩ := List.mem_map.mp hid
    rw [(h.trigger hn.among hids hn.arrived ht).mp htrigger]
    exact ⟨e, hn.counted.subset he, rfl, (hn.each e he).1, hown e he⟩

/-- The report is exact just if what was noticed is. -/
theorem sweepReport_iff (hids : (events.map (·.id)).Nodup)
    (hstanding : ∀ n ∈ noticed, Standing events n)
    (hrows : List.Forall₂ (RowOfNotice scheduledAuthFailureSweep tenantId) noticed
      (findings.filter fun f => FindingRecord.ruleId f = scheduledAuthFailureSweep.info.ruleId)) :
    SweepReport events findings ↔ Reports events noticed := by
  have hcount : ∀ address, (findings.filter fun f => f.ruleId = "scheduled.auth_failure_sweep" ∧
      ∃ t ∈ events, HasTrigger f t ∧ t.srcIp = address).length =
        (noticed.filter fun n => n.trigger.srcIp = address).length := by
    intro address
    have hlength := length_filter_of_forall₂ (p := fun n => n.trigger.srcIp = address)
      (q := fun f => ∃ t ∈ events, HasTrigger f t ∧ t.srcIp = address) hrows fun n hn f hrow =>
        decide_eq_decide.mpr (hrow.address (hstanding n hn) hids address)
    rw [← hlength, List.filter_filter]
    congr 1
    refine List.filter_congr fun f _ => ?_
    rw [Bool.and_comm, Bool.decide_and]
    rfl
  constructor
  · intro h
    refine ⟨fun address => (hcount address).symm.trans (h.counted address), ?_⟩
    intro n hn
    obtain ⟨f, hf, hrow⟩ := forall₂_exists hrows hn
    obtain ⟨hmem, hrule⟩ := List.mem_filter.mp hf
    exact (hrow.keepsTo (hstanding n hn) hids).mp (h.cites f hmem (of_decide_eq_true hrule))
  · intro h
    have hnotice : ∀ f ∈ findings, f.ruleId = "scheduled.auth_failure_sweep" →
        ∃ n ∈ noticed, RowOfNotice scheduledAuthFailureSweep tenantId n f :=
      fun f hf hrule => exists_of_forall₂ hrows (List.mem_filter.mpr ⟨hf, decide_eq_true hrule⟩)
    refine ⟨?_, fun address => (hcount address).trans (h.counted address), ?_⟩
    · intro f hf hrule
      obtain ⟨n, hn, hrow⟩ := hnotice f hf hrule
      obtain ⟨t, ht, htrigger, -⟩ := (hrow.address (hstanding n hn) hids _).mpr rfl
      exact ⟨t, ht, htrigger⟩
    · intro f hf hrule
      obtain ⟨n, hn, hrow⟩ := hnotice f hf hrule
      exact (hrow.keepsTo (hstanding n hn) hids).mpr (h.own n hn)

end

/-! ### What a sweep notices -/

section

variable (rt : Runtime)

theorem sweep_registered : scheduledAuthFailureSweep ∈ defaultRegistry := by
  simp [defaultRegistry]

theorem standing_turns : Turns rt scheduledAuthFailureSweep fun arrived noticed =>
    ∀ n ∈ noticed, Standing arrived n where
  arrive := by
    rintro arrived noticed event noted hstanding ⟨context, -, hscheduled, -, hnotices⟩
    have hruns : ¬ scheduledAuthFailureSweep.runsIn context = true := by
      intro hruns
      have hset : context.scheduled = true := hruns
      rw [hscheduled] at hset
      cases hset
    rw [DetectionRule.Notices, if_neg hruns] at hnotices
    rw [hnotices, List.append_nil]
    exact fun n hn => (hstanding n hn).mono (List.sublist_append_left _ _)
  sweep := by
    rintro arrived noticed event noted hstanding hevent
      ⟨context, hwindow, hscheduled, -, hnotices⟩ n hn
    rcases List.mem_append.mp hn with hn | hn
    · exact hstanding n hn
    · have hruns : scheduledAuthFailureSweep.runsIn context = true := hscheduled
      rw [DetectionRule.Notices, if_pos hruns] at hnotices
      obtain ⟨selected, hselects, rfl⟩ := hnotices
      obtain ⟨-, hfresh⟩ :=
        @newly_fresh scheduledAuthFailureSweep event context.openFingerprints selected
      obtain ⟨trigger, selection⟩ := n
      obtain ⟨rfl, rfl, -⟩ := hfresh _ hn
      exact standing_of_selects hwindow hevent hscheduled hselects

variable {tenantId : String} {window arrived : List CanonicalEvent} {noticed : List Notice}

/-- Notices of the tenant under the labels of their addresses. -/
def Labelled (tenantId : String) (noticed : List Notice) : Prop :=
  ∀ n ∈ noticed, n.fingerprint scheduledAuthFailureSweep =
    scheduledAuthFailureSweep.fingerprint tenantId (sweepLabel n.trigger)

theorem Labelled.append {more : List Notice} (h : Labelled tenantId noticed)
    (hmore : Labelled tenantId more) : Labelled tenantId (noticed ++ more) :=
  List.forall_mem_append.mpr ⟨h, hmore⟩

/-- A label is open if something was noticed under it. -/
theorem Labelled.mem_opened (h : Labelled tenantId noticed) {opened : List String}
    (hopens : Opens scheduledAuthFailureSweep opened noticed) (label : String) :
    scheduledAuthFailureSweep.fingerprint tenantId label ∈ opened ↔
      label ∈ noticed.map fun n => sweepLabel n.trigger := by
  have hname : ruleOf (scheduledAuthFailureSweep.fingerprint tenantId label) =
      scheduledAuthFailureSweep.info.ruleId.toList := ruleOf_fingerprint (by decide) _ _
  rw [hopens _ hname, List.mem_map, List.mem_map]
  constructor
  · rintro ⟨n, hn, hsame⟩
    rw [h n hn, DetectionRule.fingerprint_inj] at hsame
    exact ⟨n, hn, hsame⟩
  · rintro ⟨n, hn, rfl⟩
    exact ⟨n, hn, h n hn⟩

theorem labelled_sweepNotices (htenant : ∀ e ∈ window, e.tenantId = tenantId)
    {events : List CanonicalEvent} (hevents : events ⊆ window) :
    Labelled tenantId (events.map (sweepNotice window)) := by
  intro n hn
  obtain ⟨event, hevent, rfl⟩ := List.mem_map.mp hn
  show scheduledAuthFailureSweep.fingerprint event.tenantId _ = _
  rw [htenant event (hevents hevent)]
  rfl

theorem sweepOpeners_subset (opened : List String) (window events : List CanonicalEvent) :
    sweepOpeners opened window events ⊆ events :=
  fun _ h => (List.mem_filter.mp (mem_of_mem_firsts h).1).1

variable (htenant : ∀ e ∈ window, e.tenantId = tenantId)
  (hcomparable : ∀ e ∈ window, ∀ e' ∈ window, e.timestamp.Comparable e'.timestamp)

include htenant hcomparable

/-- What the sweep newly notices of one event of the window. -/
theorem sweep_newly {opened : List String} {event : CanonicalEvent} (hevent : event ∈ window)
    (hlabelled : Labelled tenantId noticed)
    (hopens : Opens scheduledAuthFailureSweep opened noticed) {noted : List Notice}
    (h : scheduledAuthFailureSweep.Notices rt
      { window := window, openFingerprints := opened, scheduled := true } event noted) :
    (isFailedAuthentication event → 24 * 3600 * DateTime.second ≤ event.timestamp.wall) ∧
      noted = (if Crowded window event ∧
        sweepLabel event ∉ noticed.map (fun n => sweepLabel n.trigger)
      then [event] else []).map (sweepNotice window) := by
  have hruns : scheduledAuthFailureSweep.runsIn
      { window := window, openFingerprints := opened, scheduled := true } = true := rfl
  rw [DetectionRule.Notices, if_pos hruns] at h
  obtain ⟨selected, hselects, rfl⟩ := h
  have hsame : ∀ e ∈ window, e.tenantId = event.tenantId :=
    fun e he => (htenant e he).trans (htenant event hevent).symm
  have hagree : ∀ e ∈ window, e.timestamp.Comparable event.timestamp :=
    fun e he => hcomparable e he event hevent
  refine ⟨(sweep_selects_ok_iff rfl hagree).mp ⟨selected, hselects⟩, ?_⟩
  rw [sweep_selects_eq rfl hsame hagree hselects]
  dsimp only
  by_cases hcrowded : Crowded window event
  · have hopen : scheduledAuthFailureSweep.fingerprint tenantId (sweepSelection window event).tail ∈
        opened ↔ sweepLabel event ∈ noticed.map fun n => sweepLabel n.trigger :=
      hlabelled.mem_opened hopens (sweepLabel event)
    rw [if_pos hcrowded, newly_some, htenant event hevent]
    by_cases hlabel : sweepLabel event ∈ noticed.map fun n => sweepLabel n.trigger
    · rw [if_pos (hopen.mpr hlabel), if_neg fun h => h.2 hlabel]
      rfl
    · rw [if_neg fun h => hlabel (hopen.mp h), if_pos ⟨hcrowded, hlabel⟩]
      rfl
  · rw [if_neg hcrowded, if_neg fun h => hcrowded h.1]
    rfl

/-- A sweep that ends has noticed the first crowded failures under the labels that were not open. -/
theorem sweep_notices (actorId : String) (opened : List String)
    (hlabelled : Labelled tenantId noticed) :
    Triple (fun w => Resting scheduledAuthFailureSweep tenantId arrived noticed w.session ∧
        Opens scheduledAuthFailureSweep opened noticed)
      (loop (sweepEvent rt tenantId actorId window) { openFingerprints := opened } window)
      (fun _ w => (∀ event ∈ window, isFailedAuthentication event →
          24 * 3600 * DateTime.second ≤ event.timestamp.wall) ∧
        Resting scheduledAuthFailureSweep tenantId arrived
          (noticed ++ (sweepOpeners (noticed.map fun n => sweepLabel n.trigger) window window).map
            (sweepNotice window)) w.session) (fun _ _ => True) := by
  let labels := noticed.map fun n => sweepLabel n.trigger
  -- `done` has had its turn
  let I : Created → List CanonicalEvent → World → Prop := fun acc rest w =>
    ∃ done, done ++ rest = window ∧
      (∀ event ∈ done, isFailedAuthentication event →
        24 * 3600 * DateTime.second ≤ event.timestamp.wall) ∧
      Resting scheduledAuthFailureSweep tenantId arrived
        (noticed ++ (sweepOpeners labels window done).map (sweepNotice window)) w.session ∧
      Opens scheduledAuthFailureSweep acc.openFingerprints
        (noticed ++ (sweepOpeners labels window done).map (sweepNotice window))
  refine Triple.post (Triple.pre
    (triple_loop I ?_ { openFingerprints := opened } window) ?_) ?_
  · intro acc event rest
    refine triple_from ?_
    rintro w₀ ⟨done, hsplit, hcalendar, hw₀, hopens⟩
    have hevent : event ∈ window := by
      rw [← hsplit]
      exact List.mem_append_right _ List.mem_cons_self
    have hdone : done ⊆ window := by
      rw [← hsplit]
      exact List.subset_append_left _ _
    have hnotices : Labelled tenantId
        (noticed ++ (sweepOpeners labels window done).map (sweepNotice window)) :=
      hlabelled.append (labelled_sweepNotices htenant
        (List.Subset.trans (sweepOpeners_subset _ _ _) hdone))
    have hlabels : (noticed ++ (sweepOpeners labels window done).map (sweepNotice window)).map
        (fun n => sweepLabel n.trigger) =
          labels ++ (sweepOpeners labels window done).map sweepLabel := by
      rw [List.map_append, List.map_map]
      rfl
    have hturn := @sweepEvent_resting rt scheduledAuthFailureSweep tenantId actorId arrived
      (noticed ++ (sweepOpeners labels window done).map (sweepNotice window)) sweep_registered window
      acc event
    refine (hturn.pre ?_).post ?_
    · rintro _ rfl
      exact ⟨hw₀, hopens⟩
    · rintro acc' w ⟨noted, hnoted, hw, hopens'⟩
      obtain ⟨hday, rfl⟩ := sweep_newly rt htenant hcomparable hevent hnotices hopens hnoted
      rw [hlabels, List.append_assoc, ← List.map_append, ← sweepOpeners_concat] at hw hopens'
      refine ⟨done ++ [event], ?_, ?_, hw, hopens'⟩
      · rw [List.append_assoc]
        exact hsplit
      · intro e he
        rcases List.mem_append.mp he with he | he
        · exact hcalendar e he
        · rw [List.mem_singleton.mp he]
          exact hday
  · rintro w ⟨hw, hopens⟩
    have hnone : noticed ++ (sweepOpeners labels window []).map (sweepNotice window) = noticed :=
      List.append_nil _
    refine ⟨[], rfl, ?_, ?_, ?_⟩
    · intro event hevent
      cases hevent
    · rw [hnone]
      exact hw
    · rw [hnone]
      exact hopens
  · rintro acc w ⟨done, hsplit, hcalendar, hw, -⟩
    rw [List.append_nil] at hsplit
    subst hsplit
    exact ⟨hcalendar, hw⟩

end

/-! ### Runs -/

section

variable {rt : Runtime} {tenantId : String} {w₀ : World}

/-- What is stored for a payload keeps the event's own id and is for the tenant that it names. -/
theorem Stores.own {payload : JsonObject} {row : SecurityEvent}
    (h : Stores rt tenantId payload row) :
    SecurityEvent.tenantId row = tenantId ∧ row.payload.id = SecurityEvent.id row ∧
      row.payload.tenantId = tenantId := by
  obtain ⟨event, attributes, ⟨raw, t, t', intel, hraw, hevent⟩, rfl⟩ := h
  have hnamed : raw.tenantId = tenantId :=
    ((@drawsFor_normalizePayload 0 rt tenantId payload).ok (Nat.zero_le _) hraw).1
  have horigin : event.tenantId = raw.tenantId := by
    rw [hevent]
    exact (enrichEvent_sameOrigin rt intel raw).tenantId
  exact ⟨rfl, rfl, horigin.trans hnamed⟩

/-- So are all events of a run. -/
theorem rows_own (hcommitted : Committed w₀) (hvacant : w₀.rowsOf .events tenantId = [])
    (calls : List Call) :
    ∀ row ∈ (runCalls rt tenantId w₀ calls).rowsOf .events tenantId,
      row.payload.id = SecurityEvent.id row ∧ row.payload.tenantId = tenantId := by
  have hstart : ∀ row ∈ w₀.session.stored .events, SecurityEvent.tenantId row = tenantId →
      row.payload.id = SecurityEvent.id row ∧ row.payload.tenantId = tenantId := by
    intro row hrow htenant
    have hmem : row ∈ w₀.rowsOf .events tenantId := World.mem_rowsOf.mpr ⟨hrow, htenant⟩
    rw [hvacant] at hmem
    cases hmem
  have hall := @runRequests_all rt _ w₀ hcommitted hstart
    (calls.map fun call => (tenantId, call)) (by
      intro r hr payload _ row hstores _
      obtain ⟨call, -, rfl⟩ := List.mem_map.mp hr
      exact hstores.own.2)
  rw [← runCalls_eq] at hall
  intro row hrow
  obtain ⟨hmem, htenant⟩ := World.mem_rowsOf.mp hrow
  exact hall row hmem htenant

theorem mem_window {w : World} {event : CanonicalEvent} (h : event ∈ w.window tenantId) :
    ∃ row ∈ w.rowsOf .events tenantId, row.payload = event := by
  obtain ⟨row, hrow, hevent⟩ := List.mem_map.mp h
  exact ⟨row, (List.mem_insertionSort _).mp hrow, hevent⟩

end

/-- A state that the calls of a tenant lead to, as a sweep finds it: `noticed` are the findings of
the sweeps before it. -/
structure Prepared (tenantId : String) (w : World) (arrived : List CanonicalEvent)
    (noticed : List Notice) : Prop where
  pending : w.session.pending = []
  resting : Resting scheduledAuthFailureSweep tenantId arrived noticed w.session
  standing : ∀ n ∈ noticed, Standing (w.window tenantId) n
  integrity : StoreIntegrity tenantId w
  keyed : schema.Keyed (w.session.stored .events)
  own : ∀ row ∈ w.rowsOf .events tenantId,
    row.payload.id = SecurityEvent.id row ∧ row.payload.tenantId = tenantId
  ids : ((w.window tenantId).map (·.id)).Nodup

theorem runCalls_prepared (rt : Runtime) {tenantId : String} {w₀ : World}
    (hw₀ : Vacant tenantId w₀) (hcommitted : Committed w₀) (hblank : Blank tenantId w₀)
    (calls : List Call) :
    ∃ arrived noticed, Prepared tenantId (runCalls rt tenantId w₀ calls) arrived noticed := by
  obtain ⟨⟨arrived, noticed, hresting, hstanding⟩, hpending⟩ :=
    runCalls_followedBy rt sweep_registered tenantId (standing_turns rt) calls
      (hw₀.followedBy tenantId fun n hn => by cases hn) hw₀.settled
  obtain ⟨hquiet, -⟩ := runCalls_quiet rt tenantId calls hblank.quiet hblank.committed
  obtain ⟨hend, -⟩ := runRequests_committed rt hcommitted
    (calls.map fun call => (tenantId, call))
  rw [← runCalls_eq] at hend
  have hids := @nodup_arrivals rt tenantId w₀ hcommitted hw₀.events calls
  have hperm : ((runCalls rt tenantId w₀ calls).window tenantId).Perm
      ((runCalls rt tenantId w₀ calls).arrivals tenantId) :=
    (List.perm_insertionSort _ _).map _
  exact ⟨arrived, noticed, hpending, hresting,
    fun n hn => (hstanding n hn).perm hresting.window.symm, hquiet.integrity hpending, hend.keyed,
    rows_own hcommitted hw₀.events calls, (hperm.map _).nodup_iff.mpr hids⟩

section

variable {tenantId : String} {w : World} {arrived : List CanonicalEvent} {noticed : List Notice}

theorem Prepared.tenant (h : Prepared tenantId w arrived noticed) :
    ∀ e ∈ w.window tenantId, e.tenantId = tenantId := by
  intro e he
  obtain ⟨row, hrow, rfl⟩ := mem_window he
  exact (h.own row hrow).2

theorem Prepared.stored (h : Prepared tenantId w arrived noticed) :
    ∀ e ∈ w.window tenantId, ∃ row ∈ w.session.stored .events,
      SecurityEvent.tenantId row = tenantId ∧ row.id = e.id := by
  intro e he
  obtain ⟨row, hrow, rfl⟩ := mem_window he
  obtain ⟨hmem, htenant⟩ := World.mem_rowsOf.mp hrow
  exact ⟨row, hmem, htenant, (h.own row hrow).1.symm⟩

theorem Prepared.labelled (h : Prepared tenantId w arrived noticed) :
    Labelled tenantId noticed := by
  intro n hn
  have hstanding := h.standing n hn
  unfold Notice.fingerprint
  rw [h.tenant _ hstanding.arrived, hstanding.tail]

/-- The findings of the sweep before it. -/
theorem Prepared.rows (h : Prepared tenantId w arrived noticed) :
    List.Forall₂ (RowOfNotice scheduledAuthFailureSweep tenantId) noticed
      ((w.rowsOf .findings tenantId).filter fun f =>
        FindingRecord.ruleId f = scheduledAuthFailureSweep.info.ruleId) := by
  rw [← rowsIn_of_committed h.pending]
  exact h.resting.tallied.noted

/-- No two findings of the sweep have one label. -/
theorem Prepared.labels_nodup (h : Prepared tenantId w arrived noticed) :
    (noticed.map fun n => sweepLabel n.trigger).Nodup := by
  have hfingerprints : (((w.rowsOf .findings tenantId).filter fun f =>
      FindingRecord.ruleId f = scheduledAuthFailureSweep.info.ruleId).map
        FindingRecord.fingerprint).Nodup :=
    List.pairwise_map.mpr (h.integrity.unique.filter _)
  have hsame := map_eq_of_forall₂ (f := Notice.fingerprint scheduledAuthFailureSweep)
    (g := FindingRecord.fingerprint) h.rows ?_
  · rw [hsame, List.map_congr_left h.labelled] at hfingerprints
    refine List.Nodup.of_map (scheduledAuthFailureSweep.fingerprint tenantId) ?_
    rw [List.map_map]
    exact hfingerprints
  · rintro n f ⟨finding, evidenceIds, hbuilt, rfl⟩
    exact hbuilt.fingerprint

theorem Prepared.mem_labels (h : Prepared tenantId w arrived noticed) (label : String) :
    scheduledAuthFailureSweep.fingerprint tenantId label ∈
        (w.rowsOf .findings tenantId).map FindingRecord.fingerprint ↔
      label ∈ noticed.map fun n => sweepLabel n.trigger :=
  h.labelled.mem_opened h.resting.opens label

theorem Prepared.storable {rt : Runtime} (h : Prepared tenantId w arrived noticed)
    (hunspent : Unspent rt w) : Storable rt tenantId (w.session.stored .events) w := by
  obtain ⟨hsuppressions, hexceptions⟩ := h.resting.tallied.unsuppressed
  rw [rowsIn_of_committed h.pending] at hsuppressions hexceptions
  exact ⟨h.pending, hunspent, rfl, h.integrity.unique, h.integrity.sources, hsuppressions,
    hexceptions⟩

variable (rt : Runtime) (actorId : String)
  (hcomparable : ∀ e ∈ w.window tenantId, ∀ e' ∈ w.window tenantId,
    e.timestamp.Comparable e'.timestamp)

include hcomparable

/-- The sweep ends if no failure is of the first day of the calendar. -/
theorem Prepared.returns (h : Prepared tenantId w arrived noticed)
    (huuid : Function.Injective rt.uuid4) (hunspent : Unspent rt w)
    (hcalendar : ∀ e ∈ w.window tenantId, isFailedAuthentication e →
      24 * 3600 * DateTime.second ≤ e.timestamp.wall) :
    ∃ created w', runScheduled rt tenantId actorId w = (.ok created, w') := by
  refine runScheduled_returns huuid h.keyed (h.storable hunspent) ?_ h.stored actorId
  intro opened event hevent
  refine (sweep_selects_ok_iff rfl ?_).mpr (hcalendar event hevent)
  exact fun e he => hcomparable e he event hevent

/-- What the sweeps up to this one noticed, if it ends. -/
theorem Prepared.ends (h : Prepared tenantId w arrived noticed) {created : Nat} {w' : World}
    (hrun : runScheduled rt tenantId actorId w = (.ok created, w')) :
    (∀ e ∈ w.window tenantId, isFailedAuthentication e →
        24 * 3600 * DateTime.second ≤ e.timestamp.wall) ∧
      List.Forall₂ (RowOfNotice scheduledAuthFailureSweep tenantId)
        (noticed ++ (sweepOpeners (noticed.map fun n => sweepLabel n.trigger) (w.window tenantId)
          (w.window tenantId)).map (sweepNotice (w.window tenantId)))
        ((w'.rowsOf .findings tenantId).filter fun f =>
          FindingRecord.ruleId f = scheduledAuthFailureSweep.info.ruleId) := by
  rw [runScheduled_eq rt tenantId actorId w] at hrun
  obtain ⟨acc, w₁, hloop, hrun⟩ := ok_of_bind hrun
  obtain ⟨-, rfl⟩ := Prod.mk.inj hrun
  obtain ⟨hcalendar, hresting⟩ := (sweep_notices rt h.tenant hcomparable actorId _ h.labelled).ok
    ⟨h.resting, h.resting.opens⟩ hloop
  refine ⟨hcalendar, ?_⟩
  have hrows : rowsIn w₁.session .findings tenantId = w₁.rowsOf .findings tenantId := by
    unfold rowsIn World.rowsOf Session.all
    rw [hresting.settled, List.append_nil]
  rw [← hrows]
  exact hresting.tallied.noted

/-- The report of a sweep that ends is exact just if the findings before it, and those that it adds,
keep to their addresses, and no two addresses with failures enough share a label. -/
theorem Prepared.report_iff (h : Prepared tenantId w arrived noticed) {created : Nat} {w' : World}
    (hrun : runScheduled rt tenantId actorId w = (.ok created, w')) :
    SweepReport (w.window tenantId) (w'.rowsOf .findings tenantId) ↔
      SweepClear tenantId (w.window tenantId) (w.rowsOf .findings tenantId) := by
  obtain ⟨hcalendar, hrows⟩ := h.ends rt actorId hcomparable hrun
  set events := w.window tenantId with hevents
  set labels := noticed.map fun n => sweepLabel n.trigger with hlabels
  set openers := sweepOpeners labels events events with hopeners
  have hopener : ∀ event ∈ openers, event ∈ events ∧ Crowded events event := by
    intro event hevent
    obtain ⟨hmem, hcrowded⟩ := List.mem_filter.mp (mem_of_mem_firsts hevent).1
    exact ⟨hmem, of_decide_eq_true hcrowded⟩
  have hstanding : ∀ n ∈ noticed ++ openers.map (sweepNotice events), Standing events n := by
    refine List.forall_mem_append.mpr ⟨h.standing, fun n hn => ?_⟩
    obtain ⟨event, hevent, rfl⟩ := List.mem_map.mp hn
    exact standing_sweepNotice (hopener event hevent).1 (hopener event hevent).2
  have hall : (noticed ++ openers.map (sweepNotice events)).map (fun n => sweepLabel n.trigger) =
      labels ++ openers.map sweepLabel := by
    rw [List.map_append, List.map_map]
    rfl
  have hnodup : ((noticed ++ openers.map (sweepNotice events)).map
      fun n => sweepLabel n.trigger).Nodup := by
    rw [hall]
    refine List.nodup_append.mpr ⟨h.labels_nodup, nodup_firsts sweepLabel labels _, ?_⟩
    rintro label hold _ hnew rfl
    obtain ⟨event, hevent, rfl⟩ := List.mem_map.mp hnew
    exact (mem_of_mem_firsts hevent).2 hold
  have hcovers : ∀ event ∈ events, Crowded events event → sweepLabel event ∈
      (noticed ++ openers.map (sweepNotice events)).map fun n => sweepLabel n.trigger := by
    intro event hevent hcrowded
    rw [hall]
    exact sweepOpeners_covers labels hevent hcrowded
  have hnew : ∀ event, event ∈ openers ↔ scheduledAuthFailureSweep.fingerprint tenantId
      (sweepLabel event) ∉ (w.rowsOf .findings tenantId).map FindingRecord.fingerprint ∧
        Leads events event := by
    intro event
    rw [h.mem_labels]
    exact mem_sweepOpeners
  rw [sweepReport_iff h.ids hstanding hrows, reports_iff hstanding hnodup hcovers]
  constructor
  · rintro ⟨hown, hapart⟩
    refine ⟨hcalendar, ?_, ?_, hapart⟩
    · intro f hf hrule
      obtain ⟨n, hn, hrow⟩ := exists_of_forall₂ h.rows
        (List.mem_filter.mpr ⟨hf, decide_eq_true hrule⟩)
      exact (hrow.keepsTo (h.standing n hn) h.ids).mpr (hown n (List.mem_append_left _ hn))
    · intro event _ hleads hclosed
      have hmem : event ∈ openers := (hnew event).mpr ⟨hclosed, hleads⟩
      exact hown (sweepNotice events event) (List.mem_append_right _ (List.mem_map_of_mem hmem))
  · intro hclear
    refine ⟨List.forall_mem_append.mpr ⟨fun n hn => ?_, fun n hn => ?_⟩, hclear.apart⟩
    · obtain ⟨f, hf, hrow⟩ := forall₂_exists h.rows hn
      obtain ⟨hmem, hrule⟩ := List.mem_filter.mp hf
      exact (hrow.keepsTo (h.standing n hn) h.ids).mp
        (hclear.earlier f hmem (of_decide_eq_true hrule))
    · obtain ⟨event, hevent, rfl⟩ := List.mem_map.mp hn
      obtain ⟨hclosed, hleads⟩ := (hnew event).mp hevent
      exact hclear.next event (hopener event hevent).1 hleads hclosed

end

/-- After any calls of a tenant without suppressions, a scheduled sweep over comparable events ends
and leaves exactly one finding for each address with failures enough, about failures of that
address, just if the events and the findings before it are clear. -/
theorem sweep_exact_iff (rt : Runtime) (huuid : Function.Injective rt.uuid4) (tenantId : String)
    {w₀ : World} (hw₀ : Vacant tenantId w₀) (hcommitted : Committed w₀) (hblank : Blank tenantId w₀)
    (calls : List Call) (hunspent : Unspent rt (runCalls rt tenantId w₀ calls))
    (hcomparable : ∀ e ∈ (runCalls rt tenantId w₀ calls).window tenantId,
      ∀ e' ∈ (runCalls rt tenantId w₀ calls).window tenantId,
        e.timestamp.Comparable e'.timestamp) (actorId : String) :
    (∃ created w',
        runScheduled rt tenantId actorId (runCalls rt tenantId w₀ calls) = (.ok created, w') ∧
        SweepReport ((runCalls rt tenantId w₀ calls).window tenantId)
          (w'.rowsOf .findings tenantId)) ↔
      SweepClear tenantId ((runCalls rt tenantId w₀ calls).window tenantId)
        ((runCalls rt tenantId w₀ calls).rowsOf .findings tenantId) := by
  obtain ⟨arrived, noticed, h⟩ := runCalls_prepared rt hw₀ hcommitted hblank calls
  constructor
  · rintro ⟨created, w', hrun, hreport⟩
    exact (h.report_iff rt actorId hcomparable hrun).mp hreport
  · intro hclear
    obtain ⟨created, w', hrun⟩ := h.returns rt actorId hcomparable huuid hunspent hclear.calendar
    exact ⟨created, w', hrun, (h.report_iff rt actorId hcomparable hrun).mpr hclear⟩

/-! ### Samples -/

/-- A failed login, a minute after the one before. -/
def sweptFailure (n : Nat) (address : JsonObject) : JsonObject :=
  [("schema_version", .str "1.0.0"), ("id", .str ("evt_" ++ toString n)), ("source", .str "vpn"),
   ("source_type", .str "network"), ("event_type", .str "vpn"),
   ("category", .str "authentication"), ("outcome", .str "failure"),
   ("timestamp", .int (1700000000 + 60 * n)), ("ingested_at", .int 1700000000),
   ("raw_hash", .str "00")] ++ address

/-- The state after failures from some addresses. -/
def sweptWorld (addresses : List JsonObject) : World :=
  runCalls sampleRuntime "ten_a" emptyWorld
    [.ingest "usr_1" (addresses.zipIdx.map fun (address, n) => sweptFailure n address)]

def addressed : JsonObject :=
  [("src_ip", .str "203.0.113.7")]

/-- Seven failures from one address, and one without. -/
def mixedWorld : World :=
  sweptWorld (List.replicate 7 addressed ++ [[]])

instance (events : List CanonicalEvent) (f : FindingRecord) : Decidable (KeepsTo events f) :=
  inferInstanceAs (Decidable (∀ t ∈ events, _ → ∀ id ∈ f.eventIds, ∃ e ∈ events, _))

instance (tenantId : String) (events : List CanonicalEvent) (findings : List FindingRecord) :
    Decidable (SweepClear tenantId events findings) :=
  decidable_of_iff ((∀ e ∈ events, isFailedAuthentication e →
        24 * 3600 * DateTime.second ≤ e.timestamp.wall) ∧
      (∀ f ∈ findings, f.ruleId = "scheduled.auth_failure_sweep" → KeepsTo events f) ∧
      (∀ event ∈ events, Leads events event →
        scheduledAuthFailureSweep.fingerprint tenantId (sweepLabel event) ∉
          findings.map FindingRecord.fingerprint →
        ∀ e ∈ sweptWith events event, e.srcIp = event.srcIp) ∧
      ¬ (Swept events none ∧ Swept events (some "None")))
    ⟨fun h => ⟨h.1, h.2.1, h.2.2.1, h.2.2.2⟩, fun h => ⟨h.calendar, h.earlier, h.next, h.apart⟩⟩

theorem sampleRuntime_uuid4_injective : Function.Injective sampleRuntime.uuid4 := by
  intro m n h
  have hdigits : m.repr.toList = n.repr.toList := congrArg String.toList h
  rw [Nat.toList_repr, Nat.toList_repr] at hdigits
  have hvalues := congrArg (fun digits => Nat.ofDigitChars 10 digits 0) hdigits
  simpa using hvalues

theorem unspent_of_empty {rt : Runtime} {w : World}
    (h : (w.session.stored .findings).length = 0 ∧ (w.session.stored .alerts).length = 0 ∧
      (w.session.stored .evidence).length = 0) : Unspent rt w := by
  obtain ⟨hfindings, halerts, hevidence⟩ := h
  refine ⟨?_, ?_, ?_⟩
  · rw [List.length_eq_zero_iff.mp hfindings]
    intro f hf
    cases hf
  · rw [List.length_eq_zero_iff.mp halerts]
    intro a ha
    cases ha
  · rw [List.length_eq_zero_iff.mp hevidence]
    intro e he
    cases he

theorem sweep_exact_addressed : ∃ created w',
    runScheduled sampleRuntime "ten_a" "usr_1" (sweptWorld (List.replicate 8 addressed)) =
        (.ok created, w') ∧
      SweepReport ((sweptWorld (List.replicate 8 addressed)).window "ten_a")
        (w'.rowsOf .findings "ten_a") := by
  have hworld : (((sweptWorld (List.replicate 8 addressed)).session.stored .findings).length = 0 ∧
        ((sweptWorld (List.replicate 8 addressed)).session.stored .alerts).length = 0 ∧
        ((sweptWorld (List.replicate 8 addressed)).session.stored .evidence).length = 0) ∧
      (∀ e ∈ (sweptWorld (List.replicate 8 addressed)).window "ten_a",
        ∀ e' ∈ (sweptWorld (List.replicate 8 addressed)).window "ten_a",
          e.timestamp.Comparable e'.timestamp) ∧
      SweepClear "ten_a" ((sweptWorld (List.replicate 8 addressed)).window "ten_a")
        ((sweptWorld (List.replicate 8 addressed)).rowsOf .findings "ten_a") := by
    decide +kernel
  exact (sweep_exact_iff sampleRuntime sampleRuntime_uuid4_injective "ten_a" vacant_emptyWorld
    committed_emptyWorld (blank_emptyWorld "ten_a") _ (unspent_of_empty hworld.1) hworld.2.1
    "usr_1").mpr hworld.2.2

/-- A failure without an address is reported with the seven of an address. -/
theorem unaddressed_reported :
    (∀ e ∈ mixedWorld.window "ten_a", ∀ e' ∈ mixedWorld.window "ten_a",
        e.timestamp.Comparable e'.timestamp) ∧
      ¬ SweepReport (mixedWorld.window "ten_a")
        ((runScheduled sampleRuntime "ten_a" "usr_1" mixedWorld).2.rowsOf .findings "ten_a") ∧
      (runScheduled sampleRuntime "ten_a" "usr_1" mixedWorld).1 = .ok 1 := by
  have hrun : (∀ e ∈ mixedWorld.window "ten_a", ∀ e' ∈ mixedWorld.window "ten_a",
        e.timestamp.Comparable e'.timestamp) ∧
      (((runScheduled sampleRuntime "ten_a" "usr_1" mixedWorld).2.rowsOf .findings "ten_a").filter
        fun f => f.ruleId = "scheduled.auth_failure_sweep" ∧
          ∃ t ∈ mixedWorld.window "ten_a", HasTrigger f t ∧ t.srcIp = none).length = 1 ∧
      ¬ Swept (mixedWorld.window "ten_a") none ∧
      (runScheduled sampleRuntime "ten_a" "usr_1" mixedWorld).1 = .ok 1 := by
    decide +kernel
  obtain ⟨hcomparable, hone, hfew, hends⟩ := hrun
  refine ⟨hcomparable, fun h => ?_, hends⟩
  have hnone := h.counted none
  rw [hone, if_neg hfew] at hnone
  cases hnone

end BlueTeam.Services
