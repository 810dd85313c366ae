/- GID: BlueTeam/Services/Notices
   generality: I
   source: services/api/app/services/detection.py, ingestion.py,
     packages/detection-sdk/blueteam_detection/registry.py
   digest: A rule's findings are those of what it noticed, over all runs without suppressions. -/

import BlueTeam.Detection.Notices
import BlueTeam.Services.Arrival
import BlueTeam.Services.Events

set_option autoImplicit false
set_option relaxedAutoImplicit false

namespace BlueTeam.Services

open BlueTeam.Python BlueTeam.Schema BlueTeam.Lib BlueTeam.Lib.Exec BlueTeam.Detection BlueTeam.Rules

/-! ### The findings of a rule -/

/-- The tenant's findings that carry the rule's id. -/
def ownRows (rule : DetectionRule) (tenantId : String) (s : Session schema) : List FindingRecord :=
  (rowsIn s .findings tenantId).filter fun f => FindingRecord.ruleId f = rule.info.ruleId

/-- The row of a finding that the rule made of what it noticed. -/
def RowOfNotice (rule : DetectionRule) (tenantId : String) (n : Notice) (row : FindingRecord) : Prop :=
  ∃ finding evidenceIds, Built rule n finding ∧ row = findingRecord tenantId finding evidenceIds

/-- What has arrived for a tenant without suppressions, and that the rule's findings are, one by
one, those of what it noticed. -/
structure Tallied (rule : DetectionRule) (tenantId : String) (arrived : List CanonicalEvent)
    (noticed : List Notice) (s : Session schema) : Prop where
  watched : ∃ found, Watched tenantId arrived found s
  noted : List.Forall₂ (RowOfNotice rule tenantId) noticed (ownRows rule tenantId s)

/-- Of the rule's fingerprints, those are open under which it noticed something. -/
def Opens (rule : DetectionRule) (opened : List String) (noticed : List Notice) : Prop :=
  ∀ fingerprint, ruleOf fingerprint = rule.info.ruleId.toList →
    (fingerprint ∈ opened ↔ fingerprint ∈ noticed.map (Notice.fingerprint rule))

section

variable {rule : DetectionRule} {tenantId : String} {arrived : List CanonicalEvent}
  {noticed noted : List Notice} {s s' : Session schema}

theorem Tallied.same (h : Tallied rule tenantId arrived noticed s)
    (hwatched : ∀ found, Watched tenantId arrived found s → Watched tenantId arrived found s')
    (hfindings : s'.all .findings = s.all .findings) : Tallied rule tenantId arrived noticed s' := by
  obtain ⟨found, hfound⟩ := h.watched
  refine ⟨⟨found, hwatched found hfound⟩, ?_⟩
  unfold ownRows rowsIn
  rw [hfindings]
  exact h.noted

theorem Tallied.flush (h : Tallied rule tenantId arrived noticed s) (hflush : s.flush = .ok s') :
    Tallied rule tenantId arrived noticed s' :=
  h.same (fun _ hw => hw.flush hflush) (Session.flush_all hflush .findings)

theorem tallied_stable :
    Stable (Tallied rule tenantId arrived noticed) (fun _ _ => True) besideWatched where
  add r s ht hs := hs.same (fun _ hw => watched_stable.add r s ht hw)
    (Session.add_all_of_ne (S := schema) s (ne_of_mem_besideWatched ht).2.1 r)
  update f s ht hne hs := hs.same (fun _ hw => watched_stable.update f s ht hne hw)
    (Session.update_all_of_ne (S := schema) s (ne_of_mem_besideWatched ht).2.1 f)
  delete p s ht hne hs := hs.same (fun _ hw => watched_stable.delete p s ht hne hw)
    (Session.delete_all_of_ne (S := schema) s (ne_of_mem_besideWatched ht).2.1 p)
  flush := keeps_flush (fun _ _ hs hflush => hs.flush hflush) fun _ _ _ _ => trivial
  python _ _ _ := trivial
  multiple _ _ _ _ := trivial
  missing _ _ _ _ _ := trivial

theorem Tallied.unsuppressed (h : Tallied rule tenantId arrived noticed s) :
    rowsIn s .suppressions tenantId = [] ∧ rowsIn s .exceptions tenantId = [] := by
  obtain ⟨found, hwatched⟩ := h.watched
  exact ⟨hwatched.suppressions, hwatched.exceptions⟩

/-- A finding whose fingerprint is one of the rule's is that of something it noticed. -/
theorem Tallied.noticed_of_fingerprint (h : Tallied rule tenantId arrived noticed s)
    {row : FindingRecord} (hrow : row ∈ rowsIn s .findings tenantId)
    (hown : ruleOf row.fingerprint = rule.info.ruleId.toList) :
    row.fingerprint ∈ noticed.map (Notice.fingerprint rule) := by
  obtain ⟨found, hwatched⟩ := h.watched
  have hid : row.ruleId = rule.info.ruleId :=
    String.toList_injective ((hwatched.named row hrow).symm.trans hown)
  have hmem : row ∈ ownRows rule tenantId s := List.mem_filter.mpr ⟨hrow, decide_eq_true hid⟩
  obtain ⟨n, hn, finding, evidenceIds, hbuilt, rfl⟩ := exists_of_forall₂ h.noted hmem
  exact List.mem_map.mpr ⟨n, hn, hbuilt.fingerprint.symm⟩

/-- A finding is added; the rule noticed something if it is one of its own. -/
theorem Tallied.add_finding (h : Tallied rule tenantId arrived noticed s) {finding : Finding}
    (hnamed : ruleOf finding.fingerprint = finding.ruleId.toList)
    (hbuilt : List.Forall₂ (Built rule) noted (rule.own [finding])) (evidenceIds : List String) :
    Tallied rule tenantId arrived (noticed ++ noted)
      (s.add (S := schema) (t := .findings) (findingRecord tenantId finding evidenceIds)) := by
  obtain ⟨found, hwatched⟩ := h.watched
  refine ⟨⟨_, hwatched.add_finding (findingRecord tenantId finding evidenceIds) rfl hnamed⟩, ?_⟩
  have hrows : rowsIn (s.add (S := schema) (t := .findings)
      (findingRecord tenantId finding evidenceIds)) .findings tenantId =
        rowsIn s .findings tenantId ++ [findingRecord tenantId finding evidenceIds] := by
    unfold rowsIn
    rw [Session.add_all_self (S := schema), List.filter_append]
    congr 1
    exact List.filter_eq_self.mpr fun r hr => by
      rw [List.mem_singleton.mp hr]
      exact decide_eq_true rfl
  have hown : ownRows rule tenantId (s.add (S := schema) (t := .findings)
      (findingRecord tenantId finding evidenceIds)) = ownRows rule tenantId s ++
        (rule.own [finding]).map fun finding => findingRecord tenantId finding evidenceIds := by
    unfold ownRows DetectionRule.own
    rw [hrows, List.filter_append]
    congr 1
    by_cases hid : finding.ruleId = rule.info.ruleId
    · simp [hid, findingRecord]
    · simp [hid, findingRecord]
  rw [hown]
  refine List.rel_append h.noted ?_
  rw [List.forall₂_map_right_iff]
  exact hbuilt.imp fun n finding hn => ⟨finding, evidenceIds, hn, rfl⟩

/-- One more finding, and its fingerprint open. -/
theorem Opens.add_finding {opened : List String} (h : Opens rule opened noticed) {finding : Finding}
    (hnamed : ruleOf finding.fingerprint = finding.ruleId.toList)
    (hbuilt : List.Forall₂ (Built rule) noted (rule.own [finding])) :
    Opens rule (opened ++ [finding.fingerprint]) (noticed ++ noted) := by
  intro fingerprint hrule
  have hnew : fingerprint = finding.fingerprint ↔
      fingerprint ∈ noted.map (Notice.fingerprint rule) := by
    constructor
    · rintro rfl
      have hid : finding.ruleId = rule.info.ruleId :=
        String.toList_injective (hnamed.symm.trans hrule)
      have hmem : finding ∈ rule.own [finding] :=
        List.mem_filter.mpr ⟨List.mem_singleton_self _, decide_eq_true hid⟩
      obtain ⟨n, hn, hfinding⟩ := exists_of_forall₂ hbuilt hmem
      exact List.mem_map.mpr ⟨n, hn, hfinding.fingerprint.symm⟩
    · intro hmem
      obtain ⟨n, hn, rfl⟩ := List.mem_map.mp hmem
      obtain ⟨other, hother, hfinding⟩ := forall₂_exists hbuilt hn
      obtain rfl := List.mem_singleton.mp (List.mem_of_mem_filter hother)
      exact hfinding.fingerprint.symm
  rw [List.mem_append, List.mem_singleton, List.map_append, List.mem_append, h fingerprint hrule,
    hnew]

end

/-! ### An evaluation -/

section

variable (rt : Runtime) (rule : DetectionRule) (tenantId actorId : String)
  {arrived : List CanonicalEvent} {noticed noted : List Notice}

/-- A finding is stored, unless its fingerprint is there. -/
theorem storeFinding_tallied (acc : Created) {finding : Finding}
    (hnamed : ruleOf finding.fingerprint = finding.ruleId.toList)
    (hbuilt : List.Forall₂ (Built rule) noted (rule.own [finding]))
    (hfresh : ∀ n ∈ noted, n.fingerprint rule ∉ noticed.map (Notice.fingerprint rule)) :
    Triple (fun w => Tallied rule tenantId arrived noticed w.session ∧
        Opens rule acc.openFingerprints noticed)
      (storeFinding rt tenantId actorId acc finding)
      (fun acc' w => Tallied rule tenantId arrived (noticed ++ noted) w.session ∧
        Opens rule acc'.openFingerprints (noticed ++ noted)) (fun _ _ => True) := by
  refine (triple_given fun hopens => ?_).pre fun w hw => And.symm hw
  unfold storeFinding
  refine triple_bind (isSuppressed_unsuppressed rt tenantId
    (fun s hs => hs.unsuppressed) finding) fun suppressed => ?_
  refine triple_given fun hsuppressed => ?_
  rw [hsuppressed, if_neg (by decide)]
  -- a row under the fingerprint of one of the rule's findings was noticed before
  refine triple_bind (Q := fun existing w => (existing ≠ none → noted = []) ∧
    Tallied rule tenantId arrived noticed w.session) ?_ fun existing => ?_
  · refine triple_selectOne ?_ ?_ fun _ _ _ => trivial
    · intro w hw _
      exact ⟨fun hnone => absurd rfl hnone, hw⟩
    · intro w row hw hmem hown hfingerprint
      refine ⟨fun _ => ?_, hw⟩
      have hrow : row ∈ rowsIn w.session .findings tenantId :=
        mem_rowsIn.mpr ⟨List.mem_append_left _ hmem, hown⟩
      have hsame : FindingRecord.fingerprint row = finding.fingerprint :=
        of_decide_eq_true hfingerprint
      refine List.eq_nil_iff_forall_not_mem.mpr fun n hn => hfresh n hn ?_
      obtain ⟨other, hother, hfinding⟩ := forall₂_exists hbuilt hn
      obtain ⟨hmine, hid⟩ := List.mem_filter.mp hother
      obtain rfl := List.mem_singleton.mp hmine
      rw [← hfinding.fingerprint, ← hsame]
      refine hw.noticed_of_fingerprint hrow ?_
      rw [hsame, hnamed, of_decide_eq_true hid]
  · refine triple_given fun hexisting => ?_
    cases existing with
    | some existing =>
        obtain rfl := hexisting (by simp)
        refine triple_pure fun w hw => ?_
        rw [List.append_nil]
        exact ⟨hw, hopens⟩
    | none =>
        refine triple_bind (Q := fun _ w => Tallied rule tenantId arrived noticed w.session) ?_
          fun evidenceIds => ?_
        · refine keeps_loop (fun ids eventId _ => ?_) _
          refine keeps_bind (registerEventEvidence_keeps rt tenantId tallied_stable ?_ eventId
            actorId) fun _ => keeps_pure _
          exact fun r s hs => tallied_stable.add (t := .evidence) r s (by decide) hs
        · refine triple_bind (Q := fun _ w => Tallied rule tenantId arrived (noticed ++ noted)
            w.session) (triple_add ?_) fun _ => ?_
          · exact fun w hw => hw.add_finding hnamed hbuilt evidenceIds
          refine triple_bind (Q := fun _ w => Tallied rule tenantId arrived (noticed ++ noted)
            w.session) ?_ fun _ => ?_
          · exact keeps_add fun s hs => tallied_stable.add (t := .alerts) _ s (by decide) hs
          · exact triple_pure fun w hw => ⟨hw, hopens.add_finding hnamed hbuilt⟩

/-- The findings of an evaluation are stored one by one. -/
theorem storeAll_tallied (findings : List Finding)
    (hnamed : ∀ finding ∈ findings, ruleOf finding.fingerprint = finding.ruleId.toList)
    (hbuilt : List.Forall₂ (Built rule) noted (rule.own findings))
    (hdistinct : (noted.map (Notice.fingerprint rule)).Nodup)
    (hfresh : ∀ n ∈ noted, n.fingerprint rule ∉ noticed.map (Notice.fingerprint rule))
    (acc : Created) :
    Triple (fun w => Tallied rule tenantId arrived noticed w.session ∧
        Opens rule acc.openFingerprints noticed)
      (loop (storeFinding rt tenantId actorId) acc findings)
      (fun acc' w => Tallied rule tenantId arrived (noticed ++ noted) w.session ∧
        Opens rule acc'.openFingerprints (noticed ++ noted)) (fun _ _ => True) := by
  induction findings generalizing noticed noted acc with
  | nil =>
      cases hbuilt
      rw [List.append_nil]
      exact triple_pure fun _ hw => hw
  | cons finding findings ih =>
      have hsplit : rule.own (finding :: findings) = rule.own [finding] ++ rule.own findings :=
        own_append rule [finding] findings
      rw [hsplit] at hbuilt
      obtain ⟨first, rest, rfl, hfirst, hrest⟩ := forall₂_append_right hbuilt
      rw [List.map_append] at hdistinct
      obtain ⟨-, hdistinct, hapart⟩ := List.nodup_append.mp hdistinct
      refine triple_bind (storeFinding_tallied rt rule tenantId actorId acc
        (hnamed finding List.mem_cons_self) hfirst fun n hn =>
          hfresh n (List.mem_append_left _ hn)) fun acc' => ?_
      rw [← List.append_assoc]
      refine ih (fun other hother => hnamed other (List.mem_cons_of_mem _ hother)) hrest hdistinct
        ?_ acc'
      intro n hn hmem
      rw [List.map_append, List.mem_append] at hmem
      rcases hmem with hold | hnew
      · exact hfresh n (List.mem_append_right _ hn) hold
      · exact hapart _ hnew _ (List.mem_map_of_mem hn) rfl

/-- The state between two evaluations: no finding waits to be written. -/
structure Resting (rule : DetectionRule) (tenantId : String) (arrived : List CanonicalEvent)
    (noticed : List Notice) (s : Session schema) : Prop where
  tallied : Tallied rule tenantId arrived noticed s
  settled : s.pendingOf .findings = []

variable {rule}

/-- What a rule of the registry notices of an event is stored, and nothing else of it. -/
theorem evaluateAndStoreFindings_tallied (hrule : rule ∈ defaultRegistry)
    (context : DetectionContext) (event : CanonicalEvent) :
    Triple (fun w => Tallied rule tenantId arrived noticed w.session ∧
        Opens rule context.openFingerprints noticed)
      (evaluateAndStoreFindings rt tenantId actorId context event)
      (fun acc w => ∃ noted, rule.Notices rt context event noted ∧
        Resting rule tenantId arrived (noticed ++ noted) w.session ∧
        Opens rule acc.openFingerprints (noticed ++ noted)) (fun _ _ => True) := by
  refine (triple_given fun hopens => ?_).pre fun w hw => And.symm hw
  unfold evaluateAndStoreFindings
  refine triple_bind (Q := fun findings w => (∃ t t', evaluateAll rt defaultRegistry event context
    t = (.ok findings, t')) ∧ Tallied rule tenantId arrived noticed w.session) ?_ fun findings => ?_
  · refine triple_draw ?_ fun _ _ _ _ _ => trivial
    intro w findings t hw hrun
    exact ⟨⟨w.ticks, t, hrun⟩, hw⟩
  · refine triple_given fun hrun => ?_
    obtain ⟨t, t', hrun⟩ := hrun
    obtain ⟨noted, hnotices, hbuilt⟩ := (evaluateAll_newly rt hrule defaultRegistry_ids_nodup event
      context).ok trivial hrun
    have hnamed : ∀ finding ∈ findings, ruleOf finding.fingerprint = finding.ruleId.toList :=
      fun finding hmem => Produced.named rt ⟨t, findings, t', hrun, hmem⟩
    obtain ⟨hdistinct, hnew⟩ := hnotices.fresh
    have hfresh : ∀ n ∈ noted, n.fingerprint rule ∉ noticed.map (Notice.fingerprint rule) := by
      intro n hn hmem
      refine (hnew n hn).2 ((hopens _ ?_).mpr hmem)
      exact ruleOf_fingerprint (defaultRegistry_wellNamed rule hrule) _ _
    refine triple_bind ((storeAll_tallied rt rule tenantId actorId findings hnamed hbuilt hdistinct
      hfresh { openFingerprints := context.openFingerprints }).pre fun w hw => ⟨hw, hopens⟩)
        fun acc => ?_
    refine triple_bind (Q := fun _ w => Resting rule tenantId arrived (noticed ++ noted) w.session ∧
      Opens rule acc.openFingerprints (noticed ++ noted)) ?_ fun _ => ?_
    · refine triple_flush ?_ fun _ _ _ _ => trivial
      rintro w s ⟨hw, hopens'⟩ hflush
      refine ⟨⟨hw.flush hflush, ?_⟩, hopens'⟩
      unfold Session.pendingOf
      rw [(Session.flush_ok hflush).1]
      rfl
    · exact triple_pure fun _ hw => ⟨noted, hnotices, hw⟩

/-- What a rule notices of an event when what has arrived is evaluated. -/
def NoticesAmong (rt : Runtime) (rule : DetectionRule) (arrived : List CanonicalEvent)
    (noticed : List Notice) (scheduled : Bool) (event : CanonicalEvent) (noted : List Notice) :
    Prop :=
  ∃ context, (DetectionContext.window context).Perm arrived ∧ context.scheduled = scheduled ∧
    Opens rule context.openFingerprints noticed ∧ rule.Notices rt context event noted

/-- Before an evaluation the open fingerprints are those of the findings that are stored. -/
theorem Resting.opens {w : World}
    (h : Resting rule tenantId arrived noticed w.session) :
    Opens rule (realtimeContext w tenantId).openFingerprints noticed := by
  have hrows : w.rowsOf .findings tenantId = rowsIn w.session .findings tenantId := by
    unfold World.rowsOf rowsIn Session.all
    rw [h.settled, List.append_nil]
  intro fingerprint hname
  unfold realtimeContext
  dsimp only
  rw [hrows]
  constructor
  · intro hmem
    obtain ⟨row, hrow, rfl⟩ := List.mem_map.mp hmem
    exact h.tallied.noticed_of_fingerprint hrow hname
  · intro hmem
    obtain ⟨n, hn, rfl⟩ := List.mem_map.mp hmem
    obtain ⟨row, hrow, finding, evidenceIds, hbuilt, rfl⟩ := forall₂_exists h.tallied.noted hn
    exact List.mem_map.mpr ⟨_, (List.mem_filter.mp hrow).1, hbuilt.fingerprint⟩

theorem Resting.window {w : World} (h : Resting rule tenantId arrived noticed w.session) :
    (w.window tenantId).Perm arrived := by
  obtain ⟨found, hwatched⟩ := h.tallied.watched
  have hwindow : (w.window tenantId).Perm (arrivals tenantId w.session) :=
    (List.perm_insertionSort _ _).map _
  rw [hwatched.arrived] at hwindow
  exact hwindow

theorem evaluateAndStore_resting (hrule : rule ∈ defaultRegistry) (event : CanonicalEvent) :
    Triple (fun w => Resting rule tenantId arrived noticed w.session)
      (evaluateAndStore rt tenantId actorId event)
      (fun _ w => ∃ noted, NoticesAmong rt rule arrived noticed false event noted ∧
        Resting rule tenantId arrived (noticed ++ noted) w.session) (fun _ _ => True) := by
  refine triple_from fun w₀ hw₀ => ?_
  refine triple_via (fun w => Tallied rule tenantId arrived noticed w.session ∧
    Opens rule (realtimeContext w₀ tenantId).openFingerprints noticed) ?_
  rintro _ rfl
  refine ⟨_, _, evaluateAndStore_run rt tenantId actorId event _, ⟨hw₀.tallied, hw₀.opens⟩, ?_⟩
  refine triple_bind (evaluateAndStoreFindings_tallied rt tenantId actorId hrule _ event)
    fun acc => triple_pure ?_
  rintro w ⟨noted, hnotices, hw, -⟩
  exact ⟨noted, ⟨_, hw₀.window, rfl, hw₀.opens, hnotices⟩, hw⟩

/-- One turn of a sweep over what has arrived. -/
theorem sweepEvent_resting (hrule : rule ∈ defaultRegistry) (window : List CanonicalEvent)
    (acc : Created) (event : CanonicalEvent) :
    Triple (fun w => Resting rule tenantId arrived noticed w.session ∧
        Opens rule acc.openFingerprints noticed)
      (sweepEvent rt tenantId actorId window acc event)
      (fun acc' w => ∃ noted, rule.Notices rt
          { window := window, openFingerprints := acc.openFingerprints, scheduled := true }
          event noted ∧
        Resting rule tenantId arrived (noticed ++ noted) w.session ∧
        Opens rule acc'.openFingerprints (noticed ++ noted)) (fun _ _ => True) := by
  refine triple_bind ((evaluateAndStoreFindings_tallied rt tenantId actorId hrule _ event).pre
    fun w hw => ⟨hw.1.tallied, hw.2⟩) fun one => triple_pure ?_
  rintro w ⟨noted, hnotices, hw, hopens⟩
  exact ⟨noted, hnotices, hw, hopens⟩

end

/-! ### Calls -/

/-- A realtime rule has noticed, event after event, what it selected when the event had arrived. -/
inductive Chronicle (rt : Runtime) (rule : DetectionRule) :
    List CanonicalEvent → List Notice → Prop
  | nil : Chronicle rt rule [] []
  | arrive {arrived : List CanonicalEvent} {noticed noted : List Notice} {event : CanonicalEvent}
      (before : Chronicle rt rule arrived noticed)
      (notices : NoticesAmong rt rule (arrived ++ [event]) noticed false event noted) :
      Chronicle rt rule (arrived ++ [event]) (noticed ++ noted)

/-- The state between two turns of ingestion. -/
def Followed (rt : Runtime) (rule : DetectionRule) (tenantId : String) (s : Session schema) : Prop :=
  ∃ arrived noticed, Resting rule tenantId arrived noticed s ∧
    (rule.info.execution = .realtime → Chronicle rt rule arrived noticed)

/-- A relation of what has arrived to what a rule noticed that every evaluation keeps. -/
structure Turns (rt : Runtime) (rule : DetectionRule)
    (R : List CanonicalEvent → List Notice → Prop) : Prop where
  arrive : ∀ {arrived noticed event noted}, R arrived noticed →
    NoticesAmong rt rule (arrived ++ [event]) noticed false event noted →
      R (arrived ++ [event]) (noticed ++ noted)
  sweep : ∀ {arrived noticed event noted}, R arrived noticed → event ∈ arrived →
    NoticesAmong rt rule arrived noticed true event noted → R arrived (noticed ++ noted)

/-- The state between two turns of ingestion, as far as a relation tells of it. -/
def FollowedBy (R : List CanonicalEvent → List Notice → Prop) (rule : DetectionRule)
    (tenantId : String) (s : Session schema) : Prop :=
  ∃ arrived noticed, Resting rule tenantId arrived noticed s ∧ R arrived noticed

/-- What the findings alone say of a resting state. -/
structure Listed (rule : DetectionRule) (tenantId : String) (noticed : List Notice)
    (s : Session schema) : Prop where
  noted : List.Forall₂ (RowOfNotice rule tenantId) noticed (ownRows rule tenantId s)
  settled : s.pendingOf .findings = []

section

variable {rule : DetectionRule} {tenantId : String} {arrived : List CanonicalEvent}
  {noticed : List Notice} {s s' : Session schema}

theorem Listed.same (h : Listed rule tenantId noticed s)
    (hfindings : s'.all .findings = s.all .findings) (hsettled : s'.pendingOf .findings = []) :
    Listed rule tenantId noticed s' := by
  refine ⟨?_, hsettled⟩
  unfold ownRows rowsIn
  rw [hfindings]
  exact h.noted

theorem Listed.flush (h : Listed rule tenantId noticed s) (hflush : s.flush = .ok s') :
    Listed rule tenantId noticed s' := by
  refine h.same (Session.flush_all hflush .findings) ?_
  unfold Session.pendingOf
  rw [(Session.flush_ok hflush).1]
  rfl

theorem listed_stable : Stable (Listed rule tenantId noticed) (fun _ _ => True) besideFindings where
  add r s ht hs := by
    have hne := ne_findings_of_mem ht
    refine hs.same (Session.add_all_of_ne (S := schema) s hne r) ?_
    rw [Session.add_pendingOf_of_ne (S := schema) s hne]
    exact hs.settled
  update f s ht _ hs :=
    hs.same (Session.update_all_of_ne (S := schema) s (ne_findings_of_mem ht) f) hs.settled
  delete p s ht _ hs :=
    hs.same (Session.delete_all_of_ne (S := schema) s (ne_findings_of_mem ht) p) hs.settled
  flush := keeps_flush (fun _ _ hs hflush => hs.flush hflush) fun _ _ _ _ => trivial
  python _ _ _ := trivial
  multiple _ _ _ _ := trivial
  missing _ _ _ _ _ := trivial

theorem Resting.listed (h : Resting rule tenantId arrived noticed s) :
    Listed rule tenantId noticed s :=
  ⟨h.tallied.noted, h.settled⟩

theorem Listed.resting (h : Listed rule tenantId noticed s)
    (hwatched : ∃ found, Watched tenantId arrived found s) :
    Resting rule tenantId arrived noticed s :=
  ⟨⟨hwatched, h.noted⟩, h.settled⟩

/-- A program that keeps what has arrived and touches no finding. -/
theorem keeps_resting {α : Type} {m : Service α}
    (hwatched : ∀ found, Keeps (Watched tenantId arrived found) (fun _ _ => True) m)
    (hlisted : Keeps (Listed rule tenantId noticed) (fun _ _ => True) m) :
    Keeps (Resting rule tenantId arrived noticed) (fun _ _ => True) m := by
  refine triple_from fun w₀ hw₀ => ?_
  obtain ⟨found, hfound⟩ := hw₀.tallied.watched
  refine ((hwatched found).and hlisted).conseq ?_ ?_ fun _ _ _ => trivial
  · rintro _ rfl
    exact ⟨hfound, hw₀.listed⟩
  · rintro _ w ⟨hw, hl⟩
    exact hl.resting ⟨found, hw⟩

end

section

variable (rt : Runtime) {rule : DetectionRule} (hrule : rule ∈ defaultRegistry)
  (tenantId actorId : String) {arrived : List CanonicalEvent} {noticed : List Notice}

/-- Before the detections of a turn of ingestion, either nothing arrived, or the event did. -/
theorem untilEvaluate_resting (acc : IngestResult) (payload : JsonObject) :
    Triple (fun w => Resting rule tenantId arrived noticed w.session)
      (untilEvaluate rt tenantId acc payload)
      (fun next w => (∀ result, next = .inl result → Resting rule tenantId arrived noticed w.session) ∧
        ∀ event, next = .inr event → Resting rule tenantId (arrived ++ [event]) noticed w.session)
      (fun _ _ => True) := by
  refine triple_from fun w₀ hw₀ => ?_
  obtain ⟨found, hfound⟩ := hw₀.tallied.watched
  have hlisted : Keeps (Listed rule tenantId noticed) (fun _ _ => True)
      (untilEvaluate rt tenantId acc payload) :=
    untilEvaluate_keeps rt tenantId listed_stable (by decide) (by decide) acc
      fun row _ s hs => listed_stable.add (t := .events) row s (by decide) hs
  have hwatched := @untilEvaluate_watched rt tenantId arrived found acc payload
  refine (hwatched.and hlisted).conseq ?_ ?_ fun _ _ _ => trivial
  · rintro _ rfl
    exact ⟨hfound, hw₀.listed⟩
  · rintro next w ⟨⟨hstopped, harrived⟩, hl⟩
    exact ⟨fun result h => hl.resting ⟨found, hstopped result h⟩,
      fun event h => hl.resting ⟨found, harrived event h⟩⟩

theorem chronicle_turns : Turns rt rule fun arrived noticed =>
    rule.info.execution = .realtime → Chronicle rt rule arrived noticed where
  arrive hchronicle hnotices := fun h => .arrive (hchronicle h) hnotices
  sweep := by
    rintro arrived noticed event noted hchronicle - ⟨context, -, hscheduled, -, hnotices⟩ h
    -- a realtime rule does not run here
    have hruns : rule.runsIn context = false := by
      unfold DetectionRule.runsIn
      rw [h, hscheduled]
      rfl
    rw [DetectionRule.Notices, hruns, if_neg (by decide)] at hnotices
    rw [hnotices, List.append_nil]
    exact hchronicle h

include hrule

variable {R : List CanonicalEvent → List Notice → Prop} (hR : Turns rt rule R)

include hR

theorem ingestPayload_followed (acc : IngestResult) (payload : JsonObject) :
    Keeps (FollowedBy R rule tenantId) (fun _ _ => True)
      (ingestPayload rt tenantId actorId acc payload) := by
  refine triple_from ?_
  rintro w₀ ⟨arrived, noticed, hw₀, hholds⟩
  rw [ingestPayload_eq]
  refine triple_bind ((@untilEvaluate_resting rt rule tenantId arrived noticed acc payload).pre ?_)
    fun next => ?_
  · rintro _ rfl
    exact hw₀
  · rcases next with result | event
    · exact triple_pure fun w hw => ⟨arrived, noticed, hw.1 result rfl, hholds⟩
    · refine triple_bind ((evaluateAndStore_resting rt tenantId actorId hrule event).pre
        fun w hw => hw.2 event rfl) fun created => triple_pure ?_
      rintro w ⟨noted, hnotices, hw⟩
      exact ⟨arrived ++ [event], noticed ++ noted, hw, hR.arrive hholds hnotices⟩

/-- A sweep over what has arrived. -/
theorem sweep_followed {window : List CanonicalEvent} (hwindow : window.Perm arrived)
    (opened : List String) :
    Triple (fun w => ∃ noticed, Resting rule tenantId arrived noticed w.session ∧
        Opens rule opened noticed ∧ R arrived noticed)
      (loop (sweepEvent rt tenantId actorId window) { openFingerprints := opened } window)
      (fun _ w => FollowedBy R rule tenantId w.session) (fun _ _ => True) := by
  let I : Created → List CanonicalEvent → World → Prop := fun acc rest w =>
    (∀ event ∈ rest, event ∈ arrived) ∧ ∃ noticed,
      Resting rule tenantId arrived noticed w.session ∧ Opens rule acc.openFingerprints noticed ∧
        R arrived noticed
  refine Triple.post (Triple.pre
    (triple_loop I ?_ { openFingerprints := opened } window) ?_) ?_
  · intro acc event rest
    refine triple_from ?_
    rintro w₀ ⟨hrest, noticed, hw₀, hopens, hholds⟩
    have hturn := @sweepEvent_resting rt rule tenantId actorId arrived noticed hrule window acc event
    refine (hturn.pre ?_).post ?_
    · rintro _ rfl
      exact ⟨hw₀, hopens⟩
    · rintro acc' w ⟨noted, hnotices, hw, hopens'⟩
      have hamong : NoticesAmong rt rule arrived noticed true event noted :=
        ⟨_, hwindow, rfl, hopens, hnotices⟩
      exact ⟨fun e he => hrest e (List.mem_cons_of_mem _ he), noticed ++ noted, hw, hopens',
        hR.sweep hholds (hrest event List.mem_cons_self) hamong⟩
  · exact fun w hw => ⟨fun event hevent => hwindow.subset hevent, hw⟩
  · rintro _ w ⟨-, noticed, hw, -, hholds⟩
    exact ⟨arrived, noticed, hw, hholds⟩

theorem call_followed (call : Call) :
    Keeps (FollowedBy R rule tenantId) (fun _ _ => True) (call.body rt tenantId) := by
  have hkeeps : ∀ {α : Type} {m : Service α},
      (∀ arrived noticed, Keeps (Resting rule tenantId arrived noticed) (fun _ _ => True) m) →
        Keeps (FollowedBy R rule tenantId) (fun _ _ => True) m := by
    intro α m h
    refine triple_from ?_
    rintro w₀ ⟨arrived, noticed, hw₀, hholds⟩
    refine ((h arrived noticed).pre ?_).post fun _ w hw => ⟨arrived, noticed, hw, hholds⟩
    rintro _ rfl
    exact hw₀
  cases call with
  | ingest actorId payloads =>
      refine keeps_bind ?_ fun _ => keeps_pure _
      refine keeps_bind (keeps_loop (fun acc payload _ =>
        ingestPayload_followed rt hrule tenantId actorId hR acc payload) _) fun result => ?_
      refine keeps_bind (hkeeps fun arrived noticed => keeps_resting ?_ ?_) fun _ => keeps_pure _
      · exact fun found => projectBatch_keeps rt tenantId watched_stable (by decide) trivial result
      · exact projectBatch_keeps rt tenantId listed_stable (by decide) trivial result
  | scheduled actorId =>
      refine keeps_bind ?_ fun _ => keeps_pure _
      refine triple_from fun w₀ hw₀ => ?_
      obtain ⟨arrived, noticed, hresting, hholds⟩ := hw₀
      refine triple_via (fun w => w = w₀) ?_
      rintro _ rfl
      refine ⟨_, _, runScheduled_eq rt tenantId actorId _, rfl, ?_⟩
      refine triple_bind ((sweep_followed rt hrule tenantId actorId hR hresting.window _).pre ?_)
        fun _ => triple_pure fun _ hw => hw
      rintro _ rfl
      exact ⟨noticed, hresting, hresting.opens, hholds⟩
  | persist =>
      refine hkeeps fun arrived noticed => keeps_resting ?_ ?_
      · exact fun found => persistStorylinesAndIncidents_keeps rt tenantId watched_stable (by decide)
          (by decide) fun _ _ => trivial
      · exact persistStorylinesAndIncidents_keeps rt tenantId listed_stable (by decide) (by decide)
          fun _ _ => trivial

/-- In every run. -/
theorem runCalls_followedBy {w : World} (calls : List Call)
    (h : FollowedBy R rule tenantId w.session) (hpending : w.session.pending = []) :
    FollowedBy R rule tenantId (runCalls rt tenantId w calls).session ∧
      (runCalls rt tenantId w calls).session.pending = [] := by
  induction calls generalizing w with
  | nil => exact ⟨h, hpending⟩
  | cons call calls ih =>
      refine ih ?_ (request_pending hpending)
      have hflush : Keeps (FollowedBy R rule tenantId) (fun _ _ => True) flush := by
        refine keeps_flush ?_ fun _ _ _ _ => trivial
        rintro s s' ⟨arrived, noticed, hs, hholds⟩ hflush
        obtain ⟨found, hfound⟩ := hs.tallied.watched
        exact ⟨arrived, noticed, (hs.listed.flush hflush).resting ⟨found, hfound.flush hflush⟩,
          hholds⟩
      refine (request_run (F := fun _ => True) ((call_followed rt hrule tenantId hR call).pre ?_)
        hflush h).1
      rintro _ rfl
      exact h

omit hR

theorem runCalls_followed {w : World} (calls : List Call) (h : Followed rt rule tenantId w.session)
    (hpending : w.session.pending = []) :
    Followed rt rule tenantId (runCalls rt tenantId w calls).session ∧
      (runCalls rt tenantId w calls).session.pending = [] :=
  runCalls_followedBy rt hrule tenantId (chronicle_turns rt) calls h hpending

omit hrule

theorem Vacant.followedBy {w : World} (h : Vacant tenantId w) (hnone : R [] []) :
    FollowedBy R rule tenantId w.session := by
  obtain ⟨arrived, found, hwatched, -⟩ := h.tracked
  have harrived : arrived = [] := by
    rw [← hwatched.arrived]
    show (w.rowsOf .events tenantId).map SecurityEvent.payload = []
    rw [h.events]
    rfl
  subst harrived
  refine ⟨[], [], ⟨⟨⟨found, hwatched⟩, ?_⟩, ?_⟩, hnone⟩
  · unfold ownRows
    rw [rowsIn_of_committed h.settled, h.findings]
    exact .nil
  · unfold Session.pendingOf
    rw [h.settled]
    rfl

theorem Vacant.followed {w : World} (h : Vacant tenantId w) :
    Followed rt rule tenantId w.session :=
  h.followedBy tenantId fun _ => .nil

include hrule

/-- What a realtime rule has noticed after a run from a state in which the tenant is empty. -/
theorem runCalls_chronicle {w₀ : World} (hw₀ : Vacant tenantId w₀)
    (hrealtime : rule.info.execution = .realtime) (calls : List Call) :
    ∃ noticed, Chronicle rt rule ((runCalls rt tenantId w₀ calls).arrivals tenantId) noticed ∧
      List.Forall₂ (RowOfNotice rule tenantId) noticed
        (((runCalls rt tenantId w₀ calls).rowsOf .findings tenantId).filter fun f =>
          FindingRecord.ruleId f = rule.info.ruleId) ∧
      Opens rule (((runCalls rt tenantId w₀ calls).rowsOf .findings tenantId).map
        FindingRecord.fingerprint) noticed := by
  obtain ⟨⟨arrived, noticed, hw, hchronicle⟩, hpending⟩ :=
    runCalls_followed rt hrule tenantId calls (hw₀.followed rt) hw₀.settled
  obtain ⟨found, hwatched⟩ := hw.tallied.watched
  have harrived : (runCalls rt tenantId w₀ calls).arrivals tenantId = arrived := hwatched.arrived
  refine ⟨noticed, ?_, ?_, hw.opens⟩
  · rw [harrived]
    exact hchronicle hrealtime
  · rw [← rowsIn_of_committed hpending]
    exact hw.tallied.noted

end

/-! ### The ids of what has arrived -/

theorem runCalls_eq (rt : Runtime) (tenantId : String) (w : World) (calls : List Call) :
    runCalls rt tenantId w calls = runRequests rt w (calls.map fun call => (tenantId, call)) := by
  unfold runCalls runRequests
  rw [List.foldl_map]

/-- Events are stored under their own ids, so those of a tenant have different ones. -/
theorem nodup_arrivals {rt : Runtime} {tenantId : String} {w₀ : World} (hcommitted : Committed w₀)
    (hvacant : w₀.rowsOf .events tenantId = []) (calls : List Call) :
    (((runCalls rt tenantId w₀ calls).arrivals tenantId).map (·.id)).Nodup := by
  have hstart : ∀ row ∈ w₀.session.stored .events,
      SecurityEvent.tenantId row = tenantId → row.payload.id = row.id := by
    intro row hrow htenant
    have hmem : row ∈ w₀.rowsOf .events tenantId := World.mem_rowsOf.mpr ⟨hrow, htenant⟩
    rw [hvacant] at hmem
    cases hmem
  have hids := @runRequests_all rt _ w₀ hcommitted hstart (calls.map fun call => (tenantId, call))
    (by
      rintro r - payload - row ⟨event, attributes, -, rfl⟩ -
      rfl)
  obtain ⟨hend, -⟩ := runRequests_committed rt hcommitted (calls.map fun call => (tenantId, call))
  rw [← runCalls_eq] at hids hend
  have hrows : ((runCalls rt tenantId w₀ calls).arrivals tenantId).map (·.id) =
      ((runCalls rt tenantId w₀ calls).rowsOf .events tenantId).map SecurityEvent.id := by
    unfold World.arrivals
    rw [List.map_map]
    refine List.map_congr_left fun row hrow => ?_
    obtain ⟨hmem, htenant⟩ := World.mem_rowsOf.mp hrow
    exact hids row hmem htenant
  rw [hrows]
  exact (hend.keyed.nodup).sublist (List.filter_sublist.map _)

end BlueTeam.Services
