/- GID: BlueTeam/Services/Arrival
   generality: I
   source: services/api/app/services/detection.py, ingestion.py,
     detections/python/identity/password_spray.py
   digest: Password sprays in whatever order their events arrive. -/

import BlueTeam.Detection.Spray
import BlueTeam.Rules.Silence
import BlueTeam.Services.Integrity

set_option autoImplicit false
set_option relaxedAutoImplicit false

namespace BlueTeam.Services

open BlueTeam.Python BlueTeam.Schema BlueTeam.Lib BlueTeam.Lib.Exec BlueTeam.Detection BlueTeam.Rules

/-- The tenant's events in the order of their arrival. -/
def arrivals (tenantId : String) (s : Session schema) : List CanonicalEvent :=
  ((s.stored .events).filter fun r => SecurityEvent.tenantId r = tenantId).map
    SecurityEvent.payload

/-- A password spray was found for the tenant. -/
def SprayFound (tenantId : String) (s : Session schema) : Prop :=
  ∃ f ∈ rowsIn s .findings tenantId, FindingRecord.ruleId f = passwordSprayRule.info.ruleId

/-- What has arrived for a tenant without suppressions, and whether a spray was found. -/
structure Watched (tenantId : String) (arrived : List CanonicalEvent) (found : Prop)
    (s : Session schema) : Prop where
  settled : s.pendingOf .events = []
  arrived : arrivals tenantId s = arrived
  named : ∀ f ∈ rowsIn s .findings tenantId,
    ruleOf (FindingRecord.fingerprint f) = f.ruleId.toList
  suppressions : rowsIn s .suppressions tenantId = []
  exceptions : rowsIn s .exceptions tenantId = []
  found : SprayFound tenantId s ↔ found

/-- The tables that detection neither reads nor finds anything in. -/
def besideWatched : List Table :=
  [.deadLetters, .alerts, .evidence, .indicators, .entities, .relationships, .storylines,
    .incidents]

theorem ne_of_mem_besideWatched {t : Table} (h : t ∈ besideWatched) :
    t ≠ .events ∧ t ≠ .findings ∧ t ≠ .suppressions ∧ t ≠ .exceptions := by
  revert h
  cases t <;> decide

section

variable {tenantId : String} {arrived : List CanonicalEvent} {found found' : Prop}
  {s s' : Session schema}

theorem Watched.congr (h : Watched tenantId arrived found s) (hfound : found ↔ found') :
    Watched tenantId arrived found' s :=
  ⟨h.settled, h.arrived, h.named, h.suppressions, h.exceptions, h.found.trans hfound⟩

/-- Only four tables matter. -/
theorem Watched.same (h : Watched tenantId arrived found s)
    (hsettled : s'.pendingOf .events = []) (hevents : s'.stored .events = s.stored .events)
    (hall : ∀ t ∈ [Table.findings, .suppressions, .exceptions], s'.all t = s.all t) :
    Watched tenantId arrived found s' := by
  have hrows : ∀ t ∈ [Table.findings, .suppressions, .exceptions],
      rowsIn s' t tenantId = rowsIn s t tenantId := by
    intro t ht
    unfold rowsIn
    rw [hall t ht]
  refine ⟨hsettled, ?_, ?_, ?_, ?_, ?_⟩
  · unfold arrivals
    rw [hevents]
    exact h.arrived
  · rw [hrows _ (by decide)]
    exact h.named
  · rw [hrows _ (by decide)]
    exact h.suppressions
  · rw [hrows _ (by decide)]
    exact h.exceptions
  · unfold SprayFound
    rw [hrows _ (by decide)]
    exact h.found

theorem Watched.flush (h : Watched tenantId arrived found s) (hflush : s.flush = .ok s') :
    Watched tenantId arrived found s' := by
  obtain ⟨hpending, hstored⟩ := Session.flush_ok hflush
  apply h.same
  · unfold Session.pendingOf
    rw [hpending]
    rfl
  · rw [hstored, Session.all, h.settled, List.append_nil]
  · exact fun t _ => Session.flush_all hflush t

theorem watched_stable : Stable (Watched tenantId arrived found) (fun _ _ => True) besideWatched where
  add {t} r s ht hs := by
    obtain ⟨hevents, hothers⟩ := ne_of_mem_besideWatched ht
    apply hs.same
    · rw [Session.add_pendingOf_of_ne (S := schema) s hevents]
      exact hs.settled
    · rfl
    · intro u hu
      refine Session.add_all_of_ne (S := schema) s ?_ r
      rintro rfl
      revert hu
      simp [hothers]
  update {t} f s ht _ hs := by
    obtain ⟨hevents, hothers⟩ := ne_of_mem_besideWatched ht
    apply hs.same
    · exact hs.settled
    · exact Session.update_stored_of_ne (S := schema) s hevents f
    · intro u hu
      refine Session.update_all_of_ne (S := schema) s ?_ f
      rintro rfl
      revert hu
      simp [hothers]
  delete {t} p s ht _ hs := by
    obtain ⟨hevents, hothers⟩ := ne_of_mem_besideWatched ht
    apply hs.same
    · exact hs.settled
    · exact Session.delete_stored_of_ne (S := schema) s hevents p
    · intro u hu
      refine Session.delete_all_of_ne (S := schema) s ?_ p
      rintro rfl
      revert hu
      simp [hothers]
  flush := keeps_flush (fun _ _ hs hflush => hs.flush hflush) fun _ _ _ _ => trivial
  python _ _ _ := trivial
  multiple _ _ _ _ := trivial
  missing _ _ _ _ _ := trivial

/-- An event arrives. -/
theorem Watched.add_event (h : Watched tenantId arrived found s) {row : SecurityEvent}
    (hrow : row.tenantId = tenantId)
    (hflush : (s.add (S := schema) (t := .events) row).flush = .ok s') :
    Watched tenantId (arrived ++ [row.payload]) found s' := by
  obtain ⟨hpending, hstored⟩ := Session.flush_ok hflush
  have hrows : ∀ t : Table, t ≠ .events → rowsIn s' t tenantId = rowsIn s t tenantId := by
    intro t ht
    unfold rowsIn
    rw [Session.flush_all hflush, Session.add_all_of_ne (S := schema) s ht.symm]
  refine ⟨?_, ?_, ?_, ?_, ?_, ?_⟩
  · unfold Session.pendingOf
    rw [hpending]
    rfl
  · have hevents : s'.stored .events = s.stored .events ++ [row] := by
      rw [hstored, Session.add_all_self (S := schema), Session.all, h.settled, List.append_nil]
    unfold arrivals
    rw [hevents, List.filter_append, List.map_append, ← h.arrived]
    congr 1
    rw [List.filter_singleton, decide_eq_true hrow]
    rfl
  · rw [hrows _ (by decide)]
    exact h.named
  · rw [hrows _ (by decide)]
    exact h.suppressions
  · rw [hrows _ (by decide)]
    exact h.exceptions
  · unfold SprayFound
    rw [hrows _ (by decide)]
    exact h.found

/-- A finding is added. -/
theorem Watched.add_finding (h : Watched tenantId arrived found s) (row : FindingRecord)
    (hrow : row.tenantId = tenantId) (hnamed : ruleOf row.fingerprint = row.ruleId.toList) :
    Watched tenantId arrived (found ∨ row.ruleId = passwordSprayRule.info.ruleId)
      (s.add (S := schema) (t := .findings) row) := by
  have hown : Table.tenantId (t := .findings) row = tenantId := hrow
  have hfindings : rowsIn (s.add (S := schema) (t := .findings) row) .findings tenantId =
      rowsIn s .findings tenantId ++ [row] := by
    unfold rowsIn
    rw [Session.add_all_self (S := schema), List.filter_append, List.filter_singleton,
      decide_eq_true hown]
    rfl
  have hothers : ∀ t : Table, t ≠ .findings →
      rowsIn (s.add (S := schema) (t := .findings) row) t tenantId = rowsIn s t tenantId := by
    intro t ht
    unfold rowsIn
    rw [Session.add_all_of_ne (S := schema) s ht.symm]
  refine ⟨?_, h.arrived, ?_, ?_, ?_, ?_⟩
  · rw [Session.add_pendingOf_of_ne (S := schema) s (by decide)]
    exact h.settled
  · rw [hfindings]
    intro f hf
    rcases List.mem_append.mp hf with hold | hnew
    · exact h.named f hold
    · rw [List.mem_singleton.mp hnew]
      exact hnamed
  · rw [hothers _ (by decide)]
    exact h.suppressions
  · rw [hothers _ (by decide)]
    exact h.exceptions
  · rw [← h.found]
    unfold SprayFound
    rw [hfindings]
    simp [or_and_right, exists_or]

end

/-! ### What an evaluation finds -/

section

variable (rt : Runtime) (tenantId actorId : String) {arrived : List CanonicalEvent} {found : Prop}

/-- Nothing is suppressed where there is no suppression. -/
theorem isSuppressed_unsuppressed {I : Session schema → Prop} (hI : ∀ s, I s →
      rowsIn s .suppressions tenantId = [] ∧ rowsIn s .exceptions tenantId = []) (finding : Finding) :
    Triple (fun w => I w.session) (isSuppressed rt tenantId finding)
      (fun suppressed w => suppressed = false ∧ I w.session) (fun _ _ => True) := by
  have hnone {t : Table} {s : Session schema} (h : rowsIn s t tenantId = []) (p : t.Row → Bool) :
      ((s.stored t).filter fun r => Table.tenantId r = tenantId && p r) = [] := by
    refine List.filter_eq_nil_iff.mpr fun r hr hp => ?_
    rw [Bool.and_eq_true, decide_eq_true_eq] at hp
    have hmem : r ∈ rowsIn s t tenantId := mem_rowsIn.mpr ⟨List.mem_append_left _ hr, hp.1⟩
    rw [h] at hmem
    cases hmem
  unfold isSuppressed
  refine triple_bind (keeps_draw fun _ _ _ => trivial) fun now => ?_
  refine triple_bind (Q := fun rows w => rows = [] ∧ I w.session)
    (triple_select fun w hw => ⟨hnone (hI w.session hw).1 _, hw⟩) fun rows => ?_
  refine triple_given fun hrows => ?_
  subst hrows
  show Triple _ ((pure false : Service Bool) >>= _) _ _
  rw [pure_bind, if_neg (by decide)]
  refine triple_bind (Q := fun rows w => rows = [] ∧ I w.session)
    (triple_select fun w hw => ⟨hnone (hI w.session hw).2 _, hw⟩) fun rows => ?_
  refine triple_given fun hrows => ?_
  subst hrows
  exact triple_pure fun _ hw => ⟨rfl, hw⟩

/-- A finding of the spray rule is there afterwards. -/
theorem storeFinding_watched (acc : Created) {finding : Finding}
    (hnamed : ruleOf finding.fingerprint = finding.ruleId.toList) :
    Triple (fun w => Watched tenantId arrived found w.session)
      (storeFinding rt tenantId actorId acc finding)
      (fun _ w => Watched tenantId arrived
        (found ∨ finding.ruleId = passwordSprayRule.info.ruleId) w.session) (fun _ _ => True) := by
  unfold storeFinding
  refine triple_bind (isSuppressed_unsuppressed rt tenantId
    (fun s hs => ⟨hs.suppressions, hs.exceptions⟩) finding) fun suppressed => ?_
  refine triple_given fun hsuppressed => ?_
  rw [hsuppressed, if_neg (by decide)]
  refine triple_bind (Q := fun existing w => (existing ≠ none →
    (finding.ruleId = passwordSprayRule.info.ruleId → found)) ∧
      Watched tenantId arrived found w.session) ?_ fun existing => ?_
  · refine triple_selectOne ?_ ?_ fun _ _ _ => trivial
    · intro w hw _
      exact ⟨fun hnone => absurd rfl hnone, hw⟩
    · intro w row hw hmem hown hfingerprint
      refine ⟨fun _ hspray => ?_, hw⟩
      have hrow : row ∈ rowsIn w.session .findings tenantId :=
        mem_rowsIn.mpr ⟨List.mem_append_left _ hmem, hown⟩
      have hfingerprint : FindingRecord.fingerprint row = finding.fingerprint :=
        of_decide_eq_true hfingerprint
      refine hw.found.mp ⟨row, hrow, String.toList_injective ?_⟩
      rw [← hw.named row hrow, hfingerprint, hnamed, hspray]
  · refine triple_given fun hexisting => ?_
    cases existing with
    | some existing =>
        refine triple_pure fun w hw => hw.congr ⟨.inl, ?_⟩
        rintro (hfound | hspray)
        · exact hfound
        · exact hexisting (by simp) hspray
    | none =>
        refine triple_bind (Q := fun _ w => Watched tenantId arrived found w.session) ?_
          fun evidenceIds => ?_
        · refine keeps_loop (fun ids eventId _ => ?_) _
          refine keeps_bind (registerEventEvidence_keeps rt tenantId watched_stable ?_ eventId
            actorId) fun _ => keeps_pure _
          exact fun r s hs => watched_stable.add (t := .evidence) r s (by decide) hs
        · refine triple_bind (Q := fun _ w => Watched tenantId arrived
            (found ∨ finding.ruleId = passwordSprayRule.info.ruleId) w.session)
            (triple_add ?_) fun _ => ?_
          · intro w hw
            exact hw.add_finding (findingRecord tenantId finding evidenceIds) rfl hnamed
          refine keeps_bind (keeps_add fun s hs => ?_) fun _ => keeps_pure _
          exact watched_stable.add (t := .alerts) _ s (by decide) hs

/-- The findings of the registry carry the names of their rules. -/
theorem Produced.named {context : DetectionContext} {event : CanonicalEvent} {finding : Finding}
    (h : Produced rt context event finding) :
    ruleOf finding.fingerprint = finding.ruleId.toList := by
  obtain ⟨t, findings, t', hrun, hmem⟩ := h
  obtain ⟨rule, hrule, -, hfinds⟩ :=
    (evaluateAll_finds rt defaultRegistry event context).ok trivial hrun finding hmem
  obtain ⟨selection, -, hfingerprint⟩ := hfinds.selects
  rw [hfingerprint, hfinds.ruleId]
  exact ruleOf_fingerprint (defaultRegistry_wellNamed rule hrule) _ _

/-- All that the registry finds is there afterwards. -/
theorem evaluateAndStoreFindings_watched (context : DetectionContext) (event : CanonicalEvent) :
    Triple (fun w => Watched tenantId arrived found w.session)
      (evaluateAndStoreFindings rt tenantId actorId context event)
      (fun _ w => ∃ findings t t', evaluateAll rt defaultRegistry event context t =
        (.ok findings, t') ∧ Watched tenantId arrived (found ∨ ∃ finding ∈ findings,
          finding.ruleId = passwordSprayRule.info.ruleId) w.session) (fun _ _ => True) := by
  unfold evaluateAndStoreFindings
  refine triple_bind (Q := fun findings w => (∃ t t', evaluateAll rt defaultRegistry event context
    t = (.ok findings, t')) ∧ Watched tenantId arrived found w.session) ?_ fun findings => ?_
  · refine triple_draw ?_ fun _ _ _ _ _ => trivial
    intro w findings t hw hrun
    exact ⟨⟨w.ticks, t, hrun⟩, hw⟩
  · refine triple_given fun hrun => ?_
    obtain ⟨t, t', hrun⟩ := hrun
    have hloop := triple_loop (E := fun _ _ => True) (f := storeFinding rt tenantId actorId)
      (fun _ rest w => ∃ done, findings = done ++ rest ∧ Watched tenantId arrived
        (found ∨ ∃ finding ∈ done, finding.ruleId = passwordSprayRule.info.ruleId) w.session)
      ?_ { openFingerprints := context.openFingerprints } findings
    · refine triple_bind (hloop.pre fun w hw => ⟨[], rfl, hw.congr (by simp)⟩) fun acc => ?_
      refine triple_bind (Q := fun _ w => Watched tenantId arrived (found ∨ ∃ finding ∈ findings,
        finding.ruleId = passwordSprayRule.info.ruleId) w.session) ?_ fun _ => ?_
      · refine triple_flush ?_ fun _ _ _ _ => trivial
        rintro w s ⟨done, hdone, hw⟩ hflush
        rw [List.append_nil] at hdone
        subst hdone
        exact hw.flush hflush
      · exact triple_pure fun _ hw => ⟨findings, t, t', hrun, hw⟩
    · intro acc finding rest
      refine triple_from ?_
      rintro w₀ ⟨done, hdone, hw₀⟩
      have hmem : finding ∈ findings := by
        rw [hdone]
        exact List.mem_append_right _ List.mem_cons_self
      have hnamed := Produced.named rt ⟨t, findings, t', hrun, hmem⟩
      have hstep : Triple (fun w => w = w₀) (storeFinding rt tenantId actorId acc finding)
          (fun _ w => Watched tenantId arrived ((found ∨ ∃ finding ∈ done,
            finding.ruleId = passwordSprayRule.info.ruleId) ∨
              finding.ruleId = passwordSprayRule.info.ruleId) w.session) (fun _ _ => True) := by
        apply (storeFinding_watched rt tenantId actorId acc hnamed).pre
        rintro _ rfl
        exact hw₀
      refine hstep.post fun _ w hw => ⟨done ++ [finding], by simp [hdone], hw.congr ?_⟩
      simp [or_and_right, exists_or, or_assoc]

/-- What the registry finds in the name of the spray rule, the rule selects. -/
theorem spray_selects {context : DetectionContext} {event : CanonicalEvent} {t t' : Ticks}
    {findings : List Finding}
    (hrun : evaluateAll rt defaultRegistry event context t = (.ok findings, t'))
    {finding : Finding} (hmem : finding ∈ findings)
    (hspray : finding.ruleId = passwordSprayRule.info.ruleId) :
    passwordSprayRule.runsIn context = true ∧
      ∃ selection, passwordSprayRule.selects rt context event = .ok (some selection) := by
  obtain ⟨rule, hrule, hruns, hfinds⟩ :=
    (evaluateAll_finds rt defaultRegistry event context).ok trivial hrun finding hmem
  have hmine : passwordSprayRule ∈ defaultRegistry := List.mem_cons_self
  obtain rfl : rule = passwordSprayRule :=
    List.inj_on_of_nodup_map defaultRegistry_ids_nodup hrule hmine (hfinds.ruleId.symm.trans hspray)
  obtain ⟨selection, hselects, -⟩ := hfinds.selects
  exact ⟨hruns, selection, hselects⟩

/-- The evaluation of an event that has arrived finds a spray if the rule selects something among
all events that have. -/
theorem evaluateAndStore_watched (event : CanonicalEvent) :
    Triple (fun w => Watched tenantId arrived found w.session)
      (evaluateAndStore rt tenantId actorId event)
      (fun _ w => ∃ context selected, (DetectionContext.window context).Perm arrived ∧
        passwordSprayRule.selects rt context event = .ok selected ∧
        Watched tenantId arrived (found ∨ selected.isSome = true) w.session)
      (fun _ _ => True) := by
  refine triple_via (fun w => Watched tenantId arrived found w.session) fun w₀ hw₀ => ?_
  refine ⟨_, _, evaluateAndStore_run rt tenantId actorId event w₀, hw₀, ?_⟩
  refine triple_bind (evaluateAndStoreFindings_watched rt tenantId actorId _ event) fun acc => ?_
  refine triple_pure ?_
  rintro w ⟨findings, t, t', hrun, hw⟩
  have hmine : passwordSprayRule ∈ defaultRegistry := List.mem_cons_self
  obtain ⟨selected, hselects, hfound⟩ := (evaluateAll_asks rt hmine rfl event).ok trivial hrun
  refine ⟨_, selected, ?_, hselects, hw.congr ?_⟩
  · have hwindow : (w₀.window tenantId).Perm (arrivals tenantId w₀.session) :=
      (List.perm_insertionSort _ _).map _
    rw [hw₀.arrived] at hwindow
    exact hwindow
  · constructor
    · rintro (hbefore | ⟨finding, hmem, hspray⟩)
      · exact .inl hbefore
      · obtain ⟨-, selection, hsome⟩ := spray_selects rt hrun hmem hspray
        obtain rfl := Except.ok.inj (hselects.symm.trans hsome)
        exact .inr rfl
    · rintro (hbefore | hsome)
      · exact .inl hbefore
      · obtain ⟨selection, rfl⟩ := Option.isSome_iff_exists.mp hsome
        -- A fingerprint of the rule that is open is that of a spray found before.
        by_cases hopen : passwordSprayRule.fingerprint event.tenantId selection.tail ∈
            (realtimeContext w₀ tenantId).openFingerprints
        · left
          obtain ⟨row, hrow, hfingerprint⟩ := List.mem_map.mp hopen
          obtain ⟨hstored, hown⟩ := World.mem_rowsOf.mp hrow
          have hrow : row ∈ rowsIn w₀.session .findings tenantId :=
            mem_rowsIn.mpr ⟨List.mem_append_left _ hstored, hown⟩
          refine hw₀.found.mp ⟨row, hrow, String.toList_injective ?_⟩
          rw [← hw₀.named row hrow, hfingerprint]
          exact ruleOf_fingerprint (defaultRegistry_wellNamed _ hmine) _ _
        · exact .inr (hfound selection rfl hopen)

/-- The scheduled evaluation finds no spray. -/
theorem sweepEvent_watched (window : List CanonicalEvent) (acc : Created) (event : CanonicalEvent) :
    Keeps (Watched tenantId arrived found) (fun _ _ => True)
      (sweepEvent rt tenantId actorId window acc event) := by
  refine triple_bind (evaluateAndStoreFindings_watched rt tenantId actorId _ event) fun one => ?_
  refine triple_pure ?_
  rintro w ⟨findings, t, t', hrun, hw⟩
  refine hw.congr ⟨?_, .inl⟩
  rintro (hbefore | ⟨finding, hmem, hspray⟩)
  · exact hbefore
  · obtain ⟨hruns, -⟩ := spray_selects rt hrun hmem hspray
    cases hruns

/-! ### Calls -/

/-- Before the detections of a turn of ingestion, either nothing arrived, or the event did. -/
def Arriving (tenantId : String) (arrived : List CanonicalEvent) (found : Prop)
    (next : IngestResult ⊕ CanonicalEvent) (w : World) : Prop :=
  (∀ result, next = .inl result → Watched tenantId arrived found w.session) ∧
    ∀ event, next = .inr event → Watched tenantId (arrived ++ [event]) found w.session

theorem untilEvaluate_watched (acc : IngestResult) (payload : JsonObject) :
    Triple (fun w => Watched tenantId arrived found w.session)
      (untilEvaluate rt tenantId acc payload) (Arriving tenantId arrived found)
      (fun _ _ => True) := by
  have hstable : Stable (Watched tenantId arrived found) (fun _ _ => True) besideWatched :=
    watched_stable
  have hstop (result : IngestResult) : Triple (fun w => Watched tenantId arrived found w.session)
      (pure (.inl result) : Service (IngestResult ⊕ CanonicalEvent))
      (Arriving tenantId arrived found) (fun _ _ => True) :=
    triple_pure fun w hw => ⟨fun _ _ => hw, fun _ hevent => by cases hevent⟩
  have hletter (reason : String) := deadLetter_keeps rt tenantId hstable (by decide) payload reason
  have htried : Triple (fun w => Watched tenantId arrived found w.session)
      (attempt (normalizeAndEnrich rt tenantId payload))
      (fun _ w => Watched tenantId arrived found w.session) (fun _ _ => True) :=
    triple_attempt ((normalizeAndEnrich_keeps rt tenantId hstable.onRaise (by decide) payload).conseq
      (fun _ hw => hw) (fun _ _ hw => hw.1) (fun _ _ hw => hw.1))
  unfold untilEvaluate
  refine triple_bind htried fun tried => ?_
  rcases tried with failure | event
  · cases failure with
    | python e =>
        dsimp only
        split
        · exact triple_bind (hletter _) fun _ => hstop _
        · exact triple_raise fun _ _ => trivial
    | integrityError c => exact triple_raise fun _ _ => trivial
    | multipleResultsFound t => exact triple_raise fun _ _ => trivial
    | blueTeamError code message status => exact triple_raise fun _ _ => trivial
  · have hkey : Keeps (Watched tenantId arrived found) (fun _ _ => True)
        (sameKey tenantId event) := by
      unfold sameKey
      split
      · exact keeps_selectOne fun _ _ => trivial
      · exact keeps_pure _
    refine triple_bind hkey fun existing => ?_
    cases existing with
    | some _ => exact hstop _
    | none =>
        refine triple_bind keeps_get fun existing => ?_
        cases existing with
        | some existing =>
            dsimp only
            split
            · exact triple_bind (hletter _) fun _ => hstop _
            · exact hstop _
        | none =>
            refine triple_bind (keeps_draw fun _ _ _ => trivial) fun event => ?_
            refine triple_addFlush ?_ fun _ _ _ _ => trivial
            intro w s hw hflush
            refine ⟨fun _ hresult => (by cases hresult), ?_⟩
            rintro _ ⟨⟩
            exact hw.add_event rfl hflush

/-- Whatever arrives in a series of failed logins, a spray is found if one of them is noticed. -/
def Tracked (tenantId : String) (s : Session schema) : Prop :=
  ∃ arrived found, Watched tenantId arrived found s ∧ ∀ ip, SprayEvents tenantId ip arrived →
    (found ↔ ip ≠ "" ∧ NoticedInOrder arrived)

theorem Tracked.same {s s' : Session schema} (h : Tracked tenantId s)
    (hsame : ∀ arrived found, Watched tenantId arrived found s →
      Watched tenantId arrived found s') : Tracked tenantId s' := by
  obtain ⟨arrived, found, hwatched, hfound⟩ := h
  exact ⟨arrived, found, hsame arrived found hwatched, hfound⟩

/-- A program that keeps what has arrived and what was found. -/
theorem keeps_tracked {α : Type} {m : Service α}
    (h : ∀ arrived found, Keeps (Watched tenantId arrived found) (fun _ _ => True) m) :
    Keeps (Tracked tenantId) (fun _ _ => True) m := by
  refine triple_from ?_
  rintro w₀ ⟨arrived, found, hw₀, hfound⟩
  refine ((h arrived found).pre ?_).post fun _ w hw => ⟨arrived, found, hw, hfound⟩
  rintro _ rfl
  exact hw₀

theorem ingestPayload_tracked (acc : IngestResult) (payload : JsonObject) :
    Keeps (Tracked tenantId) (fun _ _ => True) (ingestPayload rt tenantId actorId acc payload) := by
  refine triple_from ?_
  rintro w₀ ⟨arrived, found, hw₀, hfound⟩
  rw [ingestPayload_eq]
  refine triple_bind (Q := Arriving tenantId arrived found) ?_ fun next => ?_
  · apply (untilEvaluate_watched rt tenantId acc payload).pre
    rintro _ rfl
    exact hw₀
  · rcases next with result | event
    · exact triple_pure fun w hw => ⟨arrived, found, hw.1 result rfl, hfound⟩
    · refine triple_bind ((evaluateAndStore_watched rt tenantId actorId event).pre
        fun w hw => hw.2 event rfl) fun created => ?_
      refine triple_pure ?_
      rintro w ⟨context, selected, hwindow, hselects, hw⟩
      refine ⟨arrived ++ [event], _, hw, ?_⟩
      intro ip hseries
      have hevent : event ∈ arrived ++ [event] := List.mem_append_right _ (List.mem_singleton_self _)
      rw [hfound ip (hseries.mono (List.subset_append_left _ _)),
        hseries.selects hevent hwindow hselects, noticedInOrder_concat, and_or_left]

theorem call_tracked (call : Call) :
    Keeps (Tracked tenantId) (fun _ _ => True) (call.body rt tenantId) := by
  cases call with
  | ingest actorId payloads =>
      refine keeps_bind ?_ fun _ => keeps_pure _
      refine keeps_bind (keeps_loop (fun acc payload _ =>
        ingestPayload_tracked rt tenantId actorId acc payload) _) fun result => ?_
      refine keeps_bind ?_ fun _ => keeps_pure _
      exact keeps_tracked tenantId fun arrived found =>
        projectBatch_keeps rt tenantId watched_stable (by decide) trivial result
  | scheduled actorId =>
      refine keeps_bind ?_ fun _ => keeps_pure _
      refine keeps_tracked tenantId fun arrived found => ?_
      refine triple_via (fun w => Watched tenantId arrived found w.session) fun w hw => ?_
      refine ⟨_, _, runScheduled_eq rt tenantId actorId w, hw, ?_⟩
      refine keeps_bind (keeps_loop (fun acc event _ => ?_) _) fun _ => keeps_pure _
      exact sweepEvent_watched rt tenantId actorId _ acc event
  | persist =>
      exact keeps_tracked tenantId fun arrived found =>
        persistStorylinesAndIncidents_keeps rt tenantId watched_stable (by decide) (by decide)
          fun _ _ => trivial

end

/-! ### Runs -/

/-- A committed state in which a tenant has no events, findings, suppressions or exceptions. -/
structure Vacant (tenantId : String) (w : World) : Prop where
  settled : w.session.pending = []
  events : w.rowsOf .events tenantId = []
  findings : w.rowsOf .findings tenantId = []
  suppressions : w.rowsOf .suppressions tenantId = []
  exceptions : w.rowsOf .exceptions tenantId = []

/-- The tenant's events in the order of their arrival. -/
def World.arrivals (w : World) (tenantId : String) : List CanonicalEvent :=
  (w.rowsOf .events tenantId).map SecurityEvent.payload

section

variable {tenantId : String} {w : World}

theorem Vacant.tracked (h : Vacant tenantId w) : Tracked tenantId w.session := by
  have hrows := fun t => rowsIn_of_committed h.settled t tenantId
  refine ⟨[], False, ⟨?_, ?_, ?_, ?_, ?_, ?_⟩, ?_⟩
  · unfold Session.pendingOf
    rw [h.settled]
    rfl
  · show (w.rowsOf .events tenantId).map SecurityEvent.payload = []
    rw [h.events]
    rfl
  · rw [hrows, h.findings]
    intro f hf
    cases hf
  · rw [hrows, h.suppressions]
  · rw [hrows, h.exceptions]
  · unfold SprayFound
    rw [hrows, h.findings]
    simp
  · intro ip _
    simp [not_noticedInOrder_nil]

theorem runCalls_tracked (rt : Runtime) (calls : List Call) (h : Tracked tenantId w.session)
    (hpending : w.session.pending = []) :
    Tracked tenantId (runCalls rt tenantId w calls).session ∧
      (runCalls rt tenantId w calls).session.pending = [] := by
  induction calls generalizing w with
  | nil => exact ⟨h, hpending⟩
  | cons call calls ih =>
      refine ih ?_ (request_pending hpending)
      have hflush : Keeps (Tracked tenantId) (fun _ _ => True) flush :=
        keeps_tracked tenantId fun arrived found => watched_stable.flush
      refine (request_run (F := fun _ => True) ((call_tracked rt tenantId call).pre ?_) hflush h).1
      rintro _ rfl
      exact h

end

/-- The failed login of one of the users, a minute after that of the one before. -/
def failedLogin (n : Nat) : JsonObject :=
  [("schema_version", .str "1.0.0"), ("id", .str ("evt_" ++ toString n)), ("source", .str "idp"),
   ("source_type", .str "identity"), ("event_type", .str "login"),
   ("category", .str "authentication"), ("outcome", .str "failure"),
   ("timestamp", .int (1700000000 + 60 * n)), ("ingested_at", .int 1700000000),
   ("raw_hash", .str "00"), ("src_ip", .str "203.0.113.7"),
   ("user", .obj [("name", .str ("user" ++ toString n))])]

/-- The logins of some users, one after another. -/
def sprayedWorld (order : List Nat) : World :=
  runCalls sampleRuntime "ten_a" emptyWorld [.ingest "usr_1" (order.map failedLogin)]

theorem vacant_emptyWorld : Vacant "ten_a" emptyWorld :=
  ⟨rfl, rfl, rfl, rfl, rfl⟩

end BlueTeam.Services
