/- GID: BlueTeam/Services/Completion
   generality: I
   source: services/api/app/services/detection.py, evidence.py, suppression.py
   digest: A scheduled sweep is stored to its end as long as no id is given out twice. -/

import BlueTeam.Detection.Sweep
import BlueTeam.Services.Drawing
import BlueTeam.Services.Notices

set_option autoImplicit false
set_option relaxedAutoImplicit false

namespace BlueTeam.Services

open BlueTeam.Python BlueTeam.Schema BlueTeam.Lib BlueTeam.Lib.Exec BlueTeam.Detection BlueTeam.Rules

/-- No finding, alert or evidence has an id that is still to be given out. -/
structure Unspent (rt : Runtime) (w : World) : Prop where
  findings : ∀ f ∈ w.session.stored .findings,
    ¬ DrawnId rt w.ticks.uuids "fnd" (FindingRecord.id f)
  alerts : ∀ a ∈ w.session.stored .alerts, ¬ DrawnId rt w.ticks.uuids "alt" (Alert.id a)
  evidence : ∀ e ∈ w.session.stored .evidence, ¬ DrawnId rt w.ticks.uuids "evi" (Evidence.id e)

/-- A state between two evaluations in which findings of a tenant without suppressions can be
stored. -/
structure Storable (rt : Runtime) (tenantId : String) (events : List SecurityEvent) (w : World) :
    Prop where
  settled : w.session.pending = []
  unspent : Unspent rt w
  events : w.session.stored .events = events
  fingerprints : (w.rowsOf .findings tenantId).Pairwise fun f f' =>
    FindingRecord.fingerprint f ≠ FindingRecord.fingerprint f'
  sources : (w.rowsOf .evidence tenantId).Pairwise fun e e' =>
    Evidence.source e ≠ Evidence.source e'
  suppressions : w.rowsOf .suppressions tenantId = []
  exceptions : w.rowsOf .exceptions tenantId = []

/-! ### Ids -/

section

variable {rt : Runtime} {m n : Nat} {tag id : String}

theorem DrawnId.mono (h : DrawnId rt n tag id) (hle : m ≤ n) : DrawnId rt m tag id := by
  obtain ⟨k, hk, rfl⟩ := h
  exact ⟨k, hle.trans hk, rfl⟩

/-- An id that was given out is not given out again. -/
theorem not_drawnId_of_lt (huuid : Function.Injective rt.uuid4) {k : Nat} (hk : k < n) :
    ¬ DrawnId rt n tag (tag ++ "_" ++ rt.uuid4 k) := by
  rintro ⟨j, hj, hsame⟩
  have hchars := congrArg String.toList hsame
  rw [String.toList_append, String.toList_append (s := tag ++ "_")] at hchars
  have htext := String.toList_injective (List.append_cancel_left hchars)
  have hindex := huuid htext
  omega

theorem alertId_generated (uuid : String) :
    alertId ("fnd" ++ "_" ++ uuid) = "alt" ++ "_" ++ uuid := by
  have hstarts : ("fnd" ++ "_" ++ uuid).startsWith "fnd_" = true := by
    rw [String.startsWith_string_iff, String.toList_append]
    exact List.prefix_append _ _
  rw [alertId, if_pos hstarts]
  simp [String.toList_append, String.ofList_toList]

end

/-! ### Reading -/

section

variable {tenantId : String} {w : World}

/-- A lookup that no two rows of the tenant answer finds at most one. -/
theorem not_two_of_pairwise {t : Table} {p : t.Row → Bool}
    (h : (w.rowsOf t tenantId).Pairwise fun r r' => ¬ (p r = true ∧ p r' = true)) :
    ¬ 2 ≤ ((w.session.stored t).filter fun r => Table.tenantId r = tenantId && p r).length := by
  have hrows : ((w.session.stored t).filter fun r => Table.tenantId r = tenantId && p r) =
      (w.rowsOf t tenantId).filter p := by
    rw [World.rowsOf, List.filter_filter]
    exact List.filter_congr fun r _ => Bool.and_comm _ _
  have hpairs := h.filter p
  have hall : ∀ r ∈ (w.rowsOf t tenantId).filter p, p r = true := fun r hr => (List.mem_filter.mp hr).2
  rw [hrows]
  intro hlength
  cases hfound : (w.rowsOf t tenantId).filter p with
  | nil =>
      rw [hfound] at hlength
      cases hlength
  | cons first rest =>
      rw [hfound] at hlength hpairs hall
      cases rest with
      | nil =>
          rw [List.length_singleton] at hlength
          omega
      | cons second rest =>
          have hfirst := (List.pairwise_cons.mp hpairs).1 second List.mem_cons_self
          exact hfirst ⟨hall first List.mem_cons_self,
            hall second (List.mem_cons_of_mem _ List.mem_cons_self)⟩

theorem select_of_rowsOf_nil {t : Table} (h : w.rowsOf t tenantId = []) (p : t.Row → Bool) :
    select t tenantId p w = (.ok [], w) := by
  have hnone : ((w.session.stored t).filter fun r => Table.tenantId r = tenantId && p r) = [] := by
    refine List.filter_eq_nil_iff.mpr fun r hr hp => ?_
    rw [Bool.and_eq_true, decide_eq_true_eq] at hp
    have hmem : r ∈ w.rowsOf t tenantId := World.mem_rowsOf.mpr ⟨hr, hp.1⟩
    rw [h] at hmem
    cases hmem
  exact congrArg (fun rows => (Except.ok rows, w)) hnone

theorem isSuppressed_run (rt : Runtime) (hsuppressions : w.rowsOf .suppressions tenantId = [])
    (hexceptions : w.rowsOf .exceptions tenantId = []) (finding : Finding) :
    isSuppressed rt tenantId finding w =
      (.ok false, { w with ticks := { w.ticks with readings := w.ticks.readings + 1 } }) := by
  let w' : World := { w with ticks := { w.ticks with readings := w.ticks.readings + 1 } }
  have hnow : draw (utcnow rt) w = (.ok (rt.now w.ticks.readings), w') := rfl
  have hfirst := @select_of_rowsOf_nil tenantId w' .suppressions hsuppressions
    fun r => Suppression.ruleId r = finding.ruleId
  have hsecond := @select_of_rowsOf_nil tenantId w' .exceptions hexceptions
    fun r => DetectionException.ruleId r = finding.ruleId
  unfold isSuppressed
  rw [bind_run, hnow]
  simp only [andThen]
  rw [bind_run, hfirst]
  simp only [andThen]
  show (pure false >>= _ : Service Bool) w' = _
  rw [pure_bind, if_neg (by decide), bind_run, hsecond]
  rfl

end

/-! ### Evidence -/

section

variable {rt : Runtime} {tenantId : String} {events : List SecurityEvent}
  {findings : List FindingRecord} {alerts : List Alert} {n : Nat} {w : World}

theorem triple_utcnow {P : World → Prop} {E : Failure → World → Prop}
    (h : ∀ w n, P w → P { w with ticks := { w.ticks with readings := n } }) :
    Triple P (draw (utcnow rt)) (fun _ w => P w) E := by
  refine triple_draw ?_ ?_
  · intro w at_ t hw hrun
    obtain ⟨-, rfl⟩ := Prod.mk.inj hrun
    exact h w _ hw
  · intro w e t hw hrun
    cases hrun

/-- A row that is added and flushed stands at the end of its table. -/
theorem stored_of_addFlush {t : Table} {r : t.Row} {s : Session schema}
    (hsettled : w.session.pending = [])
    (hflush : (w.session.add (S := schema) r).flush = .ok s) :
    s.pending = [] ∧ s.stored t = w.session.stored t ++ [r] ∧
      ∀ u, t ≠ u → s.stored u = w.session.stored u := by
  obtain ⟨hpending, hstored⟩ := Session.flush_ok hflush
  have hnone : ∀ u, w.session.pendingOf u = [] := by
    intro u
    unfold Session.pendingOf
    rw [hsettled]
    rfl
  refine ⟨hpending, ?_, fun u hu => ?_⟩
  · rw [hstored, Session.add_all_self (S := schema), Session.all, hnone, List.append_nil]
  · rw [hstored, Session.add_all_of_ne (S := schema) _ hu, Session.all, hnone, List.append_nil]

theorem Storable.readings (h : Storable rt tenantId events w) (m : Nat) :
    Storable rt tenantId events { w with ticks := { w.ticks with readings := m } } :=
  ⟨h.settled, ⟨h.unspent.findings, h.unspent.alerts, h.unspent.evidence⟩, h.events,
    h.fingerprints, h.sources, h.suppressions, h.exceptions⟩

/-- The state while the evidence of a finding is registered: only evidence is written. -/
structure Registrable (rt : Runtime) (tenantId : String) (events : List SecurityEvent)
    (findings : List FindingRecord) (alerts : List Alert) (n : Nat) (w : World) : Prop where
  storable : Storable rt tenantId events w
  findings : w.session.stored .findings = findings
  alerts : w.session.stored .alerts = alerts
  drawn : n ≤ w.ticks.uuids

/-- New evidence with the id that was just drawn. -/
structure Sealing (rt : Runtime) (tenantId : String) (events : List SecurityEvent)
    (findings : List FindingRecord) (alerts : List Alert) (n : Nat) (source id : String)
    (w : World) : Prop where
  registrable : Registrable rt tenantId events findings alerts n w
  unsourced : ∀ e ∈ w.rowsOf .evidence tenantId, Evidence.source e ≠ source
  unused : ∀ e ∈ w.session.stored .evidence, Evidence.id e ≠ id
  spent : ¬ DrawnId rt w.ticks.uuids "evi" id

theorem Sealing.readings {source id : String}
    (h : Sealing rt tenantId events findings alerts n source id w) (m : Nat) :
    Sealing rt tenantId events findings alerts n source id
      { w with ticks := { w.ticks with readings := m } } :=
  ⟨⟨h.registrable.storable.readings m, h.registrable.findings, h.registrable.alerts,
    h.registrable.drawn⟩, h.unsourced, h.unused, h.spent⟩

/-- Drawing the id. -/
theorem Registrable.newId (huuid : Function.Injective rt.uuid4) {source : String}
    (h : Registrable rt tenantId events findings alerts n w)
    (hsource : ∀ e ∈ w.rowsOf .evidence tenantId, Evidence.source e ≠ source) :
    Sealing rt tenantId events findings alerts n source
      ("evi" ++ "_" ++ rt.uuid4 w.ticks.uuids)
      { w with ticks := { w.ticks with uuids := w.ticks.uuids + 1 } } := by
  have hlater : ∀ {tag id : String}, ¬ DrawnId rt w.ticks.uuids tag id →
      ¬ DrawnId rt (w.ticks.uuids + 1) tag id :=
    fun hnot hdrawn => hnot (hdrawn.mono (Nat.le_succ _))
  have hunspent := h.storable.unspent
  refine ⟨⟨⟨h.storable.settled, ⟨?_, ?_, ?_⟩, h.storable.events, h.storable.fingerprints,
    h.storable.sources, h.storable.suppressions, h.storable.exceptions⟩, h.findings, h.alerts,
    Nat.le_succ_of_le h.drawn⟩, hsource, ?_, not_drawnId_of_lt huuid (Nat.lt_succ_self _)⟩
  · exact fun f hf => hlater (hunspent.findings f hf)
  · exact fun a ha => hlater (hunspent.alerts a ha)
  · exact fun e he => hlater (hunspent.evidence e he)
  · rintro e he hid
    exact hunspent.evidence e he ⟨_, Nat.le_refl _, hid⟩

/-- The evidence is stored. -/
theorem Sealing.stored {source id : String}
    (h : Sealing rt tenantId events findings alerts n source id w) {r : Evidence}
    (hid : r.id = id) (hsource : r.source = source) {s : Session schema}
    (hflush : (w.session.add (S := schema) (t := .evidence) r).flush = .ok s) :
    Registrable rt tenantId events findings alerts n { w with session := s } := by
  have hw := h.registrable
  have hunspent := hw.storable.unspent
  obtain ⟨hpending, hevidence, hothers⟩ := stored_of_addFlush hw.storable.settled hflush
  have hrows : ∀ t, t ≠ Table.evidence →
      World.rowsOf { w with session := s } t tenantId = w.rowsOf t tenantId := by
    intro t ht
    unfold World.rowsOf
    rw [hothers t (Ne.symm ht)]
  refine ⟨⟨hpending, ⟨?_, ?_, ?_⟩, ?_, ?_, ?_, ?_, ?_⟩, ?_, ?_, hw.drawn⟩
  · show ∀ f ∈ s.stored .findings, _
    rw [hothers .findings (by decide)]
    exact hunspent.findings
  · show ∀ a ∈ s.stored .alerts, _
    rw [hothers .alerts (by decide)]
    exact hunspent.alerts
  · show ∀ e ∈ s.stored .evidence, _
    rw [hevidence]
    intro e he
    rcases List.mem_append.mp he with he | he
    · exact hunspent.evidence e he
    · rw [List.mem_singleton.mp he, hid]
      exact h.spent
  · exact (hothers .events (by decide)).trans hw.storable.events
  · rw [hrows .findings (by decide)]
    exact hw.storable.fingerprints
  · have hall : World.rowsOf { w with session := s } .evidence tenantId =
        w.rowsOf .evidence tenantId ++ [r].filter fun e => Table.tenantId (t := .evidence) e = tenantId := by
      unfold World.rowsOf
      rw [hevidence, List.filter_append]
    rw [hall]
    refine List.pairwise_append.mpr
      ⟨hw.storable.sources, (List.pairwise_singleton _ r).filter _, ?_⟩
    intro e he e' he'
    rw [List.mem_singleton.mp (List.mem_of_mem_filter he'), hsource]
    exact h.unsourced e he
  · rw [hrows .suppressions (by decide)]
    exact hw.storable.suppressions
  · rw [hrows .exceptions (by decide)]
    exact hw.storable.exceptions
  · exact (hothers .findings (by decide)).trans hw.findings
  · exact (hothers .alerts (by decide)).trans hw.alerts

/-- New evidence is in no conflict with what is stored. -/
theorem Sealing.no_conflict {source id : String}
    (h : Sealing rt tenantId events findings alerts n source id w) {r : Evidence}
    {c : Conflict schema}
    (hflush : (w.session.add (S := schema) (t := .evidence) r).flush = .error c)
    (hid : r.id = id) : False := by
  have hpending : (w.session.add (S := schema) (t := .evidence) r).pending =
      [⟨.evidence, r⟩] := by
    unfold Session.add
    rw [h.registrable.storable.settled]
    rfl
  have hapart : ∀ e ∈ (w.session.add (S := schema) (t := .evidence) r).pending,
      ∀ e' ∈ w.session.stored e.1, schema.key e' ≠ schema.key e.2 ∧ ¬ schema.Clash e' e.2 := by
    rw [hpending]
    intro e he
    obtain rfl := List.mem_singleton.mp he
    intro e' he'
    refine ⟨fun hsame => h.unused e' he' (hsame.trans hid), ?_⟩
    rintro ⟨-, -, hconstrained⟩
    cases hconstrained
  have htables : ((w.session.add (S := schema) (t := .evidence) r).pending.map (·.1)).Nodup := by
    rw [hpending]
    exact List.nodup_singleton _
  obtain ⟨s, hs⟩ := Session.flush_of_apart htables hapart
  rw [hflush] at hs
  cases hs

/-- Registering the evidence of a stored event always ends. -/
theorem registerEventEvidence_returns (huuid : Function.Injective rt.uuid4)
    (hkeyed : schema.Keyed (t := .events) events) {eventId : String}
    (hevent : ∃ row ∈ events, SecurityEvent.tenantId row = tenantId ∧ row.id = eventId)
    (actorId : String) :
    Triple (Registrable rt tenantId events findings alerts n)
      (registerEventEvidence rt tenantId eventId actorId)
      (fun _ => Registrable rt tenantId events findings alerts n) (fun _ _ => False) := by
  unfold registerEventEvidence
  refine triple_bind (Q := fun existing w => (existing = none →
      ∀ e ∈ w.rowsOf .evidence tenantId, Evidence.source e ≠ sourceOf eventId) ∧
    Registrable rt tenantId events findings alerts n w) ?_ fun existing => ?_
  · refine triple_selectOne ?_ ?_ ?_
    · intro w hw hnone
      refine ⟨fun _ e he => ?_, hw⟩
      obtain ⟨hmem, ht⟩ := World.mem_rowsOf.mp he
      exact of_decide_eq_false (hnone e hmem ht)
    · intro w r hw _ _ _
      refine ⟨fun hnone => ?_, hw⟩
      cases hnone
    · intro w hw htwo
      refine not_two_of_pairwise (hw.storable.sources.imp ?_) htwo
      rintro e e' hne ⟨he, he'⟩
      exact hne ((of_decide_eq_true he).trans (of_decide_eq_true he').symm)
  · cases existing with
    | some existing => exact triple_pure fun w hw => hw.2
    | none =>
        refine triple_bind (Q := fun event w => event ≠ none ∧
          Registrable rt tenantId events findings alerts n w ∧
            ∀ e ∈ w.rowsOf .evidence tenantId, Evidence.source e ≠ sourceOf eventId) ?_
              fun event => triple_given fun hfound => ?_
        · refine triple_selectOne ?_ ?_ ?_
          · rintro w ⟨-, hw⟩ hnone
            obtain ⟨row, hrow, ht, hid⟩ := hevent
            rw [← hw.storable.events] at hrow
            exact absurd hid (of_decide_eq_false (hnone row hrow ht))
          · rintro w row ⟨hsource, hw⟩ - - -
            exact ⟨by simp, hw, hsource rfl⟩
          · rintro w ⟨-, hw⟩ htwo
            have hids : (w.rowsOf .events tenantId).Pairwise fun row row' =>
                SecurityEvent.id row ≠ SecurityEvent.id row' := by
              unfold World.rowsOf
              rw [hw.storable.events]
              exact (hkeyed.filter _).imp fun hne => hne.1
            refine not_two_of_pairwise (hids.imp ?_) htwo
            rintro row row' hne ⟨hrow, hrow'⟩
            exact hne ((of_decide_eq_true hrow).trans (of_decide_eq_true hrow').symm)
        · cases event with
          | none => exact absurd rfl hfound
          | some event =>
              refine triple_bind (Q := fun id w =>
                Sealing rt tenantId events findings alerts n (sourceOf eventId) id w) ?_
                  fun id => ?_
              · refine triple_draw ?_ ?_
                · rintro w id t ⟨hw, hsource⟩ hrun
                  obtain ⟨hid, rfl⟩ := Prod.mk.inj hrun
                  obtain rfl := Except.ok.inj hid
                  exact hw.newId huuid hsource
                · intro w e t _ hrun
                  cases hrun
              · have hclock := @triple_utcnow rt
                  (Sealing rt tenantId events findings alerts n (sourceOf eventId) id)
                    (fun _ _ => False) fun w m hw => hw.readings m
                refine triple_bind hclock fun ingestedAt => ?_
                refine triple_bind hclock fun acquired => ?_
                refine triple_bind hclock fun hashed => ?_
                refine triple_bind hclock fun sealedAt => ?_
                refine triple_addFlush ?_ ?_
                · intro w s hw hflush
                  exact hw.stored rfl rfl hflush
                · intro w c hw hflush
                  exact hw.no_conflict hflush rfl

theorem registerAll_returns (huuid : Function.Injective rt.uuid4)
    (hkeyed : schema.Keyed (t := .events) events) {eventIds : List String}
    (hevents : ∀ eventId ∈ eventIds,
      ∃ row ∈ events, SecurityEvent.tenantId row = tenantId ∧ row.id = eventId)
    (actorId : String) :
    Triple (Registrable rt tenantId events findings alerts n)
      (registerAll rt tenantId actorId eventIds)
      (fun _ => Registrable rt tenantId events findings alerts n) (fun _ _ => False) := by
  unfold registerAll
  suffices ∀ ids : List String, Triple (Registrable rt tenantId events findings alerts n)
      (loop (fun ids eventId => do
        let id ← registerEventEvidence rt tenantId eventId actorId
        pure (ids ++ [id])) ids eventIds)
      (fun _ => Registrable rt tenantId events findings alerts n) (fun _ _ => False) from this []
  induction eventIds with
  | nil => exact fun ids => triple_pure fun _ hw => hw
  | cons eventId rest ih =>
      intro ids
      refine triple_bind (Q := fun _ => Registrable rt tenantId events findings alerts n) ?_
        fun ids' => ih (fun id hid => hevents id (List.mem_cons_of_mem _ hid)) ids'
      exact triple_bind (registerEventEvidence_returns huuid hkeyed
        (hevents eventId List.mem_cons_self) actorId) fun id => triple_pure fun _ hw => hw

end

/-! ### Findings -/

section

variable {rt : Runtime} {tenantId : String} {events : List SecurityEvent}
  {findings : List FindingRecord} {alerts : List Alert} {n : Nat} {w : World}

/-- A finding with an id that was just drawn, about events that are stored. -/
structure New (rt : Runtime) (tenantId : String) (events : List SecurityEvent) (w : World)
    (finding : Finding) : Prop where
  drawn : ∃ k < w.ticks.uuids, finding.id = "fnd" ++ "_" ++ rt.uuid4 k
  findings : ∀ f ∈ w.session.stored .findings, FindingRecord.id f ≠ finding.id
  alerts : ∀ a ∈ w.session.stored .alerts, Alert.id a ≠ alertId finding.id
  events : ∀ eventId ∈ finding.eventIds,
    ∃ row ∈ events, SecurityEvent.tenantId row = tenantId ∧ row.id = eventId

/-- What waits can be written, and findings can be stored again then. -/
def Flushable (rt : Runtime) (tenantId : String) (events : List SecurityEvent) (w : World) : Prop :=
  ∃ s, w.session.flush = .ok s ∧ Storable rt tenantId events { w with session := s }

theorem Storable.flushable (h : Storable rt tenantId events w) :
    Flushable rt tenantId events w :=
  ⟨w.session, Session.flush_of_pending_nil h.settled, h⟩

/-- A finding and its alert are in no conflict with what is stored. -/
theorem Registrable.flushable (huuid : Function.Injective rt.uuid4)
    (h : Registrable rt tenantId events findings alerts n w) {finding : Finding}
    (hdrawn : ∃ k < n, finding.id = "fnd" ++ "_" ++ rt.uuid4 k)
    (hfindings : ∀ f ∈ findings, FindingRecord.id f ≠ finding.id)
    (halerts : ∀ a ∈ alerts, Alert.id a ≠ alertId finding.id)
    (hfingerprints : ∀ f ∈ findings, FindingRecord.tenantId f = tenantId →
      FindingRecord.fingerprint f ≠ finding.fingerprint) (evidenceIds : List String) :
    Flushable rt tenantId events
      { w with session := ((w.session.add (S := schema) (t := .findings)
          (findingRecord tenantId finding evidenceIds)).add (S := schema) (t := .alerts)
            (alertOf tenantId finding)) } := by
  obtain ⟨k, hk, hid⟩ := hdrawn
  have hspent : k < w.ticks.uuids := hk.trans_le h.drawn
  have hunspent := h.storable.unspent
  set f := findingRecord tenantId finding evidenceIds with hf
  set a := alertOf tenantId finding with ha
  set s := (w.session.add (S := schema) (t := .findings) f).add (S := schema) (t := .alerts) a
    with hs
  have hpending : s.pending = [⟨.findings, f⟩, ⟨.alerts, a⟩] := by
    rw [hs]
    unfold Session.add
    rw [h.storable.settled]
    rfl
  have htables : (s.pending.map (·.1)).Nodup := by
    rw [hpending]
    simp
  have hapart : ∀ e ∈ s.pending, ∀ r ∈ s.stored e.1,
      schema.key r ≠ schema.key e.2 ∧ ¬ schema.Clash r e.2 := by
    rw [hpending]
    intro e he
    rcases List.mem_cons.mp he with rfl | he
    · intro r hr
      have hmem : r ∈ findings := by
        rw [← h.findings]
        exact hr
      refine ⟨hfindings r hmem, ?_⟩
      rintro ⟨htenant, hunique, -⟩
      refine hfingerprints r hmem htenant ?_
      exact (List.cons.inj (Option.some.inj hunique)).1
    · obtain rfl := List.mem_singleton.mp he
      intro r hr
      have hmem : r ∈ alerts := by
        rw [← h.alerts]
        exact hr
      refine ⟨halerts r hmem, ?_⟩
      rintro ⟨-, -, hconstrained⟩
      cases hconstrained
  obtain ⟨s', hflush⟩ := Session.flush_of_apart htables hapart
  obtain ⟨hsettled, hstored⟩ := Session.flush_ok hflush
  have hall : ∀ t, w.session.all t = w.session.stored t := by
    intro t
    unfold Session.all Session.pendingOf
    rw [h.storable.settled]
    exact List.append_nil _
  have hothers : ∀ t, t ≠ Table.findings → t ≠ Table.alerts → s'.stored t = w.session.stored t := by
    intro t hfinding halert
    rw [hstored, hs, Session.add_all_of_ne (S := schema) _ (Ne.symm halert),
      Session.add_all_of_ne (S := schema) _ (Ne.symm hfinding), hall]
  have hnewFindings : s'.stored .findings = w.session.stored .findings ++ [f] := by
    rw [hstored, hs, Session.add_all_of_ne (S := schema) _ (by decide),
      Session.add_all_self (S := schema), hall]
  have hnewAlerts : s'.stored .alerts = w.session.stored .alerts ++ [a] := by
    rw [hstored, hs, Session.add_all_self (S := schema),
      Session.add_all_of_ne (S := schema) _ (by decide), hall]
  have hrows : ∀ t, t ≠ Table.findings → t ≠ Table.alerts →
      World.rowsOf { w with session := s' } t tenantId = w.rowsOf t tenantId := by
    intro t hfinding halert
    unfold World.rowsOf
    rw [hothers t hfinding halert]
  refine ⟨s', hflush, hsettled, ⟨?_, ?_, ?_⟩, ?_, ?_, ?_, ?_, ?_⟩
  · show ∀ r ∈ s'.stored .findings, _
    rw [hnewFindings]
    intro r hr
    rcases List.mem_append.mp hr with hr | hr
    · exact hunspent.findings r hr
    · obtain rfl := List.mem_singleton.mp hr
      show ¬ DrawnId rt w.ticks.uuids "fnd" finding.id
      rw [hid]
      exact not_drawnId_of_lt huuid hspent
  · show ∀ r ∈ s'.stored .alerts, _
    rw [hnewAlerts]
    intro r hr
    rcases List.mem_append.mp hr with hr | hr
    · exact hunspent.alerts r hr
    · obtain rfl := List.mem_singleton.mp hr
      show ¬ DrawnId rt w.ticks.uuids "alt" (alertId finding.id)
      rw [hid, alertId_generated]
      exact not_drawnId_of_lt huuid hspent
  · show ∀ e ∈ s'.stored .evidence, _
    rw [hothers .evidence (by decide) (by decide)]
    exact hunspent.evidence
  · exact (hothers .events (by decide) (by decide)).trans h.storable.events
  · have hown : World.rowsOf { w with session := s' } .findings tenantId =
        w.rowsOf .findings tenantId ++
          [f].filter fun r => Table.tenantId (t := .findings) r = tenantId := by
      unfold World.rowsOf
      rw [hnewFindings, List.filter_append]
    rw [hown]
    refine List.pairwise_append.mpr
      ⟨h.storable.fingerprints, (List.pairwise_singleton _ f).filter _, ?_⟩
    intro r hr r' hr'
    obtain rfl := List.mem_singleton.mp (List.mem_of_mem_filter hr')
    obtain ⟨hmem, htenant⟩ := World.mem_rowsOf.mp hr
    rw [h.findings] at hmem
    exact hfingerprints r hmem htenant
  · rw [hrows .evidence (by decide) (by decide)]
    exact h.storable.sources
  · rw [hrows .suppressions (by decide) (by decide)]
    exact h.storable.suppressions
  · rw [hrows .exceptions (by decide) (by decide)]
    exact h.storable.exceptions

/-- Storing a new finding always ends. -/
theorem storeFinding_returns (huuid : Function.Injective rt.uuid4)
    (hkeyed : schema.Keyed (t := .events) events) (actorId : String) (acc : Created)
    (finding : Finding) :
    Triple (fun w => Storable rt tenantId events w ∧ New rt tenantId events w finding)
      (storeFinding rt tenantId actorId acc finding)
      (fun _ => Flushable rt tenantId events) (fun _ _ => False) := by
  refine triple_from ?_
  rintro w₀ ⟨hw₀, hnew⟩
  let w₁ : World := { w₀ with ticks := { w₀.ticks with readings := w₀.ticks.readings + 1 } }
  have hw₁ : Storable rt tenantId events w₁ := hw₀.readings _
  unfold storeFinding
  refine triple_bind (Q := fun suppressed w => suppressed = false ∧ w = w₁) ?_ fun suppressed => ?_
  · constructor
    rintro _ rfl
    rw [isSuppressed_run rt hw₀.suppressions hw₀.exceptions finding]
    exact ⟨rfl, rfl⟩
  refine triple_given fun hsuppressed => ?_
  rw [hsuppressed, if_neg (by decide)]
  refine triple_bind (Q := fun existing w => (existing = none →
    ∀ f ∈ w₁.rowsOf .findings tenantId, FindingRecord.fingerprint f ≠ finding.fingerprint) ∧
      w = w₁) ?_ fun existing => triple_given fun hexisting => ?_
  · refine triple_selectOne ?_ ?_ ?_
    · rintro _ rfl hnone
      refine ⟨fun _ f hf => ?_, rfl⟩
      obtain ⟨hmem, ht⟩ := World.mem_rowsOf.mp hf
      exact of_decide_eq_false (hnone f hmem ht)
    · rintro _ f rfl - - -
      refine ⟨fun hnone => ?_, rfl⟩
      cases hnone
    · rintro _ rfl htwo
      refine not_two_of_pairwise (hw₁.fingerprints.imp ?_) htwo
      rintro f f' hne ⟨hf, hf'⟩
      exact hne ((of_decide_eq_true hf).trans (of_decide_eq_true hf').symm)
  · cases existing with
    | some existing =>
        refine triple_pure ?_
        rintro _ rfl
        exact hw₁.flushable
    | none =>
        have hregister := @registerAll_returns rt tenantId events (w₁.session.stored .findings)
          (w₁.session.stored .alerts) w₁.ticks.uuids huuid hkeyed finding.eventIds hnew.events
          actorId
        refine triple_bind (hregister.pre ?_) fun evidenceIds => ?_
        · rintro _ rfl
          exact ⟨hw₁, rfl, rfl, Nat.le_refl _⟩
        · refine ⟨fun w hw => ?_⟩
          refine hw.flushable huuid hnew.drawn hnew.findings hnew.alerts ?_ evidenceIds
          intro f hf htenant
          exact hexisting rfl f (World.mem_rowsOf.mpr ⟨hf, htenant⟩)

end

/-! ### Sweeps -/

section

variable {rt : Runtime} {context : DetectionContext} {event : CanonicalEvent}

/-- Rules that do not run find nothing. -/
theorem loop_idle {rules : List DetectionRule} (h : ∀ rule ∈ rules, rule.runsIn context = false)
    (found : List Finding) :
    loop (fun findings rule => if rule.runsIn context then do
        let more ← rule.evaluate rt event context
        pure (findings ++ more)
      else pure findings) found rules = (pure found : Draw (List Finding)) := by
  induction rules with
  | nil => rfl
  | cons rule rest ih =>
      have hidle : rule.runsIn context = false := h rule List.mem_cons_self
      rw [loop, hidle]
      show (pure found >>= _) = _
      rw [pure_bind]
      exact ih fun other hother => h other (List.mem_cons_of_mem _ hother)

/-- Of a registry one rule runs. -/
theorem evaluateAll_alone {before after : List DetectionRule} {rule : DetectionRule}
    (hbefore : ∀ other ∈ before, other.runsIn context = false)
    (hrule : rule.runsIn context = true)
    (hafter : ∀ other ∈ after, other.runsIn context = false) :
    evaluateAll rt (before ++ rule :: after) event context = rule.evaluate rt event context := by
  unfold evaluateAll
  induction before with
  | nil =>
      rw [List.nil_append, loop, hrule, if_pos rfl]
      have hrest : (fun found => loop (fun findings rule => if rule.runsIn context then do
            let more ← rule.evaluate rt event context
            pure (findings ++ more)
          else pure findings) found after) = fun found => (pure found : Draw (List Finding)) := by
        funext found
        exact loop_idle hafter found
      rw [hrest, bind_pure]
      exact bind_pure _
  | cons other before ih =>
      have hidle : other.runsIn context = false := hbefore other List.mem_cons_self
      rw [List.cons_append, loop, hidle]
      show (pure [] >>= _) = _
      rw [pure_bind]
      exact ih fun another hanother => hbefore another (List.mem_cons_of_mem _ hanother)

/-- The sweep is the only rule of the registry that the scheduled runner runs. -/
theorem evaluateAll_scheduled (hscheduled : context.scheduled = true) :
    evaluateAll rt defaultRegistry event context =
      scheduledAuthFailureSweep.evaluate rt event context := by
  have hsplit : defaultRegistry = defaultRegistry.take 24 ++ scheduledAuthFailureSweep ::
      defaultRegistry.drop 25 := rfl
  have hrealtime : ∀ rule ∈ defaultRegistry.take 24 ++ defaultRegistry.drop 25,
      rule.info.execution = .realtime := by
    decide +kernel
  have hidle : ∀ rule ∈ defaultRegistry.take 24 ++ defaultRegistry.drop 25,
      rule.runsIn context = false := by
    intro rule hrule
    rw [DetectionRule.runsIn, hrealtime rule hrule, hscheduled]
    rfl
  rw [hsplit]
  exact evaluateAll_alone (fun rule hrule => hidle rule (List.mem_append_left _ hrule)) hscheduled
    fun rule hrule => hidle rule (List.mem_append_right _ hrule)

variable {tenantId : String} {events : List SecurityEvent}

/-- If the sweep itself does not raise, what it finds is stored. -/
theorem evaluateAndStoreFindings_returns (huuid : Function.Injective rt.uuid4)
    (hkeyed : schema.Keyed (t := .events) events) (hscheduled : context.scheduled = true)
    (hselects : ∃ selected, scheduledAuthFailureSweep.selects rt context event = .ok selected)
    (hevent : event ∈ context.window)
    (hstored : ∀ e ∈ context.window,
      ∃ row ∈ events, SecurityEvent.tenantId row = tenantId ∧ row.id = e.id)
    (actorId : String) :
    Triple (Storable rt tenantId events)
      (evaluateAndStoreFindings rt tenantId actorId context event)
      (fun _ => Storable rt tenantId events) (fun _ _ => False) := by
  obtain ⟨selected, hselects⟩ := hselects
  have hcases : ∀ w, Storable rt tenantId events w → ∃ found t,
      evaluateAll rt defaultRegistry event context w.ticks = (.ok found, t) ∧
        Storable rt tenantId events { w with ticks := t } ∧
        (found = [] ∨ ∃ finding, found = [finding] ∧
          New rt tenantId events { w with ticks := t } finding) := by
    intro w hw
    rw [evaluateAll_scheduled hscheduled]
    cases selected with
    | none => exact ⟨[], w.ticks, evaluate_none hselects, hw, .inl rfl⟩
    | some selection =>
        by_cases hopen : scheduledAuthFailureSweep.fingerprint event.tenantId selection.tail ∈
            context.openFingerprints
        · exact ⟨[], w.ticks, evaluate_open hselects hopen, hw, .inl rfl⟩
        · obtain ⟨finding, hrun, hdrawn, hid⟩ :=
            @evaluate_closed rt scheduledAuthFailureSweep context event selection w.ticks _ hselects
              hopen rfl
          have hunspent := hw.unspent
          have hlater : ∀ {tag id : String}, ¬ DrawnId rt w.ticks.uuids tag id →
              ¬ DrawnId rt (w.ticks.uuids + 1) tag id :=
            fun hnot hdrawn => hnot (hdrawn.mono (Nat.le_succ _))
          refine ⟨[finding], _, hrun, ?_, .inr ⟨finding, rfl, ?_⟩⟩
          · exact ⟨hw.settled, ⟨fun f hf => hlater (hunspent.findings f hf),
              fun a ha => hlater (hunspent.alerts a ha),
              fun e he => hlater (hunspent.evidence e he)⟩, hw.events, hw.fingerprints,
              hw.sources, hw.suppressions, hw.exceptions⟩
          · refine ⟨⟨w.ticks.uuids, Nat.lt_succ_self _, hid⟩, ?_, ?_, ?_⟩
            · intro f hf hsame
              exact hunspent.findings f hf ⟨_, Nat.le_refl _, hsame.trans hid⟩
            · intro a ha hsame
              refine hunspent.alerts a ha ⟨_, Nat.le_refl _, ?_⟩
              rw [hsame, hid, alertId_generated]
            · intro eventId heventId
              rw [hdrawn.eventIds] at heventId
              have hwindow : ∃ e ∈ context.window, e.id = eventId := by
                have hrelated : ∀ e ∈ selection.related, e ∈ context.window :=
                  fun e he => (standing_of_selects (.refl _) hevent hscheduled hselects).counted.subset he
                unfold eventIdsOf at heventId
                dsimp only at heventId
                split at heventId
                · obtain ⟨e, he, hsame⟩ := List.mem_map.mp heventId
                  exact ⟨e, hrelated e he, hsame⟩
                · rcases List.mem_cons.mp heventId with rfl | heventId
                  · exact ⟨event, hevent, rfl⟩
                  · obtain ⟨e, he, hsame⟩ := List.mem_map.mp heventId
                    exact ⟨e, hrelated e he, hsame⟩
              obtain ⟨e, he, rfl⟩ := hwindow
              exact hstored e he
  unfold evaluateAndStoreFindings
  refine triple_bind (Q := fun found w => Storable rt tenantId events w ∧
    (found = [] ∨ ∃ finding, found = [finding] ∧ New rt tenantId events w finding)) ?_
      fun found => ?_
  · refine triple_draw ?_ ?_
    · intro w found t hw hrun
      obtain ⟨found', t', hrun', hafter⟩ := hcases w hw
      rw [hrun] at hrun'
      cases hrun'
      exact hafter
    · intro w e t hw hrun
      obtain ⟨found', t', hrun', -⟩ := hcases w hw
      rw [hrun] at hrun'
      cases hrun'
  · refine triple_bind (Q := fun _ => Flushable rt tenantId events) ?_ fun acc => ?_
    · refine triple_from ?_
      rintro w₀ ⟨hw₀, rfl | ⟨finding, rfl, hnew⟩⟩
      · refine triple_pure ?_
        rintro _ rfl
        exact hw₀.flushable
      · refine triple_bind ((storeFinding_returns huuid hkeyed actorId _ finding).pre ?_)
          fun acc => triple_pure fun _ hw => hw
        rintro _ rfl
        exact ⟨hw₀, hnew⟩
    · refine triple_bind (Q := fun _ => Storable rt tenantId events) (triple_flush ?_ ?_)
        fun _ => triple_pure fun _ hw => hw
      · rintro w s ⟨s', hflush', hs'⟩ hflush
        rw [hflush'] at hflush
        cases hflush
        exact hs'
      · rintro w c ⟨s', hflush', -⟩ hflush
        rw [hflush'] at hflush
        cases hflush

/-- A sweep ends if it raises at none of the events. -/
theorem runScheduled_returns (huuid : Function.Injective rt.uuid4)
    (hkeyed : schema.Keyed (t := .events) events) {w : World}
    (hw : Storable rt tenantId events w)
    (hselects : ∀ opened, ∀ event ∈ w.window tenantId, ∃ selected,
      scheduledAuthFailureSweep.selects rt
        { window := w.window tenantId, openFingerprints := opened, scheduled := true } event =
          .ok selected)
    (hstored : ∀ e ∈ w.window tenantId,
      ∃ row ∈ events, SecurityEvent.tenantId row = tenantId ∧ row.id = e.id)
    (actorId : String) :
    ∃ created w', runScheduled rt tenantId actorId w = (.ok created, w') := by
  have hloop : ∀ (rest : List CanonicalEvent), (∀ e ∈ rest, e ∈ w.window tenantId) →
      ∀ acc, Triple (Storable rt tenantId events)
        (loop (sweepEvent rt tenantId actorId (w.window tenantId)) acc rest)
        (fun _ => Storable rt tenantId events) (fun _ _ => False) := by
    intro rest
    induction rest with
    | nil => exact fun _ acc => triple_pure fun _ hw => hw
    | cons event rest ih =>
        intro hrest acc
        have hevent := hrest event List.mem_cons_self
        have hturn := @evaluateAndStoreFindings_returns rt
          { window := w.window tenantId, openFingerprints := acc.openFingerprints, scheduled := true }
          event tenantId events huuid hkeyed rfl (hselects _ event hevent) hevent hstored actorId
        refine triple_bind (Q := fun _ => Storable rt tenantId events) ?_
          fun acc' => ih (fun e he => hrest e (List.mem_cons_of_mem _ he)) acc'
        exact triple_bind hturn fun one => triple_pure fun _ hw => hw
  have hrun := (hloop (w.window tenantId) (fun _ he => he)
    { openFingerprints := (realtimeContext w tenantId).openFingerprints }).run w hw
  rw [runScheduled_eq rt tenantId actorId w, bind_run]
  revert hrun
  generalize loop (sweepEvent rt tenantId actorId (w.window tenantId)) _ (w.window tenantId) w = run
  intro hrun
  obtain ⟨result, w'⟩ := run
  cases result with
  | error e => exact hrun.elim
  | ok acc => exact ⟨acc.created, w', rfl⟩

end

end BlueTeam.Services
