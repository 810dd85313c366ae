/- GID: BlueTeam/Services/Integrity
   generality: I
   source: services/api/app/services/detection.py, evidence.py, ingestion.py
   digest: Findings stay unique, alerted once and backed by sealed evidence over all runs. -/

import BlueTeam.Services.Footprint

set_option autoImplicit false
set_option relaxedAutoImplicit false

namespace BlueTeam.Services

open BlueTeam.Python BlueTeam.Schema BlueTeam.Lib BlueTeam.Lib.Exec BlueTeam.Detection

/-! ### The invariant of a session -/

/-- The rows of a tenant in a table, flushed or not. -/
def rowsIn (s : Session schema) (t : Table) (tenantId : String) : List t.Row :=
  (s.all t).filter fun r => Table.tenantId r = tenantId

theorem mem_rowsIn {s : Session schema} {t : Table} {tenantId : String} {r : t.Row} :
    r ∈ rowsIn s t tenantId ↔ r ∈ s.all t ∧ Table.tenantId r = tenantId := by
  simp [rowsIn]

/-- The evidence of an event: sealed, of the tenant, named after an event stored for it. -/
def Backed (tenantId : String) (s : Session schema) (eventId evidenceId : String) : Prop :=
  (∃ e ∈ rowsIn s .evidence tenantId,
      e.id = evidenceId ∧ e.sealed = true ∧ e.source = sourceOf eventId) ∧
    ∃ ev ∈ s.stored .events, ev.tenantId = tenantId ∧ ev.id = eventId

structure Sound (tenantId : String) (s : Session schema) : Prop where
  keyed : schema.Keyed (s.stored .findings)
  apart : (s.all .findings).Pairwise fun r r' => ¬ schema.Clash r r'
  alerted : (rowsIn s .alerts tenantId).map (·.findingId) =
    (rowsIn s .findings tenantId).map (·.id)
  sources : (rowsIn s .evidence tenantId).Pairwise fun e e' => e.source ≠ e'.source
  genuine : ∀ e ∈ rowsIn s .evidence tenantId, e.sealed = true ∧
    ∃ ev ∈ s.stored .events, ev.tenantId = tenantId ∧ e.source = sourceOf ev.id
  backed : ∀ f ∈ rowsIn s .findings tenantId,
    List.Forall₂ (Backed tenantId s) f.eventIds f.evidenceIds

/-- Between two evaluations no finding and no evidence waits for a flush. -/
structure Quiet (tenantId : String) (s : Session schema) : Prop where
  sound : Sound tenantId s
  findings : s.pendingOf .findings = []
  evidence : s.pendingOf .evidence = []

/-- What registering evidence does to a session, as far as findings can tell. -/
structure Grows (s s' : Session schema) : Prop where
  findings : s'.all .findings = s.all .findings
  pending : s'.pendingOf .findings ⊆ s.pendingOf .findings
  evidence : s.all .evidence ⊆ s'.all .evidence
  events : s.stored .events ⊆ s'.stored .events

section

variable {tenantId : String} {s s' s'' : Session schema}

theorem sourceOf_injective : Function.Injective sourceOf := by
  intro a b h
  have hchars := congrArg String.toList h
  unfold sourceOf at hchars
  rw [String.toList_append, String.toList_append] at hchars
  exact String.toList_injective (List.append_cancel_left hchars)

theorem Grows.refl (s : Session schema) : Grows s s :=
  ⟨rfl, List.Subset.refl _, List.Subset.refl _, List.Subset.refl _⟩

theorem Grows.trans (h : Grows s s') (h' : Grows s' s'') : Grows s s'' where
  findings := h'.findings.trans h.findings
  pending := List.Subset.trans h'.pending h.pending
  evidence := List.Subset.trans h.evidence h'.evidence
  events := List.Subset.trans h.events h'.events

theorem grows_add_evidence (s : Session schema) (e : Evidence) :
    Grows s (s.add (S := schema) (t := .evidence) e) where
  findings := Session.add_all_of_ne (S := schema) s (by decide) _
  pending := by
    rw [Session.add_pendingOf_of_ne (S := schema) s (by decide)]
    exact List.Subset.refl _
  evidence := by
    rw [Session.add_all_self (S := schema)]
    exact List.subset_append_left _ _
  events := List.Subset.refl _

theorem grows_flush (h : s.flush = .ok s') : Grows s s' where
  findings := Session.flush_all h _
  pending := by simp [Session.pendingOf, (Session.flush_ok h).1]
  evidence := by
    rw [Session.flush_all h]
    exact List.Subset.refl _
  events := by
    rw [(Session.flush_ok h).2]
    exact List.subset_append_left _ _

theorem Backed.grows {eventId evidenceId : String} (h : Backed tenantId s eventId evidenceId)
    (hg : Grows s s') : Backed tenantId s' eventId evidenceId := by
  obtain ⟨⟨e, he, hrest⟩, ev, hev, hid⟩ := h
  obtain ⟨hmem, ht⟩ := mem_rowsIn.mp he
  exact ⟨⟨e, mem_rowsIn.mpr ⟨hg.evidence hmem, ht⟩, hrest⟩, ev, hg.events hev, hid⟩

/-- Only findings, alerts and evidence matter, and that the events stay. -/
theorem Sound.frame (h : Sound tenantId s) (hkeyed : schema.Keyed (s'.stored .findings))
    (hfindings : s'.all .findings = s.all .findings) (halerts : s'.all .alerts = s.all .alerts)
    (hevidence : s'.all .evidence = s.all .evidence)
    (hevents : s.stored .events ⊆ s'.stored .events) : Sound tenantId s' := by
  have hf : rowsIn s' .findings tenantId = rowsIn s .findings tenantId := by
    unfold rowsIn
    rw [hfindings]
  have ha : rowsIn s' .alerts tenantId = rowsIn s .alerts tenantId := by
    unfold rowsIn
    rw [halerts]
  have he : rowsIn s' .evidence tenantId = rowsIn s .evidence tenantId := by
    unfold rowsIn
    rw [hevidence]
  refine ⟨hkeyed, hfindings ▸ h.apart, by rw [ha, hf, h.alerted], he ▸ h.sources, ?_, ?_⟩
  · intro e hmem
    rw [he] at hmem
    obtain ⟨hsealed, ev, hev, hsource⟩ := h.genuine e hmem
    exact ⟨hsealed, ev, hevents hev, hsource⟩
  · intro f hmem
    rw [hf] at hmem
    refine (h.backed f hmem).imp ?_
    rintro eventId evidenceId ⟨hrow, ev, hev, hid⟩
    exact ⟨he ▸ hrow, ev, hevents hev, hid⟩

theorem Sound.flush (h : Sound tenantId s) (hflush : s.flush = .ok s') : Quiet tenantId s' where
  sound := by
    refine h.frame (Session.flush_keyed h.keyed hflush) (Session.flush_all hflush _)
      (Session.flush_all hflush _) (Session.flush_all hflush _) ?_
    rw [(Session.flush_ok hflush).2]
    exact List.subset_append_left _ _
  findings := by simp [Session.pendingOf, (Session.flush_ok hflush).1]
  evidence := by simp [Session.pendingOf, (Session.flush_ok hflush).1]

/-- No flush of a sound session violates the unique constraint of the findings. -/
theorem Sound.no_conflict (h : Sound tenantId s) {c : Conflict schema}
    (hflush : s.flush = .error c) : c ≠ .unique .findings := by
  rintro rfl
  exact Session.flush_error hflush h.apart

theorem Sound.add_evidence (h : Sound tenantId s) {e : Evidence} {ev : SecurityEvent}
    (hsealed : e.sealed = true) (hev : ev ∈ s.stored .events) (ht : ev.tenantId = tenantId)
    (hsource : e.source = sourceOf ev.id)
    (hnew : ∀ e' ∈ rowsIn s .evidence tenantId, e'.source ≠ e.source) :
    Sound tenantId (s.add (S := schema) (t := .evidence) e) := by
  have hf : (s.add (S := schema) (t := .evidence) e).all .findings = s.all .findings :=
    Session.add_all_of_ne (S := schema) s (by decide) _
  have ha : (s.add (S := schema) (t := .evidence) e).all .alerts = s.all .alerts :=
    Session.add_all_of_ne (S := schema) s (by decide) _
  have hrows : ∀ e' ∈ rowsIn (s.add (S := schema) (t := .evidence) e) .evidence tenantId,
      e' ∈ rowsIn s .evidence tenantId ∨ e' = e := by
    intro e' hmem
    obtain ⟨hmem, ht'⟩ := mem_rowsIn.mp hmem
    rw [Session.add_all_self (S := schema)] at hmem
    rcases List.mem_append.mp hmem with hmem | hmem
    · exact .inl (mem_rowsIn.mpr ⟨hmem, ht'⟩)
    · exact .inr (by simpa using hmem)
  refine ⟨h.keyed, hf ▸ h.apart, ?_, ?_, ?_, ?_⟩
  · unfold rowsIn
    rw [hf, ha]
    exact h.alerted
  · unfold rowsIn
    rw [Session.add_all_self (S := schema), List.filter_append, List.pairwise_append]
    refine ⟨h.sources, ?_, ?_⟩
    · exact (List.pairwise_singleton _ e).filter _
    · intro e' he' x hx
      obtain rfl : x = e := by simpa using (List.mem_filter.mp hx).1
      exact hnew e' he'
  · intro e' he'
    rcases hrows e' he' with he' | rfl
    · exact h.genuine e' he'
    · exact ⟨hsealed, ev, hev, ht, hsource⟩
  · intro f hmem
    unfold rowsIn at hmem
    rw [hf] at hmem
    exact (h.backed f hmem).imp fun _ _ hb => hb.grows (grows_add_evidence s e)

/-- A finding is added together with its alert. -/
theorem Sound.add_finding (h : Sound tenantId s) {finding : Finding} {evidenceIds : List String}
    (hnew : ∀ f ∈ rowsIn s .findings tenantId, f.fingerprint ≠ finding.fingerprint)
    (hbacked : List.Forall₂ (Backed tenantId s) finding.eventIds evidenceIds) :
    Sound tenantId ((s.add (S := schema) (t := .findings)
      (findingRecord tenantId finding evidenceIds)).add (S := schema) (t := .alerts)
        (alertOf tenantId finding)) := by
  set f := findingRecord tenantId finding evidenceIds with hfdef
  set s₁ := s.add (S := schema) (t := .findings) f with hs₁
  set s₂ := s₁.add (S := schema) (t := .alerts) (alertOf tenantId finding) with hs₂
  have hfall : s₂.all .findings = s.all .findings ++ [f] := by
    rw [hs₂, Session.add_all_of_ne (S := schema) _ (by decide), hs₁,
      Session.add_all_self (S := schema)]
  have haall : s₂.all .alerts = s.all .alerts ++ [alertOf tenantId finding] := by
    rw [hs₂, Session.add_all_self (S := schema), hs₁,
      Session.add_all_of_ne (S := schema) _ (by decide)]
  have heall : s₂.all .evidence = s.all .evidence := by
    rw [hs₂, Session.add_all_of_ne (S := schema) _ (by decide), hs₁,
      Session.add_all_of_ne (S := schema) _ (by decide)]
  have hfrows : rowsIn s₂ .findings tenantId = rowsIn s .findings tenantId ++ [f] := by
    unfold rowsIn
    rw [hfall, List.filter_append]
    simp [Table.tenantId, hfdef, findingRecord]
  have harows : rowsIn s₂ .alerts tenantId =
      rowsIn s .alerts tenantId ++ [alertOf tenantId finding] := by
    unfold rowsIn
    rw [haall, List.filter_append]
    simp [Table.tenantId, alertOf]
  have herows : rowsIn s₂ .evidence tenantId = rowsIn s .evidence tenantId := by
    unfold rowsIn
    rw [heall]
  refine ⟨h.keyed, ?_, ?_, herows ▸ h.sources, herows ▸ h.genuine, ?_⟩
  · rw [hfall, List.pairwise_append]
    refine ⟨h.apart, List.pairwise_singleton _ _, ?_⟩
    intro r hr x hx hclash
    obtain rfl : x = f := by simpa using hx
    obtain ⟨htenant, hunique, -⟩ := hclash
    have ht : r.tenantId = tenantId := htenant
    have hfp : r.fingerprint = finding.fingerprint := by
      simpa [Table.unique, hfdef, findingRecord] using hunique
    exact hnew r (mem_rowsIn.mpr ⟨hr, ht⟩) hfp
  · rw [hfrows, harows, List.map_append, List.map_append, h.alerted]
    rfl
  · intro g hg
    have hkeep : ∀ eventId evidenceId, Backed tenantId s eventId evidenceId →
        Backed tenantId s₂ eventId evidenceId := by
      rintro eventId evidenceId ⟨hrow, hevent⟩
      exact ⟨herows ▸ hrow, hevent⟩
    rw [hfrows] at hg
    rcases List.mem_append.mp hg with hg | hg
    · exact (h.backed g hg).imp hkeep
    · obtain rfl : g = f := by simpa using hg
      exact hbacked.imp hkeep

end

/-! ### The services keep it -/

/-- What may be raised: anything but a violated unique constraint of the findings. -/
def NoDuplicateFinding (e : Failure) : Prop :=
  e ≠ .integrityError (.unique .findings)

section

variable (rt : Runtime) (tenantId actorId : String)

/-- The state while the evidence of a finding is registered, from session `s₀` on. -/
structure Registering (s₀ s : Session schema) : Prop where
  sound : Sound tenantId s
  settled : s.pendingOf .evidence = []
  grows : Grows s₀ s

theorem keeps_of_draw {α : Type} {m : Draw α} {I : Session schema → Prop} :
    Keeps I (fun e _ => NoDuplicateFinding e) (draw m) :=
  keeps_draw fun _ _ _ hc => by cases hc

/-- New evidence of a stored event is added and flushed. -/
theorem addEvidence_spec (s₀ : Session schema) {r : Evidence} {event : SecurityEvent}
    {id : String} (hid : r.id = id) (hsealed : r.sealed = true) (hr : r.tenantId = tenantId)
    (hevent : event.tenantId = tenantId) (hsource : r.source = sourceOf event.id) :
    Triple
      (fun w => Registering tenantId s₀ w.session ∧ event ∈ w.session.stored .events ∧
        ∀ e ∈ rowsIn w.session .evidence tenantId, e.source ≠ sourceOf event.id)
      (add (t := .evidence) r >>= fun _ => flush >>= fun _ => (pure id : Service String))
      (fun id w => Registering tenantId s₀ w.session ∧ Backed tenantId w.session event.id id)
      (fun e _ => NoDuplicateFinding e) := by
  -- The session between the two steps, with the new row not flushed yet.
  have hadd : ∀ s, Registering tenantId s₀ s → event ∈ s.stored .events →
      (∀ e ∈ rowsIn s .evidence tenantId, e.source ≠ sourceOf event.id) →
      Sound tenantId (s.add (S := schema) (t := .evidence) r) ∧
        Backed tenantId (s.add (S := schema) (t := .evidence) r) event.id id := by
    intro s hs hmem hnew
    refine ⟨?_, ⟨r, ?_, hid, hsealed, hsource⟩, event, hmem, hevent, rfl⟩
    · exact hs.sound.add_evidence hsealed hmem hevent hsource (hsource ▸ hnew)
    · refine mem_rowsIn.mpr ⟨?_, hr⟩
      rw [Session.add_all_self (S := schema)]
      simp
  refine triple_addFlush ?_ ?_
  · rintro w s ⟨hw, hmem, hnew⟩ hflush
    obtain ⟨hsound, hbacked⟩ := hadd w.session hw hmem hnew
    have hquiet := hsound.flush hflush
    have hgrows := (grows_add_evidence w.session r).trans (grows_flush hflush)
    exact ⟨⟨hquiet.sound, hquiet.evidence, hw.grows.trans hgrows⟩,
      hbacked.grows (grows_flush hflush)⟩
  · rintro w c ⟨hw, hmem, hnew⟩ hflush hc
    obtain ⟨hsound, -⟩ := hadd w.session hw hmem hnew
    exact hsound.no_conflict hflush (Failure.integrityError.inj hc)

/-- After the call the event's evidence is there, found or made. -/
theorem registerEventEvidence_spec (s₀ : Session schema) (eventId : String) :
    Triple (fun w => Registering tenantId s₀ w.session)
      (registerEventEvidence rt tenantId eventId actorId)
      (fun id w => Registering tenantId s₀ w.session ∧ Backed tenantId w.session eventId id)
      (fun e _ => NoDuplicateFinding e) := by
  have hall : ∀ {s}, Registering tenantId s₀ s → s.all .evidence = s.stored .evidence := by
    intro s hs
    unfold Session.all
    rw [hs.settled, List.append_nil]
  unfold registerEventEvidence
  refine triple_bind (Q := fun existing w => Registering tenantId s₀ w.session ∧
    (∀ e, existing = some e → Backed tenantId w.session eventId e.id) ∧
    (existing = none →
      ∀ e ∈ rowsIn w.session .evidence tenantId, e.source ≠ sourceOf eventId))
    ?_ fun existing => ?_
  · refine triple_selectOne ?_ ?_ ?_
    · intro w hw hnone
      refine ⟨hw, fun e he => (by cases he), fun _ e he => ?_⟩
      obtain ⟨hmem, ht⟩ := mem_rowsIn.mp he
      rw [hall hw] at hmem
      simpa using hnone e hmem ht
    · intro w e hw hmem ht hsource
      have hsource : e.source = sourceOf eventId := by simpa using hsource
      have hrow : e ∈ rowsIn w.session .evidence tenantId := by
        refine mem_rowsIn.mpr ⟨?_, ht⟩
        rw [hall hw]
        exact hmem
      obtain ⟨hsealed, ev, hev, hevt, hevs⟩ := hw.sound.genuine e hrow
      refine ⟨hw, fun e' he' => ?_, fun hnone => (by cases hnone)⟩
      obtain rfl := Option.some.inj he'
      refine ⟨⟨e, hrow, rfl, hsealed, hsource⟩, ev, hev, hevt, ?_⟩
      exact sourceOf_injective (hevs.symm.trans hsource)
    · intro w _ _ hc
      cases hc
  · cases existing with
    | some e => exact triple_pure fun _ hw => ⟨hw.1, hw.2.1 e rfl⟩
    | none =>
        refine triple_bind (Q := fun event w =>
          (∀ ev, event = some ev → ev.tenantId = tenantId ∧ ev.id = eventId) ∧
          Registering tenantId s₀ w.session ∧ (∀ ev, event = some ev →
            ev ∈ w.session.stored .events) ∧
          ∀ e ∈ rowsIn w.session .evidence tenantId, e.source ≠ sourceOf eventId)
          ?_ fun event => triple_given fun hevent => ?_
        · refine triple_selectOne ?_ ?_ ?_
          · rintro w ⟨hw, -, hnew⟩ _
            exact ⟨fun ev hev => (by cases hev), hw, fun ev hev => (by cases hev), hnew rfl⟩
          · rintro w ev ⟨hw, -, hnew⟩ hmem ht hid
            refine ⟨?_, hw, ?_, hnew rfl⟩
            · rintro _ ⟨⟩
              exact ⟨ht, by simpa using hid⟩
            · rintro _ ⟨⟩
              exact hmem
          · intro w _ _ hc
            cases hc
        · cases event with
          | none => exact triple_raise fun _ _ hc => by cases hc
          | some event =>
              obtain ⟨ht, rfl⟩ := hevent event rfl
              let I : Session schema → Prop := fun s => Registering tenantId s₀ s ∧
                event ∈ s.stored .events ∧
                ∀ e ∈ rowsIn s .evidence tenantId, e.source ≠ sourceOf event.id
              refine Triple.pre (?_ : Triple (fun w : World => I w.session) _ _ _) ?_
              · refine triple_bind (keeps_of_draw (I := I)) fun id => ?_
                refine triple_bind (keeps_of_draw (I := I)) fun ingestedAt => ?_
                refine triple_bind (keeps_of_draw (I := I)) fun acquired => ?_
                refine triple_bind (keeps_of_draw (I := I)) fun hashed => ?_
                refine triple_bind (keeps_of_draw (I := I)) fun sealedAt => ?_
                exact addEvidence_spec tenantId s₀ rfl rfl rfl ht rfl
              · rintro w ⟨hw, hmem, hnew⟩
                exact ⟨hw, hmem event rfl, hnew⟩

theorem registerAll_spec (s₀ : Session schema) (eventIds : List String) :
    Triple (fun w => Registering tenantId s₀ w.session)
      (registerAll rt tenantId actorId eventIds)
      (fun ids w => Registering tenantId s₀ w.session ∧
        List.Forall₂ (Backed tenantId w.session) eventIds ids)
      (fun e _ => NoDuplicateFinding e) := by
  let I : List String → List String → World → Prop := fun ids rest w =>
    Registering tenantId s₀ w.session ∧
      ∃ done, done ++ rest = eventIds ∧ List.Forall₂ (Backed tenantId w.session) done ids
  unfold registerAll
  refine ((triple_loop I ?_ [] eventIds).pre ?_).post ?_
  · intro ids eventId rest
    refine triple_from fun w hw => ?_
    obtain ⟨hreg, done, hdone, hids⟩ := hw
    have hstart : Registering tenantId w.session w.session :=
      ⟨hreg.sound, hreg.settled, Grows.refl _⟩
    refine triple_bind
      ((registerEventEvidence_spec rt tenantId actorId w.session eventId).pre ?_) fun id => ?_
    · rintro _ rfl
      exact hstart
    · refine triple_pure ?_
      rintro w' ⟨hreg', hbacked⟩
      have hold : List.Forall₂ (Backed tenantId w'.session) done ids :=
        hids.imp fun _ _ h => h.grows hreg'.grows
      refine ⟨⟨hreg'.sound, hreg'.settled, hreg.grows.trans hreg'.grows⟩, done ++ [eventId], ?_, ?_⟩
      · rw [List.append_assoc]
        exact hdone
      · exact List.rel_append hold (.cons hbacked .nil)
  · intro w hw
    exact ⟨hw, [], rfl, .nil⟩
  · rintro ids w ⟨hreg, done, hdone, hids⟩
    rw [List.append_nil] at hdone
    exact ⟨hreg, hdone ▸ hids⟩

/-- The state between two findings of one evaluation: what waits for a flush does not come
again. -/
structure Storing (rest : List Finding) (s : Session schema) : Prop where
  sound : Sound tenantId s
  settled : s.pendingOf .evidence = []
  nodup : (rest.map (·.fingerprint)).Nodup
  waiting : ∀ f ∈ s.pendingOf .findings, f.fingerprint ∉ rest.map (·.fingerprint)

theorem Storing.skip {finding : Finding} {rest : List Finding} {s : Session schema}
    (h : Storing tenantId (finding :: rest) s) : Storing tenantId rest s where
  sound := h.sound
  settled := h.settled
  nodup := (List.nodup_cons.mp h.nodup).2
  waiting f hf hmem := h.waiting f hf (by simp [hmem])

theorem storeFinding_spec (acc : Created) (finding : Finding) (rest : List Finding) :
    Triple (fun w => Storing tenantId (finding :: rest) w.session)
      (storeFinding rt tenantId actorId acc finding)
      (fun _ w => Storing tenantId rest w.session) (fun e _ => NoDuplicateFinding e) := by
  unfold storeFinding
  have hsupp : Keeps (Storing tenantId (finding :: rest)) (fun e _ => NoDuplicateFinding e)
      (isSuppressed rt tenantId finding) := by
    unfold isSuppressed
    refine keeps_bind keeps_of_draw fun now => ?_
    refine keeps_bind keeps_select fun rows => ?_
    refine keeps_bind (keeps_compute fun _ _ _ hc => by cases hc) fun suppressed => ?_
    split
    · exact keeps_pure _
    · exact keeps_bind keeps_select fun _ => keeps_pure _
  refine triple_bind hsupp fun suppressed => ?_
  split
  · exact triple_pure fun w hw => hw.skip
  · refine triple_bind (Q := fun existing w => Storing tenantId (finding :: rest) w.session ∧
      (existing = none → ∀ f ∈ rowsIn w.session .findings tenantId,
        f.fingerprint ≠ finding.fingerprint)) ?_ fun existing => ?_
    · refine triple_selectOne ?_ ?_ ?_
      · intro w hw hnone
        refine ⟨hw, fun _ f hf hfp => ?_⟩
        obtain ⟨hmem, ht⟩ := mem_rowsIn.mp hf
        rcases List.mem_append.mp hmem with hmem | hmem
        · have hne := hnone f hmem ht
          exact absurd hfp (by simpa using hne)
        · exact hw.waiting f hmem (by simp [hfp])
      · intro w f hw _ _ _
        exact ⟨hw, fun h => nomatch h⟩
      · intro w _ _ hc
        cases hc
    · cases existing with
      | some _ => exact triple_pure fun w hw => hw.1.skip
      | none =>
          refine triple_from fun w hw => ?_
          obtain ⟨hstoring, hnew⟩ := hw
          have hstart : Registering tenantId w.session w.session :=
            ⟨hstoring.sound, hstoring.settled, Grows.refl _⟩
          have hnodup : finding.fingerprint ∉ rest.map (·.fingerprint) ∧
              (rest.map (·.fingerprint)).Nodup := List.nodup_cons.mp hstoring.nodup
          refine triple_bind
            ((registerAll_spec rt tenantId actorId w.session finding.eventIds).pre ?_)
            fun ids => ?_
          · rintro _ rfl
            exact hstart
          · refine ⟨?_⟩
            rintro w' ⟨hreg, hbacked⟩
            have hnew' : ∀ f ∈ rowsIn w'.session .findings tenantId,
                f.fingerprint ≠ finding.fingerprint := by
              intro f hf
              refine hnew rfl f (mem_rowsIn.mpr ?_)
              rw [← hreg.grows.findings]
              exact mem_rowsIn.mp hf
            refine ⟨hreg.sound.add_finding hnew' hbacked, ?_, hnodup.2, ?_⟩
            · rw [Session.add_pendingOf_of_ne (S := schema) _ (by decide),
                Session.add_pendingOf_of_ne (S := schema) _ (by decide)]
              exact hreg.settled
            · intro f hf
              rw [Session.add_pendingOf_of_ne (S := schema) _ (by decide),
                Session.add_pendingOf_self (S := schema)] at hf
              rcases List.mem_append.mp hf with hf | hf
              · intro hmem
                exact hstoring.waiting f (hreg.grows.pending hf) (by simp [hmem])
              · obtain rfl : f = findingRecord tenantId finding ids := by simpa using hf
                exact hnodup.1

theorem evaluateAndStoreFindings_quiet (context : DetectionContext) (event : CanonicalEvent) :
    Keeps (Quiet tenantId) (fun e _ => NoDuplicateFinding e)
      (evaluateAndStoreFindings rt tenantId actorId context event) := by
  unfold evaluateAndStoreFindings
  refine triple_bind (Q := fun findings w => Storing tenantId findings w.session)
    ?_ fun findings => ?_
  · refine triple_draw ?_ (fun _ _ _ _ _ hc => by cases hc)
    intro w findings ticks hw hrun
    have hnodup := (evaluateAll_fingerprints_nodup rt defaultRegistry_wellNamed
      defaultRegistry_ids_nodup event context).ok trivial hrun
    refine ⟨hw.sound, hw.evidence, hnodup, ?_⟩
    intro f hf
    rw [hw.findings] at hf
    cases hf
  · refine triple_bind (triple_loop (fun _ rest (w : World) => Storing tenantId rest w.session)
      (fun acc finding rest => storeFinding_spec rt tenantId actorId acc finding rest) _ findings)
      fun acc => ?_
    refine triple_bind (Q := fun _ w => Quiet tenantId w.session) ?_
      fun _ => triple_pure fun _ hw => hw
    refine triple_flush ?_ ?_
    · intro w s hw hflush
      exact hw.sound.flush hflush
    · intro w c hw hflush hc
      exact hw.sound.no_conflict hflush (Failure.integrityError.inj hc)

end

/-! ### Runs -/

/-- The tables that detections do not write. -/
def beside : List Table :=
  [.events, .deadLetters, .indicators, .entities, .relationships, .storylines, .incidents]

theorem ne_of_mem_beside {t : Table} (h : t ∈ beside) :
    t ≠ .findings ∧ t ≠ .alerts ∧ t ≠ .evidence := by
  revert h
  cases t <;> decide

theorem Quiet.frame {tenantId : String} {s s' : Session schema} (h : Quiet tenantId s)
    (hstored : ∀ t ∈ [Table.findings, .alerts, .evidence], s'.stored t = s.stored t)
    (hpending : ∀ t ∈ [Table.findings, .alerts, .evidence], s'.pendingOf t = s.pendingOf t)
    (hevents : s.stored .events ⊆ s'.stored .events) : Quiet tenantId s' := by
  have hall : ∀ t ∈ [Table.findings, .alerts, .evidence], s'.all t = s.all t := by
    intro t ht
    unfold Session.all
    rw [hstored t ht, hpending t ht]
  refine ⟨h.sound.frame ?_ (hall _ (by decide)) (hall _ (by decide)) (hall _ (by decide)) hevents,
    ?_, ?_⟩
  · rw [hstored _ (by decide)]
    exact h.sound.keyed
  · rw [hpending _ (by decide)]
    exact h.findings
  · rw [hpending _ (by decide)]
    exact h.evidence

theorem quiet_stable (tenantId : String) :
    Stable (Quiet tenantId) (fun e _ => NoDuplicateFinding e) beside where
  add {t} r s ht hs := by
    refine hs.frame (fun _ _ => rfl) ?_ (List.Subset.refl _)
    have hne := ne_of_mem_beside ht
    simp [hne]
  update {t} f s ht hev hs := by
    have hne := ne_of_mem_beside ht
    refine hs.frame ?_ (fun _ _ => rfl) ?_
    · simp [hne]
    · rw [Session.update_stored_of_ne (S := schema) s hev]
      exact List.Subset.refl _
  delete {t} p s ht hev hs := by
    have hne := ne_of_mem_beside ht
    refine hs.frame ?_ (fun _ _ => rfl) ?_
    · simp [hne]
    · rw [Session.delete_stored_of_ne (S := schema) s hev]
      exact List.Subset.refl _
  flush := by
    refine keeps_flush (fun s s' hs hflush => hs.sound.flush hflush) ?_
    intro w c hw hflush hc
    exact hw.sound.no_conflict hflush (Failure.integrityError.inj hc)
  python _ _ _ hc := by cases hc
  multiple _ _ _ _ hc := by cases hc
  missing _ _ _ _ _ hc := by cases hc

theorem call_quiet (rt : Runtime) (tenantId : String) (call : Call) :
    Keeps (Quiet tenantId) (fun e _ => NoDuplicateFinding e) (call.body rt tenantId) := by
  have hstable := quiet_stable tenantId
  refine call_keeps rt tenantId hstable (by decide) (fun hc => by cases hc) call ?_
    (evaluateAndStoreFindings_quiet rt tenantId)
  intro payload _ row _ s hs
  exact hstable.add (t := .events) row s (by decide) hs

/-- A committed state in which no detection has run for the tenant yet; other tenants may have
rows, and the tenant other rows. -/
structure Blank (tenantId : String) (w : World) : Prop where
  committed : w.session.pending = []
  keyed : schema.Keyed (w.session.stored .findings)
  findings : w.rowsOf .findings tenantId = []
  alerts : w.rowsOf .alerts tenantId = []
  evidence : w.rowsOf .evidence tenantId = []

/-- What the tenant's findings, alerts and evidence are like. -/
structure StoreIntegrity (tenantId : String) (w : World) : Prop where
  unique : (w.rowsOf .findings tenantId).Pairwise fun f f' => f.fingerprint ≠ f'.fingerprint
  alerted : ∀ f ∈ w.rowsOf .findings tenantId,
    ((w.rowsOf .alerts tenantId).filter fun a => a.findingId = f.id).length = 1
  grounded : ∀ a ∈ w.rowsOf .alerts tenantId,
    ((w.rowsOf .findings tenantId).filter fun f => f.id = a.findingId).length = 1
  evidence : ∀ f ∈ w.rowsOf .findings tenantId,
    List.Forall₂ (fun eventId evidenceId =>
      (∃ e ∈ w.rowsOf .evidence tenantId,
        e.id = evidenceId ∧ e.sealed = true ∧ e.source = "event:" ++ eventId) ∧
      ∃ ev ∈ w.rowsOf .events tenantId, ev.id = eventId) f.eventIds f.evidenceIds
  sources : (w.rowsOf .evidence tenantId).Pairwise fun e e' => e.source ≠ e'.source

theorem rowsIn_of_committed {w : World} (h : w.session.pending = []) (t : Table)
    (tenantId : String) : rowsIn w.session t tenantId = w.rowsOf t tenantId := by
  unfold rowsIn World.rowsOf Session.all Session.pendingOf
  rw [h, List.filterMap_nil, List.append_nil]

theorem Blank.quiet {tenantId : String} {w : World} (h : Blank tenantId w) :
    Quiet tenantId w.session := by
  have hrows := fun t => rowsIn_of_committed h.committed t tenantId
  refine ⟨⟨h.keyed, ?_, ?_, ?_, ?_, ?_⟩, ?_, ?_⟩
  · unfold Session.all Session.pendingOf
    rw [h.committed, List.filterMap_nil, List.append_nil]
    exact h.keyed.imp fun hne => hne.2
  · rw [hrows, hrows, h.findings, h.alerts]
    rfl
  · rw [hrows, h.evidence]
    exact .nil
  · rw [hrows, h.evidence]
    simp
  · rw [hrows, h.findings]
    simp
  · simp [Session.pendingOf, h.committed]
  · simp [Session.pendingOf, h.committed]

/-- Where the values of one column are the distinct keys of another table, each key is the value of
exactly one row. -/
theorem length_filter_eq_one {α β : Type} {f : α → String} {g : β → String} {as : List α}
    {bs : List β} (hmap : as.map f = bs.map g) (hnodup : (bs.map g).Nodup) {b : β} (hb : b ∈ bs) :
    (as.filter fun a => f a = g b).length = 1 := by
  have hmem : g b ∈ as.map f := by
    rw [hmap]
    exact List.mem_map_of_mem hb
  have hcount := List.count_eq_one_of_mem (hmap ▸ hnodup) hmem
  rw [List.count_eq_countP, List.countP_map, List.countP_eq_length_filter] at hcount
  simpa [Function.comp_def, beq_eq_decide] using hcount

theorem Quiet.integrity {tenantId : String} {w : World} (h : Quiet tenantId w.session)
    (hcommitted : w.session.pending = []) : StoreIntegrity tenantId w := by
  have hrows := fun t => rowsIn_of_committed hcommitted t tenantId
  have halerted := h.sound.alerted
  rw [hrows, hrows] at halerted
  have hids : ((w.rowsOf .findings tenantId).map (·.id)).Nodup := by
    have hkeyed := h.sound.keyed.filter fun r : Table.findings.Row =>
      Table.tenantId r = tenantId
    exact List.pairwise_map.mpr (hkeyed.imp fun hne => hne.1)
  refine ⟨?_, ?_, ?_, ?_, ?_⟩
  · have hkeyed := h.sound.keyed.filter fun r : Table.findings.Row =>
      Table.tenantId r = tenantId
    refine hkeyed.imp_of_mem ?_
    intro f f' hf hf' hne hfp
    have ht : Table.tenantId f = Table.tenantId f' :=
      (World.mem_rowsOf.mp hf).2.trans (World.mem_rowsOf.mp hf').2.symm
    refine hne.2 ⟨ht, ?_, rfl⟩
    show some [f.fingerprint] = some [f'.fingerprint]
    rw [hfp]
  · intro f hf
    exact length_filter_eq_one halerted hids hf
  · intro a ha
    exact length_filter_eq_one halerted.symm (halerted ▸ hids) ha
  · intro f hf
    have hbacked := h.sound.backed f (by rw [hrows]; exact hf)
    refine hbacked.imp ?_
    rintro eventId evidenceId ⟨hevidence, ev, hev, ht, hid⟩
    rw [hrows] at hevidence
    exact ⟨hevidence, ev, World.mem_rowsOf.mpr ⟨hev, ht⟩, hid⟩
  · rw [← hrows]
    exact h.sound.sources

theorem runCalls_quiet (rt : Runtime) (tenantId : String) (calls : List Call) {w : World}
    (hw : Quiet tenantId w.session) (hpending : w.session.pending = []) :
    Quiet tenantId (runCalls rt tenantId w calls).session ∧
      (runCalls rt tenantId w calls).session.pending = [] := by
  induction calls generalizing w with
  | nil => exact ⟨hw, hpending⟩
  | cons call calls ih =>
      have hkeeps := request_keeps (call_quiet rt tenantId call) (quiet_stable tenantId).flush hw
      exact ih hkeeps.1 (request_pending hpending)

/-- In every committed state that calls of a tenant lead to, its findings are unique by
fingerprint, alerted once and backed by sealed evidence, one for each event; and no further call
violates the unique constraint of the findings. -/
theorem detection_store_integrity (rt : Runtime) (tenantId : String) (w : World)
    (hw : Blank tenantId w) (calls : List Call) :
    StoreIntegrity tenantId (runCalls rt tenantId w calls) ∧
      ∀ call : Call, (request (call.body rt tenantId) (runCalls rt tenantId w calls)).1 ≠
        .error (.integrityError (.unique .findings)) := by
  obtain ⟨hquiet, hpending⟩ := runCalls_quiet rt tenantId calls hw.quiet hw.committed
  refine ⟨hquiet.integrity hpending, ?_⟩
  intro call hraise
  exact (request_keeps (call_quiet rt tenantId call) (quiet_stable tenantId).flush hquiet).2 _
    hraise rfl

theorem blank_emptyWorld (tenantId : String) : Blank tenantId emptyWorld :=
  ⟨rfl, .nil, rfl, rfl, rfl⟩

theorem detection_store_integrity_emptyWorld :
    StoreIntegrity "ten_a" (runCalls sampleRuntime "ten_a" emptyWorld
        [.ingest "usr_1" [officePayload, beaconPayload], .scheduled "usr_1"]) ∧
      ∀ call : Call, (request (call.body sampleRuntime "ten_a")
        (runCalls sampleRuntime "ten_a" emptyWorld
          [.ingest "usr_1" [officePayload, beaconPayload], .scheduled "usr_1"])).1 ≠
          .error (.integrityError (.unique .findings)) :=
  detection_store_integrity sampleRuntime "ten_a" emptyWorld (blank_emptyWorld "ten_a") _

end BlueTeam.Services
