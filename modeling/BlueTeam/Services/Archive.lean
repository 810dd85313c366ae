/- GID: BlueTeam/Services/Archive
   generality: I
   source: services/api/app/services/incidents.py, evidence.py, ingestion.py
   digest: Events stay, incidents and evidence only grow, whatever service runs. -/

import BlueTeam.Ingest.Routes
import BlueTeam.Lib.Succession
import BlueTeam.Services.Custody
import BlueTeam.Services.Upkeep

set_option autoImplicit false
set_option relaxedAutoImplicit false

namespace BlueTeam.Services

open BlueTeam.Python BlueTeam.Schema BlueTeam.Lib BlueTeam.Lib.Exec BlueTeam.Detection BlueTeam.Ingest

/-! ### What becomes of a record -/

/-- An incident before and after: who it is and what it rests on stay, its histories grow. -/
structure IncidentCarried (r r' : IncidentRecord) : Prop extends IncidentGrown r r' where
  fingerprint : r'.fingerprint = r.fingerprint
  sourceAlertId : r'.sourceAlertId = r.sourceAlertId
  storylineIds : r.storylineIds <+: r'.storylineIds
  eventIds : r'.eventIds = r.eventIds
  createdAt : r'.createdAt = r.createdAt

theorem IncidentCarried.refl (r : IncidentRecord) : IncidentCarried r r :=
  ⟨IncidentGrown.refl r, rfl, rfl, List.prefix_refl _, rfl, rfl⟩

theorem IncidentCarried.trans {r r' r'' : IncidentRecord} (h : IncidentCarried r r')
    (h' : IncidentCarried r' r'') : IncidentCarried r r'' where
  toIncidentGrown := h.toIncidentGrown.trans h'.toIncidentGrown
  fingerprint := h'.fingerprint.trans h.fingerprint
  sourceAlertId := h'.sourceAlertId.trans h.sourceAlertId
  storylineIds := h.storylineIds.trans h'.storylineIds
  eventIds := h'.eventIds.trans h.eventIds
  createdAt := h'.createdAt.trans h.createdAt

/-- `list(payload.get("chain_of_custody") or [])` -/
def custodyOf (e : Evidence) : Except Exn (List Json) :=
  listOf (Json.orElse (Json.get e.payload "chain_of_custody") (.arr []))

/-- Evidence before and after: what it attests stays, and both of its histories grow. -/
structure EvidenceCarried (e e' : Evidence) : Prop extends EvidenceGrown e e' where
  source : e'.source = e.source
  integrityHash : e'.integrityHash = e.integrityHash
  collectorIdentity : e'.collectorIdentity = e.collectorIdentity
  ingestedAt : e'.ingestedAt = e.ingestedAt
  custody : ∀ chain, custodyOf e = .ok chain → ∃ more, custodyOf e' = .ok (chain ++ more)
  attested : ∀ key, key ≠ "chain_of_custody" → Json.get e'.payload key = Json.get e.payload key

theorem EvidenceCarried.refl (e : Evidence) : EvidenceCarried e e :=
  ⟨EvidenceGrown.refl e, rfl, rfl, rfl, rfl, fun chain h => ⟨[], by rw [List.append_nil, h]⟩,
    fun _ _ => rfl⟩

theorem EvidenceCarried.trans {e e' e'' : Evidence} (h : EvidenceCarried e e')
    (h' : EvidenceCarried e' e'') : EvidenceCarried e e'' where
  toEvidenceGrown := h.toEvidenceGrown.trans h'.toEvidenceGrown
  source := h'.source.trans h.source
  integrityHash := h'.integrityHash.trans h.integrityHash
  collectorIdentity := h'.collectorIdentity.trans h.collectorIdentity
  ingestedAt := h'.ingestedAt.trans h.ingestedAt
  custody chain hchain := by
    obtain ⟨more, hmore⟩ := h.custody chain hchain
    obtain ⟨rest, hrest⟩ := h'.custody _ hmore
    exact ⟨more ++ rest, by rw [hrest, List.append_assoc]⟩
  attested key hkey := (h'.attested key hkey).trans (h.attested key hkey)

theorem listOf_orElse_arr (items : List Json) :
    listOf (Json.orElse (.arr items) (.arr [])) = .ok items := by
  cases items <;> rfl

/-- An event of custody is put at the end of the chain. -/
theorem evidenceCarried_custody {e : Evidence} {chain : List Json} (event : Json)
    (h : custodyOf e = .ok chain) : EvidenceCarried e
      { e with payload := Json.setKey e.payload "chain_of_custody" (.arr (chain ++ [event])) } where
  toEvidenceGrown := ⟨rfl, rfl, rfl, List.prefix_refl _, fun _ => rfl, fun hne => absurd rfl hne⟩
  source := rfl
  integrityHash := rfl
  collectorIdentity := rfl
  ingestedAt := rfl
  custody known hknown := by
    rw [h] at hknown
    obtain rfl := Except.ok.inj hknown
    refine ⟨[event], ?_⟩
    unfold custodyOf Json.get
    rw [lookup_setKey_self]
    exact listOf_orElse_arr _
  attested key hkey := get_setKey_of_ne hkey _

theorem Links.carried {s : Session schema} {incident : IncidentRecord} {edit : Edit}
    {loaded changed : Evidence} (h : Links s incident edit loaded changed) :
    EvidenceCarried loaded changed := by
  have hgrown := h.evidence_grown
  obtain ⟨link, rfl⟩ := h.linked
  exact ⟨hgrown, rfl, rfl, rfl, rfl, (EvidenceCarried.refl loaded).custody, fun _ _ => rfl⟩

theorem Edits.carried {s : Session schema} {incident : IncidentRecord} {op : IncidentOp}
    {edit : Edit} (h : Edits s incident op edit) :
    IncidentCarried incident (flushIncident edit.loaded edit.changed incident) :=
  ⟨h.incident_grown, rfl, rfl, List.prefix_refl _, rfl, rfl⟩

/-! ### The invariant -/

/-- An incident of an alert is under the fingerprint of the alert. -/
def Sourced (r : IncidentRecord) : Prop :=
  ∀ alertId, r.sourceAlertId = some alertId → r.fingerprint = "alert:" ++ alertId

theorem IncidentCarried.sourced {r r' : IncidentRecord} (h : IncidentCarried r r')
    (hr : Sourced r) : Sourced r' := by
  intro alertId hsource
  rw [h.sourceAlertId] at hsource
  rw [h.fingerprint]
  exact hr alertId hsource

/-- The constraints hold, and the records that were there are there still, grown. -/
structure Archived (base : Database schema) (s : Session schema) : Prop where
  keyed : ∀ t : Table, t ∈ [Table.events, .evidence, .incidents] → schema.Keyed (s.stored t)
  events : Succeeded (S := schema) (t := .events) Eq (base .events) s
  evidence : Succeeded (S := schema) (t := .evidence) EvidenceCarried (base .evidence) s
  incidents : Succeeded (S := schema) (t := .incidents) IncidentCarried (base .incidents) s
  origins : ∀ r ∈ s.all .incidents, Sourced r ∨ ∃ r₀ ∈ base .incidents, IncidentCarried r₀ r

/-- The tables of the other records. -/
def besideArchive : List Table :=
  [.deadLetters, .findings, .alerts, .indicators, .suppressions, .exceptions, .entities,
   .relationships, .storylines]

theorem ne_of_mem_besideArchive {t : Table} (h : t ∈ besideArchive) :
    t ≠ .events ∧ t ≠ .evidence ∧ t ≠ .incidents := by
  revert h
  cases t <;> decide

section

variable {base : Database schema} {s s' : Session schema}

theorem Archived.start (hpending : s.pending = []) (hkeyed : ∀ t, schema.Keyed (s.stored t)) :
    Archived s.stored s where
  keyed t _ := hkeyed t
  events := .start (fun _ => rfl) s
  evidence := .start EvidenceCarried.refl s
  incidents := .start IncidentCarried.refl s
  origins r hr := by
    unfold Session.all Session.pendingOf at hr
    rw [hpending, List.filterMap_nil, List.append_nil] at hr
    exact .inr ⟨r, hr, IncidentCarried.refl r⟩

theorem Archived.flush (h : Archived base s) (hflush : s.flush = .ok s') : Archived base s' where
  keyed t ht := Session.flush_keyed (h.keyed t ht) hflush
  events := h.events.flush hflush
  evidence := h.evidence.flush hflush
  incidents := h.incidents.flush hflush
  origins r hr := by
    rw [Session.flush_all hflush] at hr
    exact h.origins r hr

theorem Archived.add (h : Archived base s) {t : Table} (ht : t ≠ .incidents) (r : t.Row) :
    Archived base (s.add (S := schema) r) where
  keyed := h.keyed
  events := h.events.add r
  evidence := h.evidence.add r
  incidents := h.incidents.add r
  origins r' hr' := by
    rw [Session.add_all_of_ne (S := schema) s ht] at hr'
    exact h.origins r' hr'

theorem Archived.add_incident (h : Archived base s) {r : IncidentRecord} (hr : Sourced r) :
    Archived base (s.add (S := schema) (t := .incidents) r) where
  keyed := h.keyed
  events := h.events.add (u := .incidents) r
  evidence := h.evidence.add (u := .incidents) r
  incidents := h.incidents.add (u := .incidents) r
  origins r' hr' := by
    rw [Session.add_all_self (S := schema)] at hr'
    rcases List.mem_append.mp hr' with hr' | hr'
    · exact h.origins r' hr'
    · obtain rfl := List.mem_singleton.mp hr'
      exact .inl hr

/-- Writes to the other tables. -/
theorem Archived.elsewhere (h : Archived base s) {t : Table} (ht : t ∈ besideArchive)
    {rows : List t.Row} {s' : Session schema} (hstored : s'.stored = s.stored.set t rows)
    (hpending : s'.pending = s.pending) : Archived base s' := by
  obtain ⟨hevents, hevidence, hincidents⟩ := ne_of_mem_besideArchive ht
  have hsame : ∀ u : Table, t ≠ u → s'.stored u = s.stored u := by
    intro u hu
    rw [hstored]
    exact Database.set_of_ne hu _
  have hall : s'.all .incidents = s.all .incidents := by
    unfold Session.all Session.pendingOf
    rw [hsame _ hincidents, hpending]
  refine ⟨?_, ?_, ?_, ?_, ?_⟩
  · intro u hu
    have hne : t ≠ u := by
      rintro rfl
      revert hu ht
      cases t <;> decide
    rw [hsame u hne]
    exact h.keyed u hu
  · intro r hr
    rw [hsame _ hevents]
    exact h.events r hr
  · intro r hr
    rw [hsame _ hevidence]
    exact h.evidence r hr
  · intro r hr
    rw [hsame _ hincidents]
    exact h.incidents r hr
  · rw [hall]
    exact h.origins

/-- Incidents that change as they may. -/
theorem Archived.update_incidents (h : Archived base s) {f : IncidentRecord → IncidentRecord}
    (hf : ∀ r ∈ s.stored .incidents, IncidentCarried r (f r))
    (hkey : ∀ r, (f r).id = r.id ∧ (f r).tenantId = r.tenantId ∧
      (f r).fingerprint = r.fingerprint) : Archived base (s.update .incidents f) where
  keyed t ht := by
    by_cases hi : Table.incidents = t
    · subst hi
      rw [Session.update_stored_self (S := schema)]
      refine (h.keyed _ ht).map fun r => ?_
      obtain ⟨hid, htenant, hfingerprint⟩ := hkey r
      exact ⟨hid, htenant, congrArg (fun text => some [text]) hfingerprint⟩
    · rw [Session.update_stored_of_ne (S := schema) s hi]
      exact h.keyed t ht
  events := h.events.update_of_ne (u := .incidents) (by decide) f
  evidence := h.evidence.update_of_ne (u := .incidents) (by decide) f
  incidents := h.incidents.update (fun _ _ _ => IncidentCarried.trans) hf
  origins r hr := by
    unfold Session.all at hr
    rw [Session.update_stored_self (S := schema)] at hr
    rcases List.mem_append.mp hr with hr | hr
    · obtain ⟨r', hr', rfl⟩ := List.mem_map.mp hr
      have hcarried := hf r' hr'
      rcases h.origins r' (List.mem_append_left _ hr') with hsourced | ⟨r₀, hr₀, hbefore⟩
      · exact .inl (hcarried.sourced hsourced)
      · exact .inr ⟨r₀, hr₀, hbefore.trans hcarried⟩
    · exact h.origins r (List.mem_append_right _ hr)

/-- Evidence that changes as it may. -/
theorem Archived.update_evidence (h : Archived base s) {f : Evidence → Evidence}
    (hf : ∀ e ∈ s.stored .evidence, EvidenceCarried e (f e))
    (hkey : ∀ e, (f e).id = e.id ∧ (f e).tenantId = e.tenantId) :
    Archived base (s.update .evidence f) where
  keyed t ht := by
    by_cases he : Table.evidence = t
    · subst he
      rw [Session.update_stored_self (S := schema)]
      exact (h.keyed _ ht).map fun e => ⟨(hkey e).1, (hkey e).2, rfl⟩
    · rw [Session.update_stored_of_ne (S := schema) s he]
      exact h.keyed t ht
  events := h.events.update_of_ne (u := .evidence) (by decide) f
  evidence := h.evidence.update (fun _ _ _ => EvidenceCarried.trans) hf
  incidents := h.incidents.update_of_ne (u := .evidence) (by decide) f
  origins r hr := by
    rw [Session.update_all_of_ne (S := schema) s (by decide)] at hr
    exact h.origins r hr

theorem archived_stable (base : Database schema) :
    Stable (Archived base) (fun _ _ => True) (.events :: besideArchive) where
  add {t} r s ht hs := by
    refine hs.add ?_ r
    rcases List.mem_cons.mp ht with rfl | ht
    · decide
    · exact (ne_of_mem_besideArchive ht).2.2
  update {t} f s ht hevents hs :=
    hs.elsewhere ((List.mem_cons.mp ht).resolve_left hevents) rfl rfl
  delete {t} p s ht hevents hs :=
    hs.elsewhere ((List.mem_cons.mp ht).resolve_left hevents) rfl rfl
  flush := keeps_flush (fun _ _ hs hflush => hs.flush hflush) (fun _ _ _ _ => trivial)
  python _ _ _ := trivial
  multiple _ _ _ _ := trivial
  missing _ _ _ _ _ := trivial

/-- The edit of an incident that was loaded from this session. -/
theorem Archived.apply (h : Archived base s) {incident : IncidentRecord} {op : IncidentOp}
    {edit : Edit} (hincident : incident ∈ s.stored .incidents) (hedit : Edits s incident op edit) :
    Archived base (edit.apply s) := by
  have hfirst : Archived base (s.update .incidents fun r =>
      if r.id = edit.loaded.id then flushIncident edit.loaded edit.changed r else r) := by
    refine h.update_incidents (fun r hr => ?_) fun r => ?_
    · split
      · rename_i hid
        rw [hedit.loaded] at hid
        obtain rfl := eq_of_mem_of_key (h.keyed .incidents (by decide)).nodup hr hincident hid
        exact hedit.carried
      · exact IncidentCarried.refl r
    · split
      · exact ⟨rfl, rfl, rfl⟩
      · exact ⟨rfl, rfl, rfl⟩
  unfold Edit.apply
  cases hevidence : edit.evidence with
  | none => exact hfirst
  | some pair =>
      obtain ⟨loaded, changed⟩ := pair
      have hlinks := hedit.evidence loaded changed hevidence
      refine hfirst.update_evidence (fun e he => ?_) fun e => ?_
      · rw [Session.update_stored_of_ne (S := schema) s (by decide)] at he
        split
        · rename_i hid
          obtain rfl := eq_of_mem_of_key (h.keyed .evidence (by decide)).nodup he hlinks.stored hid
          rw [hlinks.flushed]
          exact hlinks.carried
        · exact EvidenceCarried.refl e
      · split
        · exact ⟨rfl, rfl⟩
        · exact ⟨rfl, rfl⟩

end

/-! ### The services -/

section

variable {base : Database schema} (rt : Runtime) (tenantId : String)

theorem persistStory_archived (story : Storyline) :
    Upkeeps (Archived base) (persistStory rt tenantId story) := by
  refine persistStory_files rt tenantId (archived_stable base) story ?_ ?_ ?_ fun _ _ => trivial
  · intro r s _ hsource hs
    refine hs.add_incident fun alertId hsome => ?_
    rw [hsource] at hsome
    cases hsome
  · exact fun r s _ hs => hs.add (t := .storylines) (by decide) r
  · intro change s hchange hs
    refine hs.update_incidents (fun r _ => ?_) fun r => ?_
    · obtain ⟨more, now, hr⟩ := hchange r
      rw [hr]
      exact ⟨⟨rfl, rfl, List.prefix_refl _, List.prefix_refl _, List.prefix_refl _,
        List.prefix_refl _⟩, rfl, rfl, List.prefix_append _ _, rfl, rfl⟩
    · obtain ⟨more, now, hr⟩ := hchange r
      rw [hr]
      exact ⟨rfl, rfl, rfl⟩

theorem persistStorylinesAndIncidents_archived :
    Upkeeps (Archived base) (persistStorylinesAndIncidents rt tenantId) := by
  unfold persistStorylinesAndIncidents
  refine keeps_bind (loadWindow_keeps tenantId) fun events => ?_
  refine keeps_bind (listFindings_keeps tenantId) fun findings => ?_
  refine keeps_bind (upkeeps_draw _) fun stories => ?_
  refine keeps_bind (keeps_loop (fun _ story _ => persistStory_archived rt tenantId story) _)
    fun _ => ?_
  exact (archived_stable base).flush

theorem createFromAlert_archived (alertId actorId : String) :
    Upkeeps (Archived base) (createFromAlert rt tenantId alertId actorId) := by
  have hstable := archived_stable base
  unfold createFromAlert
  refine triple_bind (Q := fun found w =>
    (∀ alert : Alert, found = some alert → alert.id = alertId) ∧ Archived base w.session)
    (triple_selectOne (fun w hw _ => ⟨fun _ h => (by cases h), hw⟩)
      (fun w r hw _ _ hp => ⟨fun alert h => ?_, hw⟩) fun _ _ _ => trivial) fun found => ?_
  · obtain rfl := Option.some.inj h
    simpa using hp
  apply triple_given
  intro hfound
  cases found with
  | none => exact upkeeps_raise _
  | some alert =>
      refine keeps_bind (keeps_selectOne fun _ _ => trivial) fun existing => ?_
      cases existing with
      | some existing => exact keeps_pure _
      | none =>
          refine keeps_bind (upkeeps_draw _) fun now => ?_
          refine keeps_bind (upkeeps_draw _) fun id => ?_
          refine keeps_bind (upkeeps_draw _) fun created => ?_
          refine keeps_bind (keeps_update fun s hs =>
            hstable.update (t := .alerts) _ s (by decide) (by decide) hs) fun _ => ?_
          refine keeps_bind (keeps_add fun s hs => hs.add_incident fun source hsource => ?_)
            fun _ => ?_
          · obtain rfl := Option.some.inj hsource
            rw [hfound alert rfl]
          · exact keeps_bind hstable.flush fun _ => keeps_pure _

theorem edit_archived (request : IncidentRequest) :
    UpkeepsBoth (Archived base) (request.load rt) Edit.save := by
  refine ⟨fun edit s => Archived base s ∧ ∃ incident ∈ s.stored .incidents,
    Edits s incident request.op edit, ?_, fun edit => ?_⟩
  · refine triple_from fun w₀ hw₀ => (load_reads rt w₀.session request).conseq ?_ ?_ ?_
    · rintro _ rfl
      rfl
    · rintro edit w ⟨hsession, incident, hmem, -, -, hedit⟩
      rw [hsession]
      exact ⟨hw₀, incident, hmem, hedit⟩
    · exact fun _ _ _ => trivial
  · have hsave : edit.save = (Exec.modify fun w : World =>
        { w with session := edit.apply w.session }) >>= fun _ => flush := by
      unfold Edit.save Edit.apply
      cases edit.evidence with
      | none => rfl
      | some pair => rfl
    rw [hsave]
    refine triple_bind (Q := fun _ (w : World) => Archived base w.session) ?_ fun _ =>
      (archived_stable base).flush
    apply triple_modify
    rintro w ⟨hw, incident, hmem, hedit⟩
    exact hw.apply hmem hedit

theorem appendCustody_archived (evidenceId actorId action : String) (notes : Option String) :
    Upkeeps (Archived base) (appendCustody rt tenantId evidenceId actorId action notes) := by
  unfold appendCustody
  refine keeps_bind (keeps_selectOne fun _ _ => trivial) fun found => ?_
  cases found with
  | none => exact upkeeps_raise _
  | some row =>
      refine triple_bind (Q := fun chain w => custodyOf row = .ok chain ∧ Archived base w.session)
        (triple_compute (fun _ _ hrun hw => ⟨hrun, hw⟩) fun _ _ _ _ => trivial) fun chain => ?_
      apply triple_given
      intro hchain
      refine keeps_bind (upkeeps_draw _) fun id => ?_
      refine keeps_bind (upkeeps_draw _) fun at_ => ?_
      refine keeps_bind (keeps_update fun s hs => hs.update_evidence (fun e _ => ?_) fun e => ?_)
        fun _ => ?_
      · split
        · rename_i hrow
          subst hrow
          exact evidenceCarried_custody _ hchain
        · exact EvidenceCarried.refl e
      · split
        · exact ⟨rfl, rfl⟩
        · exact ⟨rfl, rfl⟩
      · exact keeps_bind (archived_stable base).flush fun _ => keeps_pure _

/-- No service takes an event, an incident or evidence back. -/
theorem archived_upheld (base : Database schema) : Upheld rt tenantId (Archived base) := by
  have hstable := archived_stable base
  refine upheld_of_stable rt tenantId (hstable.subset (by decide))
    (fun row s hs => hs.add (t := .suppressions) (by decide) row)
    (fun row s hs => hs.add (t := .exceptions) (by decide) row) ?_
    (persistStorylinesAndIncidents_archived rt tenantId) (createFromAlert_archived rt tenantId)
    (fun request _ => edit_archived rt request) (appendCustody_archived rt tenantId)
  intro actorId context event
  exact evaluateAndStoreFindings_adds rt tenantId hstable
    (fun r s hs => hs.add (t := .evidence) (by decide) r) (by decide) actorId context event
    fun _ _ _ s hs => hs.add (t := .findings) (by decide) _

end

/-! ### What an archive answers -/

/-- The incidents that the tenant's alert was converted to. -/
def conversionsOf (s : Session schema) (tenantId alertId : String) : List IncidentRecord :=
  (s.stored .incidents).filter fun r : IncidentRecord =>
    decide (r.tenantId = tenantId) && decide (r.sourceAlertId = some alertId)

section

variable {tenantId : String} {w : World}

/-- Evidence that was intact is intact. -/
theorem Archived.intact {v : World} (h : Archived w.session.stored v.session)
    {evidenceId : String} (hintact : Intact tenantId evidenceId w) :
    Intact tenantId evidenceId v := by
  obtain ⟨row, hfound⟩ := hintact.found
  have hrow : row ∈ w.under .evidence tenantId evidenceId := by
    rw [hfound]
    exact List.mem_singleton.mpr rfl
  obtain ⟨hmem, rfl⟩ := World.mem_under.mp hrow
  obtain ⟨hstored, htenant⟩ := World.mem_rowsOf.mp hmem
  obtain ⟨row', hrow', hcarried⟩ := h.evidence row hstored
  have hown : row' ∈ v.rowsOf .evidence tenantId :=
    World.mem_rowsOf.mpr ⟨hrow', hcarried.tenant.trans htenant⟩
  have hfound' := World.under_self (h.keyed .evidence (by decide)) hown
  have hid : Table.id (t := .evidence) row' = Table.id (t := .evidence) row := hcarried.id
  rw [hid] at hfound'
  rw [intact_iff_of_found hfound']
  rw [intact_iff_of_found hfound] at hintact
  intro eventId hsource
  rw [hcarried.source] at hsource
  obtain ⟨event, hevent, hhash⟩ := hintact eventId hsource
  have hunder : event ∈ w.under .events tenantId eventId := by
    rw [hevent]
    exact List.mem_singleton.mpr rfl
  obtain ⟨hrows, rfl⟩ := World.mem_under.mp hunder
  obtain ⟨hkept, htenant'⟩ := World.mem_rowsOf.mp hrows
  refine ⟨event, ?_, hhash.trans hcarried.integrityHash.symm⟩
  exact World.under_self (h.keyed .events (by decide))
    (World.mem_rowsOf.mpr ⟨h.events.subset hkept, htenant'⟩)

/-- The incident of an alert is the only one of it. -/
theorem Archived.conversion {base : Database schema} {s : Session schema} (h : Archived base s)
    (hsourced : ∀ r ∈ base .incidents, Sourced r) {incident : IncidentRecord}
    (hincident : incident ∈ base .incidents) {alertId : String}
    (hsource : incident.sourceAlertId = some alertId) :
    ∃ incident', IncidentCarried incident incident' ∧
      conversionsOf s incident.tenantId alertId = [incident'] := by
  obtain ⟨incident', hstored, hcarried⟩ := h.incidents incident hincident
  have hfingerprint : ∀ r ∈ s.stored .incidents, IncidentRecord.sourceAlertId r = some alertId →
      r.fingerprint = "alert:" ++ alertId := by
    intro r hr hsome
    rcases h.origins r (List.mem_append_left _ hr) with hown | ⟨r₀, hr₀, hbefore⟩
    · exact hown alertId hsome
    · exact hbefore.sourced (hsourced r₀ hr₀) alertId hsome
  have hsource' := hcarried.sourceAlertId.trans hsource
  refine ⟨incident', hcarried, ?_⟩
  apply Schema.filter_eq_singleton (h.keyed .incidents (by decide)) hstored
  · exact Bool.and_eq_true_iff.mpr ⟨decide_eq_true hcarried.tenant, decide_eq_true hsource'⟩
  · intro r hr hsame
    obtain ⟨htenant, hsome⟩ := Bool.and_eq_true_iff.mp hsame
    have htenants := (of_decide_eq_true htenant).trans hcarried.tenant.symm
    have hfingerprints := (hfingerprint r hr (of_decide_eq_true hsome)).trans
      (hfingerprint incident' hstored hsource').symm
    have hunique := congrArg (fun text => some [text]) hfingerprints
    exact ⟨fun hne => hne.2 ⟨htenants, hunique, rfl⟩,
      fun hne => hne.2 ⟨htenants.symm, hunique.symm, rfl⟩⟩

/-- An alert that has its incident is not converted again. -/
theorem createFromAlert_found (rt : Runtime) {alertId actorId : String} {alert : Alert}
    {incident : IncidentRecord} (halert : w.under .alerts tenantId alertId = [alert])
    (hincident : conversionsOf w.session tenantId alertId = [incident]) :
    createFromAlert rt tenantId alertId actorId w = (.ok incident, w) := by
  have hfirst : selectOne .alerts tenantId (fun r => r.id = alertId) w = (.ok (some alert), w) := by
    show (scalarOneOrNone (w.under .alerts tenantId alertId), w) = _
    rw [halert]
    rfl
  have hsecond : selectOne .incidents tenantId (fun r => r.sourceAlertId = some alertId) w =
      (.ok (some incident), w) := by
    show (scalarOneOrNone (t := .incidents) (conversionsOf w.session tenantId alertId), w) = _
    rw [hincident]
    rfl
  unfold createFromAlert
  rw [bind_run, hfirst]
  simp only [andThen, bind_run, hsecond, pure_run]

end

end BlueTeam.Services
