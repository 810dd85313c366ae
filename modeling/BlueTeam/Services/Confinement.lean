/- GID: BlueTeam/Services/Confinement
   generality: I
   source: services/api/app/services
   digest: No service changes a row of another tenant than the one it is called for. -/

import BlueTeam.Detection.Windows
import BlueTeam.Lib.Tenancy
import BlueTeam.Services.Evidence
import BlueTeam.Services.Expiry
import BlueTeam.Services.Incidents
import BlueTeam.Services.Projection

set_option autoImplicit false
set_option relaxedAutoImplicit false

namespace BlueTeam.Services

open BlueTeam.Python BlueTeam.Schema BlueTeam.Lib BlueTeam.Lib.Exec BlueTeam.Detection BlueTeam.Ingest

/-- Every event says of itself whose it is. -/
def SelfNamed (s : Session schema) : Prop :=
  ∀ r ∈ s.all .events, (SecurityEvent.payload r).tenantId = SecurityEvent.tenantId r

/-- The other tenants have the rows they have in `base`, and none waits to be written for them. -/
structure Confined (tenantId : String) (base : Database schema) (s : Session schema) : Prop where
  others : ∀ t, s.stored.others tenantId t = base.others tenantId t
  waiting : ∀ e ∈ s.pending, schema.tenant e.2 = tenantId
  keyed : ∀ t, schema.Keyed (s.stored t)
  selfNamed : SelfNamed s

namespace Confined

variable {tenantId : String} {base : Database schema} {s s' : Session schema} {t : Table}

theorem waiting_add (h : Confined tenantId base s) {r : t.Row}
    (hr : Table.tenantId r = tenantId) :
    ∀ e ∈ (s.add (S := schema) r).pending, schema.tenant e.2 = tenantId := by
  intro e he
  rcases List.mem_append.mp he with he | he
  · exact h.waiting e he
  · obtain rfl := List.mem_singleton.mp he
    exact hr

theorem add (h : Confined tenantId base s) (ht : t ≠ .events) {r : t.Row}
    (hr : Table.tenantId r = tenantId) : Confined tenantId base (s.add (S := schema) r) := by
  refine ⟨h.others, h.waiting_add hr, h.keyed, ?_⟩
  unfold SelfNamed
  rw [Session.add_all_of_ne (S := schema) _ ht]
  exact h.selfNamed

theorem add_event (h : Confined tenantId base s) {r : SecurityEvent}
    (hr : r.tenantId = tenantId) (hpayload : r.payload.tenantId = tenantId) :
    Confined tenantId base (s.add (S := schema) (t := .events) r) := by
  refine ⟨h.others, h.waiting_add hr, h.keyed, ?_⟩
  unfold SelfNamed
  rw [Session.add_all_self (S := schema)]
  intro x hx
  rcases List.mem_append.mp hx with hx | hx
  · exact h.selfNamed x hx
  · obtain rfl := List.mem_singleton.mp hx
    exact hpayload.trans hr.symm

theorem flush (h : Confined tenantId base s) (hflush : s.flush = .ok s') :
    Confined tenantId base s' := by
  refine ⟨?_, ?_, fun t => Session.flush_keyed (h.keyed t) hflush, ?_⟩
  · intro t
    unfold Session.flush at hflush
    split at hflush
    · rename_i db hdb
      obtain rfl := Except.ok.inj hflush
      exact (Database.others_insertAll h.waiting hdb t).trans (h.others t)
    · cases hflush
  · intro e he
    rw [(Session.flush_ok hflush).1] at he
    cases he
  · unfold SelfNamed
    rw [Session.flush_all hflush]
    exact h.selfNamed

/-- A change of rows that are the tenant's, in columns that no constraint is on. -/
theorem amend (h : Confined tenantId base s) (ht : t ≠ .events) {p : t.Row → Prop} [DecidablePred p]
    {g : t.Row → t.Row} (hp : ∀ r ∈ s.stored t, p r → Table.tenantId r = tenantId)
    (hg : ∀ r : t.Row, Table.id (g r) = Table.id r ∧ Table.tenantId (g r) = Table.tenantId r ∧
      Table.unique (g r) = Table.unique r) :
    Confined tenantId base (s.update t fun r => if p r then g r else r) := by
  have hsame : ∀ r : t.Row, schema.key (if p r then g r else r) = schema.key r ∧
      Table.tenantId (if p r then g r else r) = Table.tenantId r ∧
      schema.unique (if p r then g r else r) = schema.unique r := by
    intro r
    split
    · exact hg r
    · exact ⟨rfl, rfl, rfl⟩
  refine ⟨fun u => ?_, h.waiting, fun u => ?_, ?_⟩
  · rw [← h.others u]
    by_cases hu : t = u
    · subst hu
      unfold Database.others
      rw [Session.update_stored_self, List.filter_map]
      have hkeep : ((s.stored t).filter
          ((fun r => decide (schema.tenant r ≠ tenantId)) ∘ fun r => if p r then g r else r)) =
          (s.stored t).filter fun r => schema.tenant r ≠ tenantId := by
        refine List.filter_congr fun r _ => ?_
        show decide (Table.tenantId (if p r then g r else r) ≠ tenantId) = _
        rw [(hsame r).2.1]
      rw [hkeep]
      refine (List.map_congr_left fun r hr => ?_).trans (List.map_id' _)
      obtain ⟨hmem, hother⟩ := List.mem_filter.mp hr
      exact if_neg fun hpr => of_decide_eq_true hother (hp r hmem hpr)
    · unfold Database.others
      rw [Session.update_stored_of_ne _ hu]
  · by_cases hu : t = u
    · subst hu
      rw [Session.update_stored_self]
      exact (h.keyed t).map hsame
    · rw [Session.update_stored_of_ne _ hu]
      exact h.keyed u
  · unfold SelfNamed
    rw [Session.update_all_of_ne _ ht]
    exact h.selfNamed

theorem delete (h : Confined tenantId base s) (ht : t ≠ .events) {p : t.Row → Bool}
    (hp : ∀ r, p r = true → Table.tenantId r = tenantId) :
    Confined tenantId base (s.delete t p) := by
  refine ⟨fun u => ?_, h.waiting, fun u => ?_, ?_⟩
  · rw [← h.others u]
    by_cases hu : t = u
    · subst hu
      unfold Database.others
      rw [Session.delete_stored_self, List.filter_filter]
      refine List.filter_congr fun r _ => ?_
      by_cases hpr : p r = true
      · have hown : Table.tenantId r = tenantId := hp r hpr
        simp [hpr, hown]
      · simp [hpr]
    · unfold Database.others
      rw [Session.delete_stored_of_ne _ hu]
  · by_cases hu : t = u
    · subst hu
      rw [Session.delete_stored_self]
      exact List.Pairwise.filter _ (h.keyed t)
    · rw [Session.delete_stored_of_ne _ hu]
      exact h.keyed u
  · unfold SelfNamed
    rw [Session.delete_all_of_ne _ ht]
    exact h.selfNamed

/-- The row with the key of one of the tenant's is that row. -/
theorem own_of_key (h : Confined tenantId base s) {row r : t.Row} (hrow : row ∈ s.stored t)
    (hown : Table.tenantId row = tenantId) (hr : r ∈ s.stored t) (hkey : Table.id r = Table.id row) :
    Table.tenantId r = tenantId := by
  have heq : r = row := List.inj_on_of_nodup_map (h.keyed t).nodup hr hrow hkey
  rw [heq]
  exact hown

end Confined

/-- Whether it returns or raises, the program stays within the tenant. -/
def Confines {α : Type} (tenantId : String) (base : Database schema) (m : Service α) : Prop :=
  Keeps (Confined tenantId base) (fun _ w => Confined tenantId base w.session) m

section

variable {α : Type} {tenantId : String} {base : Database schema} {t : Table}

theorem Confines.run {m : Service α} (h : Confines tenantId base m) {w : World}
    (hw : Confined tenantId base w.session) : Confined tenantId base (m w).2.session := by
  have hpost := Triple.run h w hw
  rcases hrun : m w with ⟨⟨e⟩ | ⟨a⟩, w'⟩ <;> rw [hrun] at hpost <;> exact hpost

theorem confines_raise (e : Failure) : Confines tenantId base (raise e : Service α) :=
  keeps_raise fun _ h => h

theorem confines_draw (m : Draw α) : Confines tenantId base (draw m) :=
  keeps_draw fun _ _ h => h

theorem confines_compute (r : Except Exn α) : Confines tenantId base (compute r) :=
  keeps_compute fun _ _ h => h

theorem confines_flush : Confines tenantId base flush :=
  keeps_flush (fun _ _ h hflush => h.flush hflush) fun _ _ h _ => h

theorem confines_add {r : t.Row} (ht : t ≠ .events) (hr : Table.tenantId r = tenantId) :
    Confines tenantId base (add r) :=
  keeps_add fun _ h => h.add ht hr

/-- What a lookup finds is a row of the tenant. -/
theorem confined_selectOne (p : t.Row → Bool) :
    Triple (fun w => Confined tenantId base w.session) (selectOne t tenantId p)
      (fun found w => (∀ r, found = some r → Table.tenantId r = tenantId ∧
        r ∈ w.session.stored t) ∧ Confined tenantId base w.session)
      (fun _ w => Confined tenantId base w.session) := by
  refine triple_selectOne ?_ ?_ fun _ hw _ => hw
  · intro w hw _
    exact ⟨fun r hr => (by cases hr), hw⟩
  · intro w r hw hr hown _
    refine ⟨?_, hw⟩
    rintro _ ⟨⟩
    exact ⟨hown, hr⟩

theorem own_selectOne (p : t.Row → Bool) :
    Triple (fun w => Confined tenantId base w.session) (selectOne t tenantId p)
      (fun found w => (∀ r, found = some r → Table.tenantId r = tenantId) ∧
        Confined tenantId base w.session)
      (fun _ w => Confined tenantId base w.session) :=
  (confined_selectOne p).post fun _ _ h => ⟨fun r hr => (h.1 r hr).1, h.2⟩

theorem own_select (p : t.Row → Bool) :
    Triple (fun w => Confined tenantId base w.session) (select t tenantId p)
      (fun rows w => (∀ r ∈ rows, Table.tenantId r = tenantId) ∧ Confined tenantId base w.session)
      (fun _ w => Confined tenantId base w.session) := by
  refine triple_select fun w hw => ⟨fun r hr => ?_, hw⟩
  have hpass := (List.mem_filter.mp hr).2
  rw [Bool.and_eq_true, decide_eq_true_eq] at hpass
  exact hpass.1

theorem confines_amend (ht : t ≠ .events) {p : t.Row → Prop} [DecidablePred p] {g : t.Row → t.Row}
    (hp : ∀ r, p r → Table.tenantId r = tenantId)
    (hg : ∀ r : t.Row, Table.id (g r) = Table.id r ∧ Table.tenantId (g r) = Table.tenantId r ∧
      Table.unique (g r) = Table.unique r) :
    Confines tenantId base (update t fun r => if p r then g r else r) :=
  keeps_update fun _ h => h.amend ht (fun r _ => hp r) hg

end

/-! ### Detection -/

section

variable (rt : Runtime) {tenantId : String} {base : Database schema} {t : Table}

theorem registerEventEvidence_confines (eventId actorId : String) :
    Confines tenantId base (registerEventEvidence rt tenantId eventId actorId) := by
  unfold registerEventEvidence
  refine keeps_bind (keeps_selectOne fun _ h => h) fun existing => ?_
  cases existing with
  | some existing => exact keeps_pure _
  | none =>
      refine keeps_bind (keeps_selectOne fun _ h => h) fun event => ?_
      cases event with
      | none => exact confines_raise _
      | some event =>
          refine keeps_bind (confines_draw _) fun id => ?_
          refine keeps_bind (confines_draw _) fun ingestedAt => ?_
          refine keeps_bind (confines_draw _) fun acquired => ?_
          refine keeps_bind (confines_draw _) fun hashed => ?_
          refine keeps_bind (confines_draw _) fun sealedAt => ?_
          refine keeps_bind (confines_add (by decide) rfl) fun _ => ?_
          exact keeps_bind confines_flush fun _ => keeps_pure _

theorem storeFinding_confines (actorId : String) (acc : Created) (finding : Finding) :
    Confines tenantId base (storeFinding rt tenantId actorId acc finding) := by
  unfold storeFinding
  have hsuppressed : Confines tenantId base (isSuppressed rt tenantId finding) := by
    unfold isSuppressed
    refine keeps_bind (confines_draw _) fun now => ?_
    refine keeps_bind keeps_select fun rows => ?_
    refine keeps_bind (confines_compute _) fun suppressed => ?_
    split
    · exact keeps_pure _
    · exact keeps_bind keeps_select fun _ => keeps_pure _
  refine keeps_bind hsuppressed fun suppressed => ?_
  split
  · exact keeps_pure _
  · refine keeps_bind (keeps_selectOne fun _ h => h) fun existing => ?_
    cases existing with
    | some _ => exact keeps_pure _
    | none =>
        refine keeps_bind (keeps_loop (fun ids eventId _ => ?_) _) fun ids => ?_
        · exact keeps_bind (registerEventEvidence_confines rt eventId actorId) fun _ => keeps_pure _
        · refine keeps_bind (confines_add (by decide) rfl) fun _ => ?_
          exact keeps_bind (confines_add (by decide) rfl) fun _ => keeps_pure _

theorem evaluateAndStoreFindings_confines (actorId : String) (context : DetectionContext)
    (event : CanonicalEvent) :
    Confines tenantId base (evaluateAndStoreFindings rt tenantId actorId context event) := by
  unfold evaluateAndStoreFindings
  refine keeps_bind (confines_draw _) fun findings => ?_
  refine keeps_bind (keeps_loop (fun acc finding _ => ?_) _) fun acc => ?_
  · exact storeFinding_confines rt actorId acc finding
  · exact keeps_bind confines_flush fun _ => keeps_pure _

theorem runScheduled_confines (actorId : String) :
    Confines tenantId base (runScheduled rt tenantId actorId) :=
  runScheduled_keeps rt tenantId actorId (evaluateAndStoreFindings_confines rt actorId)

theorem createSuppression_confines (ruleId entityKey entityValue reason actorId : String)
    (expiresAt : Option DateTime) :
    Confines tenantId base
      (createSuppression rt tenantId ruleId entityKey entityValue reason actorId expiresAt) := by
  unfold createSuppression
  refine keeps_bind (confines_draw _) fun id => ?_
  refine keeps_bind (confines_draw _) fun createdAt => ?_
  refine keeps_bind (confines_add (by decide) rfl) fun _ => ?_
  exact keeps_bind confines_flush fun _ => keeps_pure _

theorem createException_confines (ruleId entityKey entityValue reason actorId : String) :
    Confines tenantId base
      (createException rt tenantId ruleId entityKey entityValue reason actorId) := by
  unfold createException
  refine keeps_bind (confines_draw _) fun id => ?_
  refine keeps_bind (confines_draw _) fun createdAt => ?_
  refine keeps_bind (confines_add (by decide) rfl) fun _ => ?_
  exact keeps_bind confines_flush fun _ => keeps_pure _

/-! ### Graph and incidents -/

theorem replaceGraph_confines (graph : EntityGraph)
    (hentities : ∀ e ∈ graph.entities, e.tenantId = tenantId)
    (hrels : ∀ r ∈ graph.relationships, r.tenantId = tenantId) :
    Confines tenantId base (replaceGraph tenantId graph) := by
  have hdelete (t : Table) (ht : t ≠ .events) : Confines tenantId base (deleteAll t tenantId) :=
    keeps_deleteAll fun _ h => h.delete ht fun _ => of_decide_eq_true
  unfold replaceGraph
  refine keeps_bind (hdelete .entities (by decide)) fun _ => ?_
  refine keeps_bind (hdelete .relationships (by decide)) fun _ => ?_
  refine keeps_bind confines_flush fun _ => ?_
  refine keeps_bind (keeps_loop (fun _ e he => ?_) _) fun _ => ?_
  · exact confines_add (by decide) (hentities e he)
  · refine keeps_bind (keeps_loop (fun _ r hr => ?_) _) fun _ => confines_flush
    exact confines_add (by decide) (hrels r hr)

/-- The graph is that of the window, and the window is the tenant's. -/
theorem projectGraphStats_confines {events : List CanonicalEvent}
    (hevents : ∀ event ∈ events, event.tenantId = tenantId) :
    Confines tenantId base (projectGraphStats rt tenantId events) := by
  unfold projectGraphStats
  refine keeps_bind keeps_select fun findings => ?_
  refine keeps_bind keeps_select fun stored => ?_
  refine triple_bind (Q := fun graph w => Graph.buildGraph rt events (findings.map (·.payload))
    (stored.map fun row => (row.id, row.criticality)) = .ok graph ∧
      Confined tenantId base w.session) ?_ fun graph => ?_
  · exact triple_compute (fun graph w hgraph hw => ⟨hgraph, hw⟩) fun _ _ _ hw => hw
  · refine triple_given fun hgraph => ?_
    have hnamed := Graph.buildGraph_named hevents hgraph
    refine keeps_bind ?_ fun _ => keeps_pure _
    exact replaceGraph_confines graph (fun e he => (hnamed.entities e he).1)
      fun r hr => (hnamed.relationships r hr).1

theorem projectGraph_confines {events : List CanonicalEvent}
    (hevents : ∀ event ∈ events, event.tenantId = tenantId) :
    Confines tenantId base (projectGraph rt tenantId events) := by
  rw [projectGraph_eq]
  exact keeps_bind (projectGraphStats_confines rt hevents) fun _ => keeps_pure _

theorem loadWindow_confined :
    Triple (fun w => Confined tenantId base w.session) (loadWindow tenantId)
      (fun events w => (∀ event ∈ events, event.tenantId = tenantId) ∧
        Confined tenantId base w.session)
      (fun _ w => Confined tenantId base w.session) := by
  refine ⟨fun w hw => ?_⟩
  rw [loadWindow_run]
  refine ⟨?_, hw⟩
  intro event hevent
  obtain ⟨row, hrow, rfl⟩ := List.mem_map.mp hevent
  have hrow := (List.perm_insertionSort _ _).subset hrow
  obtain ⟨hstored, hown⟩ := World.mem_rowsOf.mp hrow
  exact (hw.selfNamed row (List.mem_append_left _ hstored)).trans hown

theorem projectWindow_confines : Confines tenantId base (projectWindow rt tenantId) := by
  refine triple_bind loadWindow_confined fun window => ?_
  exact triple_given fun hwindow => projectGraphStats_confines rt hwindow

theorem createIncident_confined (fingerprint : String) (story : Storyline) (now : DateTime) :
    Triple (fun w => Confined tenantId base w.session)
      (createIncident rt tenantId fingerprint story now)
      (fun incident w => incident.tenantId = tenantId ∧ Confined tenantId base w.session)
      (fun _ w => Confined tenantId base w.session) := by
  unfold createIncident
  refine triple_bind (confines_draw _) fun id => ?_
  refine triple_bind (confines_draw _) fun created => ?_
  refine triple_bind (confines_add (by decide) rfl) fun _ => ?_
  exact triple_bind confines_flush fun _ => triple_pure fun _ hw => ⟨rfl, hw⟩

theorem persistStory_confines (story : Storyline) :
    Confines tenantId base (persistStory rt tenantId story) := by
  unfold persistStory
  refine keeps_bind (keeps_selectOne fun _ h => h) fun existing => ?_
  have hof : Confines tenantId base (incidentOf existing) := by
    unfold incidentOf
    split
    · split
      · exact keeps_pure _
      · exact keeps_get
    · exact keeps_pure _
  refine keeps_bind hof fun known => ?_
  cases known with
  | some _ => exact keeps_pure _
  | none =>
      refine triple_bind (own_selectOne _) fun found => ?_
      refine triple_given fun hfound => ?_
      refine triple_bind (confines_draw _) fun now => ?_
      refine triple_bind (Q := fun incident w =>
        IncidentRecord.tenantId incident = tenantId ∧ Confined tenantId base w.session) ?_ ?_
      · cases found with
        | some incident => exact triple_pure fun _ hw => ⟨hfound incident rfl, hw⟩
        | none => exact createIncident_confined rt _ story now
      · intro incident
        refine triple_given fun hincident => ?_
        cases existing with
        | some _ => exact keeps_pure _
        | none =>
            refine keeps_bind (confines_add (by decide) rfl) fun _ => ?_
            refine confines_amend (by decide) ?_ fun r => ⟨rfl, rfl, rfl⟩
            rintro r ⟨rfl, -⟩
            exact hincident

theorem persistStorylinesAndIncidents_confines :
    Confines tenantId base (persistStorylinesAndIncidents rt tenantId) := by
  unfold persistStorylinesAndIncidents
  refine keeps_bind (loadWindow_keeps tenantId) fun events => ?_
  refine keeps_bind (listFindings_keeps tenantId) fun findings => ?_
  refine keeps_bind (confines_draw _) fun stories => ?_
  exact keeps_bind (keeps_loop (fun _ story _ => persistStory_confines rt story) _) fun _ =>
    confines_flush

/-! ### Ingestion -/

theorem tenantId_of_yields {payload : JsonObject} {event : CanonicalEvent}
    (h : Yields rt tenantId payload event) : event.tenantId = tenantId := by
  have hrow : Stores rt tenantId payload (securityEvent tenantId (rawHashOf event payload)
      { event with attributes := event.attributes }) := ⟨event, event.attributes, h, rfl⟩
  exact tenantId_of_stores hrow

theorem recordSightings_confines (event : CanonicalEvent) :
    Confines tenantId base (recordSightings rt tenantId event) := by
  unfold recordSightings
  refine keeps_bind (confines_draw _) fun now => ?_
  refine keeps_bind (keeps_loop (fun matched candidate _ => ?_) _) fun matched => ?_
  · unfold sight
    refine triple_bind (own_select _) fun rows => ?_
    refine triple_given fun hrows => ?_
    refine triple_bind (Q := fun live w => (∀ r ∈ live, IndicatorOfCompromise.tenantId r = tenantId) ∧
      Confined tenantId base w.session) ?_ fun live => ?_
    · refine triple_compute (fun live w hlive hw => ⟨fun r hr => ?_, hw⟩) fun _ _ _ hw => hw
      rw [eq_filter_of_filterRaising hlive] at hr
      exact hrows r (List.mem_filter.mp hr).1
    · refine triple_given fun hlive => ?_
      refine keeps_bind ?_ fun _ => keeps_pure _
      exact confines_amend (by decide) hlive fun r => ⟨rfl, rfl, rfl⟩
  · split
    · exact keeps_pure _
    · exact keeps_bind confines_flush fun _ => keeps_pure _

theorem listIocs_confines : Confines tenantId base (listIocs rt tenantId) := by
  unfold listIocs
  refine keeps_bind keeps_select fun rows => ?_
  exact keeps_bind (confines_draw _) fun now => confines_compute _

/-- An event that a payload becomes is the tenant's, whatever the payload says. -/
theorem normalizeAndEnrich_confined (payload : JsonObject) :
    Triple (fun w => Confined tenantId base w.session) (normalizeAndEnrich rt tenantId payload)
      (fun event w => Confined tenantId base w.session ∧ event.tenantId = tenantId)
      (fun _ w => Confined tenantId base w.session ∧ True) := by
  have hintel : Confines tenantId base (activeIntelMap rt tenantId) :=
    keeps_bind (listIocs_confines rt) fun _ => keeps_pure _
  suffices h : Triple (fun w => Confined tenantId base w.session)
      (normalizeAndEnrich rt tenantId payload)
      (fun event w => Confined tenantId base w.session ∧ event.tenantId = tenantId)
      (fun _ w => Confined tenantId base w.session) from
    h.conseq (fun _ hw => hw) (fun _ _ h => h) fun _ _ hw => ⟨hw, trivial⟩
  unfold normalizeAndEnrich
  refine triple_bind (Q := fun event w => (∃ t t', normalizePayload rt payload tenantId t =
    (.ok event, t')) ∧ Confined tenantId base w.session) ?_ fun raw => ?_
  · exact triple_draw (fun w raw t hw hrun => ⟨⟨w.ticks, t, hrun⟩, hw⟩) fun _ _ _ hw _ => hw
  · apply triple_given
    rintro ⟨t, t', hraw⟩
    refine triple_bind hintel fun intel => ?_
    refine triple_bind (recordSightings_confines rt _) fun _ => ?_
    exact triple_pure fun w hw => ⟨hw, tenantId_of_yields rt ⟨raw, t, t', _, hraw, rfl⟩⟩

theorem deadLetter_confines (payload : JsonObject) (reason : String) :
    Confines tenantId base (deadLetter rt tenantId payload reason) := by
  unfold deadLetter
  refine keeps_bind (confines_draw _) fun id => ?_
  exact keeps_bind (confines_draw _) fun at_ => confines_add (by decide) rfl

theorem acceptEvent_confines (actorId : String) (payload : JsonObject) (acc : IngestResult)
    {event : CanonicalEvent} (hevent : event.tenantId = tenantId) :
    Confines tenantId base (acceptEvent rt tenantId actorId payload acc event) := by
  unfold acceptEvent
  refine triple_bind (Q := fun event' w => event'.tenantId = tenantId ∧
    Confined tenantId base w.session) ?_ fun event' => ?_
  · refine triple_draw (fun w event' t hw hrun => ?_) fun _ _ _ hw _ => hw
    obtain ⟨attributes, t', hproject⟩ := bestEffortProject_run rt event w.ticks
    rw [hproject] at hrun
    obtain ⟨hsame, -⟩ := Prod.mk.inj hrun
    obtain rfl := Except.ok.inj hsame
    exact ⟨hevent, hw⟩
  · refine triple_given fun hevent' => ?_
    refine keeps_bind (keeps_add fun s hs => hs.add_event rfl hevent') fun _ => ?_
    refine keeps_bind confines_flush fun _ => ?_
    refine keeps_bind ?_ fun _ => keeps_pure _
    exact evaluateAndStore_keeps rt tenantId actorId
      (evaluateAndStoreFindings_confines rt actorId) event'

theorem placeEvent_confines (actorId : String) (payload : JsonObject) (acc : IngestResult)
    {event : CanonicalEvent} (hevent : event.tenantId = tenantId) :
    Confines tenantId base (placeEvent rt tenantId actorId payload acc event) := by
  have hkey : Confines tenantId base (sameKey tenantId event) := by
    unfold sameKey
    split
    · exact keeps_selectOne fun _ h => h
    · exact keeps_pure _
  unfold placeEvent
  refine keeps_bind hkey fun existing => ?_
  cases existing with
  | some _ => exact keeps_pure _
  | none =>
      refine keeps_bind keeps_get fun existing => ?_
      cases existing with
      | none => exact acceptEvent_confines rt actorId payload acc hevent
      | some existing =>
          dsimp only
          split
          · exact keeps_bind (deadLetter_confines rt _ _) fun _ => keeps_pure _
          · exact keeps_pure _

theorem ingestPayload_confines (actorId : String) (acc : IngestResult) (payload : JsonObject) :
    Confines tenantId base (ingestPayload rt tenantId actorId acc payload) := by
  unfold ingestPayload
  refine keeps_try (normalizeAndEnrich_confined rt payload) ?_ ?_
  · exact fun event hevent => placeEvent_confines rt actorId payload acc hevent
  · intro e _
    cases e with
    | python e =>
        dsimp only
        split
        · exact keeps_bind (deadLetter_confines rt _ _) fun _ => keeps_pure _
        · exact confines_raise _
    | integrityError c => exact confines_raise _
    | multipleResultsFound t => exact confines_raise _
    | blueTeamError code message status => exact confines_raise _

theorem ingestPayloads_confines (actorId : String) (payloads : List JsonObject) :
    Confines tenantId base (ingestPayloads rt tenantId actorId payloads) := by
  unfold ingestPayloads
  refine keeps_bind (keeps_loop (fun acc payload _ => ?_) _) fun result => ?_
  · exact ingestPayload_confines rt actorId acc payload
  · refine keeps_bind ?_ fun _ => keeps_pure _
    unfold projectBatch
    split
    · exact keeps_pure _
    · refine triple_bind loadWindow_confined fun window => ?_
      refine triple_given fun hwindow => ?_
      refine keeps_bind (projectGraph_confines rt hwindow) fun _ => ?_
      exact persistStorylinesAndIncidents_confines rt

/-! ### What analysts do -/

theorem createFromAlert_confines (alertId actorId : String) :
    Confines tenantId base (createFromAlert rt tenantId alertId actorId) := by
  unfold createFromAlert
  refine triple_bind (own_selectOne _) fun alert => ?_
  refine triple_given fun halert => ?_
  cases alert with
  | none => exact confines_raise _
  | some alert =>
      refine keeps_bind (keeps_selectOne fun _ h => h) fun existing => ?_
      cases existing with
      | some existing => exact keeps_pure _
      | none =>
          refine keeps_bind (confines_draw _) fun now => ?_
          refine keeps_bind (confines_draw _) fun id => ?_
          refine keeps_bind (confines_draw _) fun created => ?_
          refine keeps_bind ?_ fun _ => ?_
          · refine confines_amend (by decide) ?_ fun r => ⟨rfl, rfl, rfl⟩
            rintro r rfl
            exact halert r rfl
          · refine keeps_bind (confines_add (by decide) rfl) fun _ => ?_
            exact keeps_bind confines_flush fun _ => keeps_pure _

theorem setCriticality_confines (entityId criticality : String) :
    Confines tenantId base (setCriticality tenantId entityId criticality) := by
  unfold setCriticality getEntity
  refine triple_bind (own_selectOne _) fun found => ?_
  refine triple_given fun hfound => ?_
  cases found with
  | none => exact keeps_pure _
  | some row =>
      dsimp only
      split
      · exact confines_raise _
      · refine keeps_bind ?_ fun _ => keeps_bind confines_flush fun _ => keeps_pure _
        refine confines_amend (by decide) ?_ fun r => ⟨rfl, rfl, rfl⟩
        rintro r rfl
        exact hfound r rfl

theorem appendCustody_confines (evidenceId actorId action : String) (notes : Option String) :
    Confines tenantId base (appendCustody rt tenantId evidenceId actorId action notes) := by
  unfold appendCustody
  refine triple_bind (own_selectOne _) fun found => ?_
  refine triple_given fun hfound => ?_
  cases found with
  | none => exact confines_raise _
  | some row =>
      refine keeps_bind (confines_compute _) fun chain => ?_
      refine keeps_bind (confines_draw _) fun id => ?_
      refine keeps_bind (confines_draw _) fun at_ => ?_
      refine keeps_bind ?_ fun _ => keeps_bind confines_flush fun _ => keeps_pure _
      refine confines_amend (by decide) ?_ fun r => ⟨rfl, rfl, rfl⟩
      rintro r rfl
      exact hfound r rfl

/-- The rows under the key of a row that is the tenant's. -/
theorem confines_amend_key (tenantId : String) (base : Database schema) (id : String)
    (ht : t ≠ .events) {g : t.Row → t.Row}
    (hg : ∀ r : t.Row, Table.id (g r) = Table.id r ∧ Table.tenantId (g r) = Table.tenantId r ∧
      Table.unique (g r) = Table.unique r) :
    Triple (fun w => (∃ row ∈ w.session.stored t, Table.tenantId row = tenantId ∧
        Table.id row = id) ∧ Confined tenantId base w.session)
      (update t fun r => if Table.id r = id then g r else r)
      (fun _ w => Confined tenantId base w.session)
      (fun _ w => Confined tenantId base w.session) := by
  refine triple_update fun w hw => ?_
  obtain ⟨⟨row, hrow, hown, hid⟩, hw⟩ := hw
  exact hw.amend ht (fun r hr hkey => hw.own_of_key hrow hown hr (hkey.trans hid.symm)) hg

/-- The rows that an edit is of are the tenant's. -/
structure EditsOwn (tenantId : String) (edit : Edit) (s : Session schema) : Prop where
  incident : ∃ row ∈ s.stored .incidents, IncidentRecord.tenantId row = tenantId ∧
    IncidentRecord.id row = edit.loaded.id
  evidence : ∀ loaded changed, edit.evidence = some (loaded, changed) →
    ∃ row ∈ s.stored .evidence, Evidence.tenantId row = tenantId ∧ Evidence.id row = loaded.id

theorem load_confined (r : IncidentRequest) (hr : r.tenantId = tenantId) :
    Triple (fun w => Confined tenantId base w.session) (r.load rt)
      (fun edit w => EditsOwn tenantId edit w.session ∧ Confined tenantId base w.session)
      (fun _ w => Confined tenantId base w.session) := by
  refine triple_from fun w₀ hw₀ => ?_
  refine (load_reads rt w₀.session r).conseq ?_ ?_ ?_
  · rintro _ rfl
    rfl
  · rintro edit w ⟨hsession, incident, hmem, hown, -, hedits⟩
    rw [hsession]
    refine ⟨⟨?_, ?_⟩, hw₀⟩
    · exact ⟨incident, hmem, hown.trans hr, congrArg IncidentRecord.id hedits.loaded.symm⟩
    · intro loaded changed hevidence
      have hlinks := hedits.evidence loaded changed hevidence
      exact ⟨loaded, hlinks.stored, hlinks.tenant.trans (hown.trans hr), rfl⟩
  · intro e w hsession
    rw [hsession]
    exact hw₀

theorem save_confined (edit : Edit) :
    Triple (fun w => EditsOwn tenantId edit w.session ∧ Confined tenantId base w.session) edit.save
      (fun _ w => Confined tenantId base w.session)
      (fun _ w => Confined tenantId base w.session) := by
  unfold Edit.save
  -- the update of the incident leaves the evidence where it is
  refine triple_bind (Q := fun _ w => (∀ loaded changed, edit.evidence = some (loaded, changed) →
    ∃ row ∈ w.session.stored .evidence, Evidence.tenantId row = tenantId ∧
      Evidence.id row = loaded.id) ∧ Confined tenantId base w.session) ?_ fun _ => ?_
  · constructor
    rintro w ⟨hown, hw⟩
    refine ⟨hown.evidence, ?_⟩
    have hkey : Triple _ (update .incidents fun r : IncidentRecord =>
        if r.id = edit.loaded.id then flushIncident edit.loaded edit.changed r else r) _ _ :=
      confines_amend_key (t := .incidents) tenantId base _ (by decide)
        fun r => ⟨rfl, rfl, rfl⟩
    exact hkey.ok ⟨hown.incident, hw⟩ rfl
  · cases hevidence : edit.evidence with
    | none => exact confines_flush.pre fun w hw => hw.2
    | some pair =>
        obtain ⟨loaded, changed⟩ := pair
        refine triple_bind (Triple.pre (confines_amend_key (t := .evidence) _ _ loaded.id
          (by decide) fun r => ⟨rfl, rfl, rfl⟩) ?_) fun _ => confines_flush
        exact fun w hw => ⟨hw.1 loaded changed rfl, hw.2⟩

theorem upsertIoc_confines (req : IocRequest) :
    Confines tenantId base (upsertIoc rt tenantId req) := by
  unfold upsertIoc
  rcases req.normalized rt with ⟨indicatorType, value⟩
  dsimp only
  split
  · exact confines_raise _
  · split
    · exact confines_raise _
    · split
      · exact confines_raise _
      · refine keeps_bind (confines_draw _) fun now => ?_
        refine triple_bind (confined_selectOne _) fun found => ?_
        cases found with
        | some row =>
            refine triple_bind (Q := fun _ w => (∃ r ∈ w.session.stored .indicators,
              IndicatorOfCompromise.tenantId r = tenantId ∧
                IndicatorOfCompromise.id r = IndicatorOfCompromise.id row) ∧
              Confined tenantId base w.session) ?_ fun expiresAt => ?_
            · refine triple_compute (fun _ w _ hw => ⟨⟨row, ?_⟩, hw.2⟩) fun _ _ _ hw => hw.2
              exact ⟨(hw.1 row rfl).2, (hw.1 row rfl).1, rfl⟩
            · refine triple_bind (confines_amend_key (t := .indicators) _ _ _ (by decide)
                fun r => ⟨rfl, rfl, rfl⟩) fun _ => ?_
              exact keeps_bind confines_flush fun _ => keeps_pure _
        | none =>
            refine Triple.pre ?_ fun w hw => hw.2
            refine keeps_bind (confines_draw _) fun id => ?_
            refine keeps_bind (confines_compute _) fun expiresAt => ?_
            refine keeps_bind (confines_add (by decide) rfl) fun _ => ?_
            exact keeps_bind confines_flush fun _ => keeps_pure _

theorem getIoc_confined (iocId : String) :
    Triple (fun w => Confined tenantId base w.session) (getIoc tenantId iocId)
      (fun row w => (IndicatorOfCompromise.tenantId row = tenantId ∧
        row ∈ w.session.stored .indicators) ∧ Confined tenantId base w.session)
      (fun _ w => Confined tenantId base w.session) := by
  unfold getIoc
  refine triple_bind (confined_selectOne _) fun found => ?_
  cases found with
  | none => exact triple_raise fun w hw => hw.2
  | some row => exact triple_pure fun w hw => ⟨hw.1 row rfl, hw.2⟩

theorem deactivateIoc_confined (row : IndicatorOfCompromise) (actorId : String) :
    Triple (fun w => (row.tenantId = tenantId ∧ row ∈ w.session.stored .indicators) ∧
        Confined tenantId base w.session)
      (deactivateIoc rt row actorId) (fun _ w => Confined tenantId base w.session)
      (fun _ w => Confined tenantId base w.session) := by
  have hdraw : Triple (fun w => (row.tenantId = tenantId ∧ row ∈ w.session.stored .indicators) ∧
      Confined tenantId base w.session) (draw (utcnow rt))
      (fun _ w => (row.tenantId = tenantId ∧ row ∈ w.session.stored .indicators) ∧
        Confined tenantId base w.session) (fun _ w => Confined tenantId base w.session) :=
    triple_draw (fun _ _ _ hw _ => hw) fun _ _ _ hw _ => hw.2
  unfold deactivateIoc
  refine triple_bind hdraw fun updatedAt => ?_
  refine triple_bind hdraw fun deactivatedAt => ?_
  refine triple_bind (Triple.pre (confines_amend_key (t := .indicators) _ _ row.id (by decide)
    fun r => ⟨rfl, rfl, rfl⟩) ?_) fun _ => keeps_bind confines_flush fun _ => keeps_pure _
  exact fun w hw => ⟨⟨row, hw.1.2, hw.1.1, rfl⟩, hw.2⟩

theorem expireStale_confines : Confines tenantId base (expireStale rt tenantId) := by
  unfold expireStale
  refine keeps_bind (confines_draw _) fun now => ?_
  refine triple_bind (own_select _) fun rows => ?_
  refine triple_given fun hrows => ?_
  refine triple_bind (Q := fun expired w => (∀ r ∈ expired,
    IndicatorOfCompromise.tenantId r = tenantId) ∧ Confined tenantId base w.session) ?_
    fun expired => ?_
  · refine triple_compute (fun expired w hexpired hw => ⟨fun r hr => ?_, hw⟩) fun _ _ _ hw => hw
    rw [eq_filter_of_filterRaising hexpired] at hr
    exact hrows r (List.mem_filter.mp hr).1
  · refine triple_given fun hexpired => ?_
    have hown : ∀ r : IndicatorOfCompromise, expired.contains r = true → r.tenantId = tenantId :=
      fun r hr => hexpired r (List.contains_iff_mem.mp hr)
    refine keeps_bind (confines_amend (by decide) hown fun r => ⟨rfl, rfl, rfl⟩) fun _ => ?_
    split
    · exact keeps_pure _
    · exact keeps_bind confines_flush fun _ => keeps_pure _

end

end BlueTeam.Services
