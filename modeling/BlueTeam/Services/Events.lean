/- GID: BlueTeam/Services/Events
   generality: I
   source: services/api/app/services/ingestion.py, packages/enrichment/blueteam_enrich/engine.py
   digest: What happens to the table of events over whole runs, and which events a payload becomes. -/

import BlueTeam.Services.Footprint

set_option autoImplicit false
set_option relaxedAutoImplicit false

namespace BlueTeam.Services

open BlueTeam.Python BlueTeam.Schema BlueTeam.Lib BlueTeam.Lib.Exec BlueTeam.Ingest

/-! ### The event of a payload -/

/-- What enrichment and the object store leave alone in an event. -/
structure SameOrigin (a b : CanonicalEvent) : Prop where
  id : a.id = b.id
  tenantId : a.tenantId = b.tenantId
  timestamp : a.timestamp = b.timestamp
  idempotencyKey : a.idempotencyKey = b.idempotencyKey
  candidates : sightingCandidates a = sightingCandidates b

theorem SameOrigin.trans {a b c : CanonicalEvent} (h : SameOrigin a b) (h' : SameOrigin b c) :
    SameOrigin a c :=
  ⟨h.id.trans h'.id, h.tenantId.trans h'.tenantId, h.timestamp.trans h'.timestamp,
    h.idempotencyKey.trans h'.idempotencyKey, h.candidates.trans h'.candidates⟩

theorem attributes_sameOrigin (event : CanonicalEvent) (attributes : JsonObject) :
    SameOrigin { event with attributes := attributes } event :=
  ⟨rfl, rfl, rfl, rfl, rfl⟩

theorem enrichGeo_sameOrigin (rt : Runtime) (e : Enriching) :
    SameOrigin (enrichGeo rt e).event e.event := by
  unfold enrichGeo
  dsimp only
  split_ifs <;> exact ⟨rfl, rfl, rfl, rfl, rfl⟩

theorem enrichAsset_sameOrigin (e : Enriching) : SameOrigin (enrichAsset e).event e.event := by
  unfold enrichAsset
  dsimp only
  split
  · exact ⟨rfl, rfl, rfl, rfl, rfl⟩
  · split_ifs <;> exact ⟨rfl, rfl, rfl, rfl, rfl⟩

theorem enrichIdentity_sameOrigin (e : Enriching) :
    SameOrigin (enrichIdentity e).event e.event := by
  unfold enrichIdentity
  split
  · exact ⟨rfl, rfl, rfl, rfl, rfl⟩
  · rename_i user huser
    split
    · exact ⟨rfl, rfl, rfl, rfl, rfl⟩
    · refine ⟨rfl, rfl, rfl, rfl, ?_⟩
      simp only [sightingCandidates, huser, CanonicalEvent.setAttribute]
      rfl

theorem enrichIntel_sameOrigin (intel : List (String × TextMap)) (e : Enriching) :
    SameOrigin (enrichIntel intel e).event e.event := by
  unfold enrichIntel
  dsimp only
  split <;> exact ⟨rfl, rfl, rfl, rfl, rfl⟩

theorem enrichEvent_sameOrigin (rt : Runtime) (intel : List (String × TextMap))
    (event : CanonicalEvent) : SameOrigin (enrichEvent rt intel event) event := by
  have hintel := enrichIntel_sameOrigin intel
    (enrichIdentity (enrichAsset (enrichGeo rt { event := event })))
  have hsteps := (hintel.trans (enrichIdentity_sameOrigin _)).trans
    ((enrichAsset_sameOrigin _).trans (enrichGeo_sameOrigin rt _))
  exact (attributes_sameOrigin _ _).trans hsteps

/-- The row of an event, as far as lookups and comparisons read it. -/
structure RowOf (tenantId : String) (raw : CanonicalEvent) (row : SecurityEvent) : Prop where
  tenant : row.tenantId = tenantId
  id : row.id = raw.id
  idempotencyKey : row.idempotencyKey = raw.idempotencyKey
  timestamp : row.payload.timestamp = raw.timestamp

theorem rowOf_securityEvent {raw event : CanonicalEvent} (h : SameOrigin event raw)
    (tenantId rawHash : String) : RowOf tenantId raw (securityEvent tenantId rawHash event) :=
  ⟨rfl, h.id, h.idempotencyKey, h.timestamp⟩

/-- What is stored for a payload is the row of an event that it is normalised to. -/
theorem Stores.rowOf {rt : Runtime} {tenantId : String} {payload : JsonObject}
    {row : SecurityEvent} (h : Stores rt tenantId payload row) :
    ∃ raw t t', normalizePayload rt payload tenantId t = (.ok raw, t') ∧
      RowOf tenantId raw row := by
  obtain ⟨event, attributes, ⟨raw, t, t', intel, hraw, rfl⟩, rfl⟩ := h
  have horigin := (attributes_sameOrigin (enrichEvent rt intel raw) attributes).trans
    (enrichEvent_sameOrigin rt intel raw)
  exact ⟨raw, t, t', hraw, rowOf_securityEvent horigin tenantId _⟩

/-! ### Invariants of the table of events -/

/-- The tables that a call writes besides the events. -/
def besideEvents : List Table :=
  [.deadLetters, .findings, .alerts, .evidence, .indicators, .entities, .relationships,
    .storylines, .incidents]

theorem ne_of_mem_besideEvents {t : Table} (h : t ∈ besideEvents) : t ≠ .events := by
  revert h
  cases t <;> decide

section

variable {J : List SecurityEvent → List SecurityEvent → Prop}

/-- A statement about the events that are stored and the events that wait. -/
def OnEvents (J : List SecurityEvent → List SecurityEvent → Prop) (s : Session schema) : Prop :=
  J (s.stored .events) (s.pendingOf .events)

theorem stable_onEvents
    (hflush : ∀ s s' : Session schema, OnEvents J s → s.flush = .ok s' → OnEvents J s') :
    Stable (OnEvents J) (fun _ _ => True) besideEvents where
  add {t} r s ht hs := by
    unfold OnEvents
    rw [Session.add_pendingOf_of_ne (S := schema) s (ne_of_mem_besideEvents ht)]
    exact hs
  update {t} f s _ hev hs := by
    unfold OnEvents
    rw [Session.update_stored_of_ne (S := schema) s hev]
    exact hs
  delete {t} p s _ hev hs := by
    unfold OnEvents
    rw [Session.delete_stored_of_ne (S := schema) s hev]
    exact hs
  flush := keeps_flush hflush fun _ _ _ _ => trivial
  python _ _ _ := trivial
  multiple _ _ _ _ := trivial
  missing _ _ _ _ _ := trivial

variable (rt : Runtime) (tenantId : String)

/-- A request keeps a statement about the events that flushes keep, and the rows that it may
store. -/
theorem request_onEvents
    (hflush : ∀ s s' : Session schema, OnEvents J s → s.flush = .ok s' → OnEvents J s')
    (call : Call)
    (hadd : ∀ payload ∈ call.payloads, ∀ row, Stores rt tenantId payload row →
      ∀ stored waiting, J stored waiting → J stored (waiting ++ [row]))
    {w : World} (hw : OnEvents J w.session) :
    OnEvents J (request (call.body rt tenantId) w).2.session := by
  have hstable := stable_onEvents hflush
  refine (request_keeps (F := fun _ => True) ?_ hstable.flush hw).1
  refine call_keeps rt tenantId hstable (by decide) trivial call ?_ ?_
  · intro payload hpayload row hrow s hs
    unfold OnEvents
    rw [Session.add_pendingOf_self (S := schema)]
    exact hadd payload hpayload row hrow _ _ hs
  · intro actorId
    exact evaluateAndStoreFindings_keeps rt tenantId hstable (by decide) (by decide) (by decide)
      actorId

end

/-! ### Committed states -/

/-- A state between two requests: nothing waits, and the events respect their primary key and
their unique constraint. -/
structure Committed (w : World) : Prop where
  pending : w.session.pending = []
  keyed : schema.Keyed (w.session.stored .events)

/-- The committed state after requests of any tenants. -/
def runRequests (rt : Runtime) (w : World) (requests : List (String × Call)) : World :=
  requests.foldl (fun w r => (request (r.2.body rt r.1) w).2) w

theorem Committed.request {w : World} (h : Committed w) (rt : Runtime) (tenantId : String)
    (call : Call) : Committed (request (call.body rt tenantId) w).2 := by
  refine ⟨request_pending h.pending, ?_⟩
  refine request_onEvents (J := fun stored _ => schema.Keyed (t := .events) stored) rt tenantId
    ?_ call ?_ h.keyed
  · intro s s' hs hflush
    exact Session.flush_keyed hs hflush
  · intro _ _ _ _ _ _ hs
    exact hs

theorem subset_onFlush {rows : List SecurityEvent} (s s' : Session schema)
    (hs : OnEvents (fun stored _ => rows ⊆ stored) s) (hflush : s.flush = .ok s') :
    OnEvents (fun stored _ => rows ⊆ stored) s' := by
  show rows ⊆ s'.stored .events
  rw [(Session.flush_ok hflush).2 .events]
  exact List.subset_append_of_subset_left _ hs

/-- Events are never deleted or changed. -/
theorem request_events_subset (rt : Runtime) (tenantId : String) (call : Call) (w : World) :
    w.session.stored .events ⊆ (request (call.body rt tenantId) w).2.session.stored .events := by
  refine request_onEvents (J := fun stored _ => w.session.stored .events ⊆ stored) rt tenantId
    subset_onFlush call ?_ (List.Subset.refl _)
  intro _ _ _ _ _ _ hs
  exact hs

theorem runRequests_committed (rt : Runtime) {w : World} (h : Committed w)
    (requests : List (String × Call)) :
    Committed (runRequests rt w requests) ∧
      w.session.stored .events ⊆ (runRequests rt w requests).session.stored .events := by
  induction requests generalizing w with
  | nil => exact ⟨h, List.Subset.refl _⟩
  | cons r rest ih =>
      obtain ⟨hrest, hsub⟩ := ih (h.request rt r.1 r.2)
      exact ⟨hrest, List.Subset.trans (request_events_subset rt r.1 r.2 w) hsub⟩

/-! ### What holds of every event -/

section

variable {rt : Runtime} {p : SecurityEvent → Prop}

theorem request_all {w : World} (hw : Committed w) (h : ∀ row ∈ w.session.stored .events, p row)
    (tenantId : String) (call : Call)
    (hstores : ∀ payload ∈ call.payloads, ∀ row, Stores rt tenantId payload row → p row) :
    ∀ row ∈ (request (call.body rt tenantId) w).2.session.stored .events, p row := by
  have hkeeps := request_onEvents (J := fun stored waiting => ∀ row ∈ stored ++ waiting, p row) rt
    tenantId ?_ call ?_ (w := w) ?_
  · exact fun row hrow => hkeeps row (List.mem_append_left _ hrow)
  · intro s s' hs hflush row hrow
    have hall : row ∈ s.all .events := by
      rw [← Session.flush_all hflush .events]
      exact hrow
    exact hs row hall
  · intro payload hpayload row hrow stored waiting hs r hr
    rw [← List.append_assoc] at hr
    rcases List.mem_append.mp hr with hr | hr
    · exact hs r hr
    · obtain rfl := List.mem_singleton.mp hr
      exact hstores payload hpayload r hrow
  · intro row hrow
    refine h row ?_
    simpa [Session.pendingOf, hw.pending] using hrow

/-- What holds of the events at first, and of everything that is stored for a payload of the run,
holds of every event in the end. -/
theorem runRequests_all {w : World} (hw : Committed w)
    (h : ∀ row ∈ w.session.stored .events, p row) (requests : List (String × Call))
    (hstores : ∀ r ∈ requests, ∀ payload ∈ r.2.payloads, ∀ row,
      Stores rt r.1 payload row → p row) :
    ∀ row ∈ (runRequests rt w requests).session.stored .events, p row := by
  induction requests generalizing w with
  | nil => exact h
  | cons r rest ih =>
      refine ih (hw.request rt r.1 r.2) ?_ fun r' hr' => hstores r' (List.mem_cons_of_mem _ hr')
      exact request_all hw h r.1 r.2 (hstores r List.mem_cons_self)

end

end BlueTeam.Services
