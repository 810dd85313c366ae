/- GID: BlueTeam/Services/Replay
   generality: I
   source: services/api/app/services/ingestion.py, intel.py
   digest: Replaying a batch changes nothing, up to the sightings of indicators. -/

import BlueTeam.Services.Batch

set_option autoImplicit false
set_option relaxedAutoImplicit false

namespace BlueTeam.Services

open BlueTeam.Python BlueTeam.Schema BlueTeam.Lib BlueTeam.Lib.Exec BlueTeam.Ingest

/-- The event of a canonical payload. -/
def canonicalEvent (rt : Runtime) (tenantId : String) (payload : JsonObject) :
    Except Exn CanonicalEvent :=
  CanonicalEvent.modelValidate rt (Json.setKey payload "tenant_id" (.str tenantId))

/-- It needs neither the clock nor new ids. -/
theorem normalizePayload_canonical {payload : JsonObject} (h : isCanonical payload = true)
    (rt : Runtime) (tenantId : String) (t : Ticks) :
    normalizePayload rt payload tenantId t = (canonicalEvent rt tenantId payload, t) := by
  unfold normalizePayload
  rw [if_pos h]
  rfl

/-- The event of a canonical payload is stored, under its id. -/
def Kept (rt : Runtime) (tenantId : String) (rows : List SecurityEvent) (payload : JsonObject)
    (id : String) : Prop :=
  ∃ raw row, canonicalEvent rt tenantId payload = .ok raw ∧ raw.id = id ∧ row ∈ rows ∧
    RowOf tenantId raw row

theorem Kept.mono {rt : Runtime} {tenantId : String} {rows rows' : List SecurityEvent}
    {payload : JsonObject} {id : String} (h : Kept rt tenantId rows payload id)
    (hsub : rows ⊆ rows') : Kept rt tenantId rows' payload id := by
  obtain ⟨raw, row, hraw, hid, hrow, hof⟩ := h
  exact ⟨raw, row, hraw, hid, hsub hrow, hof⟩

/-! ### The first call -/

/-- How far a batch has come: as long as every payload was accepted, every event is stored. -/
def Accepting (rt : Runtime) (tenantId : String) (rows : List SecurityEvent)
    (done : List JsonObject) (accepted : List String) : Prop :=
  accepted.length ≤ done.length ∧
    (accepted.length = done.length → List.Forall₂ (Kept rt tenantId rows) done accepted)

section

variable {rt : Runtime} {tenantId : String}

/-- A payload that was not accepted ends it. -/
theorem Accepting.stop {rows rows' : List SecurityEvent} {done : List JsonObject}
    {accepted : List String} (h : Accepting rt tenantId rows done accepted) (payload : JsonObject) :
    Accepting rt tenantId rows' (done ++ [payload]) accepted := by
  have hle := h.1
  refine ⟨?_, ?_⟩
  · rw [List.length_append, List.length_singleton]
    omega
  · intro hlen
    rw [List.length_append, List.length_singleton] at hlen
    omega

theorem Accepting.turn {payload : JsonObject} {events : List SecurityEvent}
    {dead : List DeadLetterEvent} {rows : List SecurityEvent} {done : List JsonObject}
    {acc acc' : IngestResult} {s : Session schema}
    (h : Accepting rt tenantId rows done acc.accepted) (hcanonical : isCanonical payload = true)
    (hturn : Turn rt tenantId payload events dead rows acc acc' s) :
    Accepting rt tenantId (s.stored .events) (done ++ [payload]) acc'.accepted := by
  cases hturn with
  | accepted raw row findings normalised rowOf holds =>
      refine ⟨?_, ?_⟩
      · simpa using h.1
      · intro hlen
        rw [List.length_append, List.length_append] at hlen
        have hkept := h.2 (Nat.add_right_cancel hlen)
        refine List.rel_append (hkept.imp fun _ _ hk => hk.mono holds.tail.rows) ?_
        refine .cons ?_ .nil
        obtain ⟨t, t', hraw⟩ := normalised
        rw [normalizePayload_canonical hcanonical] at hraw
        exact ⟨raw, row, (Prod.mk.inj hraw).1, rfl, holds.mem, rowOf⟩
  | duplicate => exact h.stop payload
  | collision => exact h.stop payload
  | invalid => exact h.stop payload

end

section

variable {rt : Runtime} (hclock : rt.AwareClock) (tenantId actorId : String)

include hclock

theorem acceptingLoop_spec {payloads : List JsonObject}
    (hcanonical : ∀ payload ∈ payloads, isCanonical payload = true) :
    Triple (fun _ => True) (loop (ingestPayload rt tenantId actorId) {} payloads)
      (fun result w => Accepting rt tenantId (w.session.stored .events) payloads result.accepted)
      (fun _ _ => True) := by
  have hloop := triple_loop (E := fun _ _ => True) (f := ingestPayload rt tenantId actorId)
    (fun acc rest w => ∃ done, payloads = done ++ rest ∧
      Accepting rt tenantId (w.session.stored .events) done acc.accepted) ?_ {} payloads
  · refine hloop.conseq ?_ ?_ fun _ _ h => h
    · intro w _
      exact ⟨[], rfl, Nat.le_refl _, fun _ => .nil⟩
    · rintro acc w ⟨done, hdone, haccepting⟩
      rw [List.append_nil] at hdone
      subst hdone
      exact haccepting
  · intro acc payload rest
    refine triple_from ?_
    rintro w₀ ⟨done, hdone, haccepting⟩
    refine (ingestPayload_turn hclock tenantId actorId acc payload w₀).post ?_
    intro acc' w hturn
    refine ⟨done ++ [payload], by simp [hdone], haccepting.turn ?_ hturn⟩
    exact hcanonical payload (by simp [hdone])

/-- A call that accepts its whole batch leaves every event of the batch stored. -/
theorem request_accepted {payloads : List JsonObject}
    (hcanonical : ∀ payload ∈ payloads, isCanonical payload = true) {w : World}
    {result : IngestResult}
    (hfirst : (request (ingestPayloads rt tenantId actorId payloads) w).1 = .ok result)
    (hall : result.accepted.length = payloads.length) :
    List.Forall₂ (Kept rt tenantId
      ((request (ingestPayloads rt tenantId actorId payloads) w).2.session.stored .events))
      payloads result.accepted := by
  have haccepting := request_ingest_stored
    (P := fun result rows => Accepting rt tenantId rows payloads result.accepted) ?_
    (acceptingLoop_spec hclock tenantId actorId hcanonical) trivial hfirst
  · exact haccepting.2 hall
  · intro result rows rows' hsub hrows
    exact ⟨hrows.1, fun hlen => (hrows.2 hlen).imp fun _ _ hk => hk.mono hsub⟩

end

/-! ### The second call -/

section

variable {rt : Runtime} {tenantId : String} {w : World} {event raw : CanonicalEvent}
  {row : SecurityEvent}

/-- Two events of a tenant with one idempotency key may not be together. -/
theorem clash_of_key {r r' : SecurityEvent} {key : String} (htenant : r.tenantId = r'.tenantId)
    (hkey : r.idempotencyKey = some key) (hkey' : r'.idempotencyKey = some key) :
    schema.Clash (t := .events) r r' := by
  refine ⟨htenant, ?_, ?_⟩
  · show (r.idempotencyKey.map fun key => [key]) = r'.idempotencyKey.map fun key => [key]
    rw [hkey, hkey']
  · show (r.idempotencyKey.map fun key => [key]).isSome = true
    rw [hkey]
    rfl

theorem sameKey_run (hkeyed : schema.Keyed (w.session.stored .events))
    (hrow : row ∈ w.session.stored .events) (hof : RowOf tenantId raw row)
    (horigin : SameOrigin event raw) : sameKey tenantId event w =
      (.ok (if given raw.idempotencyKey then some row else none), w) := by
  unfold sameKey
  rw [horigin.idempotencyKey]
  by_cases hgiven : given raw.idempotencyKey = true
  · obtain ⟨key, hkey⟩ : ∃ key, raw.idempotencyKey = some key := by
      cases hraw : raw.idempotencyKey with
      | none =>
          rw [hraw] at hgiven
          cases hgiven
      | some key => exact ⟨key, rfl⟩
    have hfilter : (w.session.stored .events).filter (fun r : Table.events.Row =>
        Table.tenantId r = tenantId && r.idempotencyKey = raw.idempotencyKey) = [row] := by
      refine Schema.filter_eq_singleton hkeyed hrow ?_ ?_
      · simp [Table.tenantId, hof.tenant, hof.idempotencyKey]
      · intro r hr hmatch
        simp only [Bool.and_eq_true, decide_eq_true_eq] at hmatch
        have htenant : r.tenantId = row.tenantId := hmatch.1.trans hof.tenant.symm
        have hrkey := hmatch.2.trans hkey
        have hrowkey := hof.idempotencyKey.trans hkey
        exact ⟨fun hne => hne.2 (clash_of_key htenant hrkey hrowkey),
          fun hne => hne.2 (clash_of_key htenant.symm hrowkey hrkey)⟩
    rw [if_pos hgiven, if_pos hgiven]
    simp only [selectOne, select, bind_run, gets, andThen, hfilter]
    rfl
  · rw [if_neg hgiven, if_neg hgiven]
    rfl

theorem getEvent_run (hkeyed : schema.Keyed (w.session.stored .events))
    (hrow : row ∈ w.session.stored .events) : get .events row.id w = (.ok (some row), w) := by
  have hfilter : (w.session.stored .events).filter (fun r : Table.events.Row =>
      Table.id r = row.id) = [row] := by
    refine Schema.filter_eq_singleton hkeyed hrow ?_ ?_
    · exact decide_eq_true rfl
    · intro r hr hmatch
      have hid := of_decide_eq_true hmatch
      exact ⟨fun hne => hne.1 hid, fun hne => hne.1 hid.symm⟩
  have hfind : (w.session.stored .events).find? (fun r : Table.events.Row =>
      Table.id r = row.id) = some row := by
    rw [← List.head?_filter, hfilter]
    rfl
  simp only [get, gets, hfind]

/-- The event of a stored payload is a duplicate. -/
theorem placeEvent_run (rt : Runtime) (hkeyed : schema.Keyed (w.session.stored .events))
    (hrow : row ∈ w.session.stored .events) (hof : RowOf tenantId raw row)
    (horigin : SameOrigin event raw) (actorId : String) (payload : JsonObject)
    (acc : IngestResult) : placeEvent rt tenantId actorId payload acc event w =
      (.ok { acc with duplicates := acc.duplicates ++ [raw.id] }, w) := by
  unfold placeEvent
  rw [bind_run, sameKey_run hkeyed hrow hof horigin]
  by_cases hgiven : given raw.idempotencyKey = true
  · rw [if_pos hgiven]
    simp only [andThen, pure_run, hof.id]
  · have hid : event.id = row.id := horigin.id.trans hof.id.symm
    rw [if_neg hgiven]
    simp only [andThen, bind_run, hid, getEvent_run hkeyed hrow]
    rw [if_neg (not_not.mpr hof.tenant)]
    simp only [pure_run, hof.id]

theorem recordSightings_run_committed (hclock : rt.AwareClock) (tenantId : String)
    (event : CanonicalEvent) (hpending : w.session.pending = []) :
    ∃ matched s', recordSightings rt tenantId event w =
        (.ok matched, { w.tick with session := s' }) ∧
      Resighted tenantId (Sighted rt tenantId (w.now rt) event w.session) w.session s' := by
  obtain ⟨matched, s', hrun, hsighted⟩ := recordSightings_run tenantId hclock event w
  refine ⟨matched, s', hrun.trans ?_, hsighted⟩
  split
  · rfl
  · rw [bind_run, flush_run_of_pending_nil (hsighted.pending.trans hpending)]
    rfl

theorem SameOrigin.sighted (h : SameOrigin event raw) (now : DateTime) (s : Session schema) :
    Sighted rt tenantId now event s = Sighted rt tenantId now raw s := by
  unfold Sighted
  rw [h.candidates]

theorem normalizeAndEnrich_run (hclock : rt.AwareClock) (hpending : w.session.pending = [])
    {payload : JsonObject} (hcanonical : isCanonical payload = true)
    (hraw : canonicalEvent rt tenantId payload = .ok raw) :
    ∃ event s', normalizeAndEnrich rt tenantId payload w =
        (.ok event, { w.tick.tick with session := s' }) ∧ SameOrigin event raw ∧
      Resighted tenantId (Sighted rt tenantId (rt.now (w.ticks.readings + 1)) raw w.session)
        w.session s' := by
  have hdraw : draw (normalizePayload rt payload tenantId) w = (.ok raw, w) := by
    simp only [draw, zoom, normalizePayload_canonical hcanonical, hraw, Except.mapError]
  have horigin := enrichEvent_sameOrigin rt (overlay defaultIntel
    (overlay [] ((w.iocs tenantId (w.now rt)).map (intelEntry rt)))) raw
  obtain ⟨matched, s', hrun, hsighted⟩ := recordSightings_run_committed (w := w.tick)
    hclock tenantId (enrichEvent rt (overlay defaultIntel
      (overlay [] ((w.iocs tenantId (w.now rt)).map (intelEntry rt)))) raw) hpending
  refine ⟨_, s', ?_, horigin, ?_⟩
  · unfold normalizeAndEnrich
    rw [bind_run, hdraw]
    simp only [andThen, bind_run, activeIntelMap_run hclock, hrun]
    rfl
  · rw [horigin.sighted] at hsighted
    exact hsighted

/-- A turn with a payload whose event is stored: the clock is read twice, and the payload is a
duplicate. -/
theorem replayTurn_run (hclock : rt.AwareClock) (hpending : w.session.pending = [])
    (hkeyed : schema.Keyed (w.session.stored .events)) (actorId : String) {payload : JsonObject}
    (hcanonical : isCanonical payload = true)
    (hraw : canonicalEvent rt tenantId payload = .ok raw)
    (hrow : row ∈ w.session.stored .events) (hof : RowOf tenantId raw row) (acc : IngestResult) :
    ∃ s', ingestPayload rt tenantId actorId acc payload w =
        (.ok { acc with duplicates := acc.duplicates ++ [raw.id] },
          { w.tick.tick with session := s' }) ∧
      Resighted tenantId (Sighted rt tenantId (rt.now (w.ticks.readings + 1)) raw w.session)
        w.session s' := by
  obtain ⟨event, s', hrun, horigin, hsighted⟩ := normalizeAndEnrich_run hclock hpending hcanonical
    hraw
  refine ⟨s', ?_, hsighted⟩
  have hevents : s'.stored .events = w.session.stored .events := hsighted.others _ (by decide)
  have hplace := placeEvent_run (w := { w.tick.tick with session := s' }) rt (hevents ▸ hkeyed)
    (hevents ▸ hrow) hof horigin actorId payload acc
  unfold ingestPayload
  rw [bind_run]
  simp only [attempt, hrun, andThen]
  exact hplace

end

/-- When its turn comes, no event of the batch has a value that is an active indicator of the
tenant. Every turn reads the clock twice, the second time for the sightings. -/
def Unsighted (rt : Runtime) (tenantId : String) (payloads : List JsonObject) (readings : Nat)
    (s : Session schema) : Prop :=
  ∀ i payload raw, payloads[i]? = some payload → canonicalEvent rt tenantId payload = .ok raw →
    ¬ Sighted rt tenantId (rt.now (readings + 2 * i + 1)) raw s

theorem unsighted_cons {rt : Runtime} {tenantId : String} {payload : JsonObject}
    {payloads : List JsonObject} {raw : CanonicalEvent} {readings : Nat} {s : Session schema}
    (hraw : canonicalEvent rt tenantId payload = .ok raw) :
    Unsighted rt tenantId (payload :: payloads) readings s ↔
      ¬ Sighted rt tenantId (rt.now (readings + 1)) raw s ∧
        Unsighted rt tenantId payloads (readings + 2) s := by
  constructor
  · intro h
    refine ⟨h 0 payload raw rfl hraw, ?_⟩
    intro i payload' raw' hpayload hraw'
    have hlater := h (i + 1) payload' raw' hpayload hraw'
    have hreading : readings + 2 * (i + 1) + 1 = readings + 2 + 2 * i + 1 := by omega
    rwa [hreading] at hlater
  · rintro ⟨hfirst, hrest⟩ i payload' raw' hpayload hraw'
    cases i with
    | zero =>
        obtain rfl := Option.some.inj hpayload
        rw [hraw] at hraw'
        obtain rfl := Except.ok.inj hraw'
        exact hfirst
    | succ i =>
        have hlater := hrest i payload' raw' hpayload hraw'
        have hreading : readings + 2 * (i + 1) + 1 = readings + 2 + 2 * i + 1 := by omega
        rwa [hreading]

/-- A replayed batch is all duplicates; the only trace it may leave are sightings. -/
theorem replayLoop_run {rt : Runtime} (hclock : rt.AwareClock) (tenantId actorId : String)
    {payloads : List JsonObject} {ids : List String}
    (hcanonical : ∀ payload ∈ payloads, isCanonical payload = true) {w : World}
    (hpending : w.session.pending = []) (hkeyed : schema.Keyed (w.session.stored .events))
    (hkept : List.Forall₂ (Kept rt tenantId (w.session.stored .events)) payloads ids)
    (acc : IngestResult) :
    ∃ w', loop (ingestPayload rt tenantId actorId) acc payloads w =
        (.ok { acc with duplicates := acc.duplicates ++ ids }, w') ∧
      Resighted tenantId (¬ Unsighted rt tenantId payloads w.ticks.readings w.session) w.session
        w'.session := by
  induction payloads generalizing ids w acc with
  | nil =>
      cases hkept
      refine ⟨w, by simp [loop], Resighted.refl tenantId ?_ _⟩
      simp [Unsighted]
  | cons payload payloads ih =>
      cases hkept with
      | @cons _ id _ ids hfirst hrest =>
          obtain ⟨raw, row, hraw, rfl, hrow, hof⟩ := hfirst
          obtain ⟨s₁, hrun₁, hsighted₁⟩ := replayTurn_run hclock hpending hkeyed actorId
            (hcanonical payload (by simp)) hraw hrow hof acc
          have hevents : s₁.stored .events = w.session.stored .events :=
            hsighted₁.others _ (by decide)
          obtain ⟨w', hrun₂, hsighted₂⟩ := ih (w := { w.tick.tick with session := s₁ })
            (fun p hp => hcanonical p (by simp [hp])) (hsighted₁.pending.trans hpending)
            (hevents ▸ hkeyed) (hevents ▸ hrest)
            { acc with duplicates := acc.duplicates ++ [raw.id] }
          refine ⟨w', ?_, hsighted₁.trans hsighted₂ ?_ ?_⟩
          · show andThen _ (ingestPayload rt tenantId actorId acc payload w) = _
            rw [hrun₁]
            simpa [andThen] using hrun₂
          · intro hnot
            obtain ⟨hnone, hlater⟩ := (unsighted_cons hraw).mp (not_not.mp hnot)
            refine ⟨hnone, ?_⟩
            rintro rfl
            exact not_not.mpr hlater
          · intro hsome
            by_cases hfirst : Sighted rt tenantId (rt.now (w.ticks.readings + 1)) raw w.session
            · exact .inl hfirst
            · refine .inr ?_
              rintro rfl hlater
              exact hsome ((unsighted_cons hraw).mpr ⟨hfirst, hlater⟩)

/-- A second call with a batch that was accepted in full reports every payload as a duplicate and
changes none of the tenant's tables, whatever was requested in between, exactly if no value of the
batch is an active indicator of the tenant by then. -/
theorem replay_noop_iff {rt : Runtime} (hclock : rt.AwareClock) (tenantId actorId actorId' : String)
    (w : World) (hw : Committed w) (payloads : List JsonObject)
    (hcanonical : ∀ payload ∈ payloads, isCanonical payload = true) (result : IngestResult)
    (hfirst : (request (ingestPayloads rt tenantId actorId payloads) w).1 = .ok result)
    (hall : result.accepted.length = payloads.length) (later : List (String × Call)) :
    let before := runRequests rt (request (ingestPayloads rt tenantId actorId payloads) w).2 later
    let second := request (ingestPayloads rt tenantId actorId' payloads) before
    (second.1 = .ok { duplicates := result.accepted } ∧
        ∀ t, second.2.rowsOf t tenantId = before.rowsOf t tenantId) ↔
      Unsighted rt tenantId payloads before.ticks.readings before.session := by
  intro before second
  have hcommitted₁ : Committed (request (ingestPayloads rt tenantId actorId payloads) w).2 := by
    have hbody := hw.request rt tenantId (.ingest actorId payloads)
    rwa [Call.body, request_forget] at hbody
  obtain ⟨hcommitted, hsub⟩ := runRequests_committed rt hcommitted₁ later
  have hkept := (request_accepted hclock tenantId actorId hcanonical hfirst hall).imp
    fun _ _ hk => hk.mono hsub
  obtain ⟨w', hloop, hsighted⟩ := replayLoop_run hclock tenantId actorId' hcanonical
    hcommitted.pending hcommitted.keyed hkept {}
  have hsecond : second = (.ok { duplicates := result.accepted }, w') := by
    refine request_run_of_pending_nil ?_ (hsighted.pending.trans hcommitted.pending)
    unfold ingestPayloads
    rw [bind_run, hloop]
    rfl
  rw [hsecond]
  constructor
  · rintro ⟨-, hsame⟩
    by_contra hsome
    have hmore := hsighted.more hsome
    have hrows : (w'.session.stored .indicators).filter
        (fun r : IndicatorOfCompromise => r.tenantId = tenantId) =
          (before.session.stored .indicators).filter fun r => r.tenantId = tenantId :=
      hsame .indicators
    unfold sightingsOf at hmore
    rw [hrows] at hmore
    exact lt_irrefl _ hmore
  · intro hnone
    refine ⟨rfl, fun t => ?_⟩
    unfold World.rowsOf
    rw [hsighted.same (not_not.mpr hnone)]

theorem committed_emptyWorld : Committed emptyWorld :=
  ⟨rfl, .nil⟩

/-- An address that the tenant watches for. -/
def watchedWorld : World :=
  { session :=
      { stored := Database.set (S := schema) (fun _ => []) .indicators
          [{ id := "ioc_1", tenantId := "ten_a", indicatorType := "ip", value := "203.0.113.9"
             source := "feed", confidence := .finite 1
             expiresAt := ⟨99999999999999999, some 0⟩
             createdAt := ⟨0, some 0⟩, createdBy := "usr_1"
             updatedAt := ⟨0, some 0⟩ }]
        pending := [] } }

theorem replay_noop_beacon :
    let before := (request (ingestPayloads sampleRuntime "ten_a" "usr_1" [beaconPayload])
      emptyWorld).2
    let second := request (ingestPayloads sampleRuntime "ten_a" "usr_1" [beaconPayload]) before
    second.1 = .ok { duplicates := ["evt_2"] } ∧
      ∀ t, second.2.rowsOf t "ten_a" = before.rowsOf t "ten_a" := by
  have hfirst : (request (ingestPayloads sampleRuntime "ten_a" "usr_1" [beaconPayload])
      emptyWorld).1 = .ok { accepted := ["evt_2"] } ∧
      (request (ingestPayloads sampleRuntime "ten_a" "usr_1" [beaconPayload])
        emptyWorld).2.session.stored .indicators = [] := by decide +kernel
  obtain ⟨haccepted, hnone⟩ := hfirst
  refine (replay_noop_iff (fun _ => rfl) "ten_a" "usr_1" "usr_1" emptyWorld committed_emptyWorld
    [beaconPayload] (by decide) { accepted := ["evt_2"] } haccepted rfl []).mpr ?_
  rintro i payload raw - - ⟨candidate, -, r, hr, -⟩
  rw [show (runRequests sampleRuntime (request (ingestPayloads sampleRuntime "ten_a" "usr_1"
    [beaconPayload]) emptyWorld).2 []).session.stored .indicators = [] from hnone] at hr
  cases hr

/-- The replay of a batch with a watched address counts a second sighting. -/
theorem replay_counts_sighting :
    ¬ ∀ (rt : Runtime), rt.AwareClock → ∀ (tenantId actorId : String) (w : World), Committed w →
      ∀ payloads : List JsonObject, (∀ payload ∈ payloads, isCanonical payload = true) →
        ∀ result, (request (ingestPayloads rt tenantId actorId payloads) w).1 = .ok result →
          result.accepted.length = payloads.length →
            let before := (request (ingestPayloads rt tenantId actorId payloads) w).2
            let second := request (ingestPayloads rt tenantId actorId payloads) before
            second.1 = .ok { duplicates := result.accepted } ∧
              ∀ t, second.2.rowsOf t tenantId = before.rowsOf t tenantId := by
  intro h
  have hruns : (request (ingestPayloads sampleRuntime "ten_a" "usr_1" [beaconPayload])
      watchedWorld).1 = .ok { accepted := ["evt_2"] } ∧
      ((request (ingestPayloads sampleRuntime "ten_a" "usr_1" [beaconPayload])
        (request (ingestPayloads sampleRuntime "ten_a" "usr_1" [beaconPayload])
          watchedWorld).2).2.rowsOf .indicators "ten_a") ≠
        (request (ingestPayloads sampleRuntime "ten_a" "usr_1" [beaconPayload])
          watchedWorld).2.rowsOf .indicators "ten_a" := by decide +kernel
  obtain ⟨haccepted, hcounts⟩ := hruns
  have hsame := (h sampleRuntime (fun _ => rfl) "ten_a" "usr_1" watchedWorld ⟨rfl, .nil⟩
    [beaconPayload] (by decide) { accepted := ["evt_2"] } haccepted rfl).2 .indicators
  exact hcounts hsame

end BlueTeam.Services
