/- GID: BlueTeam/Services/Dedupe
   generality: I
   source: services/api/app/services/ingestion.py, packages/ingest-adapters/blueteam_ingest/router.py
   digest: A payload whose route carries its id is stored once, however often it is ingested. -/

import BlueTeam.Ingest.Acceptance
import BlueTeam.Ingest.Routes
import BlueTeam.Services.Batch

set_option autoImplicit false
set_option relaxedAutoImplicit false

namespace BlueTeam.Services

open BlueTeam.Python BlueTeam.Schema BlueTeam.Lib BlueTeam.Lib.Exec BlueTeam.Ingest

/-- The stored events that are taken for the payload: under its id, or under its key. -/
def storedFor (rt : Runtime) (payload : JsonObject) (row : SecurityEvent) : Bool :=
  carriedId rt payload = some row.id ||
    (given (carriedKey rt payload) && row.idempotencyKey = carriedKey rt payload)

/-- Nobody else uses the id or the key: another tenant has no event under the id, and the tenant
itself has none with the key under another id. -/
def Apart (tenantId id : String) (key : Option String) (owner otherId : String)
    (otherKey : Option String) : Prop :=
  if owner = tenantId then given key = true → otherKey = key → otherId = id else otherId ≠ id

/-- `normalize_payload` accepts the payload. -/
def Accepts (rt : Runtime) (tenantId : String) (payload : JsonObject) : Prop :=
  ∃ raw, Normalises rt tenantId payload raw

section

variable {rt : Runtime} {tenantId : String} {payload : JsonObject} {id : String}

theorem Normalises.carried {raw : CanonicalEvent} (h : Normalises rt tenantId payload raw) :
    Carried rt payload raw := by
  obtain ⟨t, t', hrun⟩ := h
  exact normalizePayload_carried hrun

theorem Normalises.id_eq {raw : CanonicalEvent} (h : Normalises rt tenantId payload raw)
    (hid : carriedId rt payload = some id) : raw.id = id := by
  have hfrom := h.carried.id
  rw [hid] at hfrom
  exact hfrom

/-- What a normalisation of the payload recognises is stored for the payload. -/
theorem storedFor_of_recognises {raw : CanonicalEvent} {row : SecurityEvent}
    (h : Normalises rt tenantId payload raw) (hid : carriedId rt payload = some id)
    (hrow : Recognises raw row) : storedFor rt payload row = true := by
  unfold storedFor
  rcases hrow with ⟨hgiven, hkey⟩ | hrow
  · rw [h.carried.idempotencyKey] at hgiven hkey
    simp [hgiven, hkey]
  · rw [h.id_eq hid] at hrow
    simp [hid, hrow]

/-- The event of the payload is stored. -/
def Present (rt : Runtime) (tenantId : String) (payload : JsonObject) (rows : List SecurityEvent) :
    Prop :=
  ∃ row ∈ rows, row.tenantId = tenantId ∧ storedFor rt payload row = true

theorem Present.mono {rows rows' : List SecurityEvent} (h : Present rt tenantId payload rows)
    (hsub : rows ⊆ rows') : Present rt tenantId payload rows' := by
  obtain ⟨row, hrow, hfor⟩ := h
  exact ⟨row, hsub hrow, hfor⟩

/-- Every event is apart from the payload. -/
def AllApart (rt : Runtime) (tenantId : String) (payload : JsonObject) (id : String)
    (rows : List SecurityEvent) : Prop :=
  ∀ row ∈ rows, Apart tenantId id (carriedKey rt payload) row.tenantId row.id row.idempotencyKey

/-- Every event that the payloads become is apart from the payload. -/
def OthersApart (rt : Runtime) (tenantId : String) (payload : JsonObject) (id owner : String)
    (payloads : List JsonObject) : Prop :=
  ∀ other ∈ payloads, ∀ raw, Normalises rt owner other raw →
    Apart tenantId id (carriedKey rt payload) owner raw.id raw.idempotencyKey

theorem AllApart.add {rows : List SecurityEvent} {owner : String} {raw : CanonicalEvent}
    {row : SecurityEvent} (h : AllApart rt tenantId payload id rows)
    (hraw : Apart tenantId id (carriedKey rt payload) owner raw.id raw.idempotencyKey)
    (hrow : RowOf owner raw row) : AllApart rt tenantId payload id (rows ++ [row]) := by
  intro r hr
  rcases List.mem_append.mp hr with hr | hr
  · exact h r hr
  · obtain rfl := List.mem_singleton.mp hr
    rw [hrow.tenant, hrow.id, hrow.idempotencyKey]
    exact hraw

/-! ### One batch -/

/-- A turn with the payload leaves its event stored: it can neither be refused nor collide. -/
theorem present_of_turn {events : List SecurityEvent} {dead : List DeadLetterEvent}
    {rows : List SecurityEvent} {acc acc' : IngestResult} {s : Session schema}
    (hid : carriedId rt payload = some id) (haccepts : ∀ e, ¬ Refuses rt tenantId payload e)
    (hapart : AllApart rt tenantId payload id (s.stored .events))
    (h : Turn rt tenantId payload events dead rows acc acc' s) :
    Present rt tenantId payload (s.stored .events) := by
  cases h with
  | accepted raw row findings normalised rowOf holds =>
      refine ⟨row, holds.mem, rowOf.tenant, ?_⟩
      exact storedFor_of_recognises normalised hid (.inr rowOf.id)
  | duplicate raw row normalised stored tenant recognised holds =>
      exact ⟨row, stored, tenant, storedFor_of_recognises normalised hid recognised⟩
  | collision raw row letter normalised stored tenant id' own holds =>
      have hother := hapart row stored
      unfold Apart at hother
      rw [if_neg tenant] at hother
      exact absurd (id'.trans (normalised.id_eq hid)) hother
  | invalid e letter refused own holds => exact absurd refused (haccepts e)

theorem allApart_of_turn {other : JsonObject} {events : List SecurityEvent}
    {dead : List DeadLetterEvent} {rows : List SecurityEvent} {acc acc' : IngestResult}
    {s : Session schema} (hevents : AllApart rt tenantId payload id events)
    (hother : ∀ raw, Normalises rt tenantId other raw →
      Apart tenantId id (carriedKey rt payload) tenantId raw.id raw.idempotencyKey)
    (h : Turn rt tenantId other events dead rows acc acc' s) :
    AllApart rt tenantId payload id (s.all .events) := by
  cases h with
  | accepted raw row findings normalised rowOf holds =>
      rw [holds.events]
      exact hevents.add (hother raw normalised) rowOf
  | duplicate raw row normalised stored tenant recognised holds =>
      rw [holds.events]
      exact hevents
  | collision raw row letter normalised stored tenant id' own holds =>
      rw [holds.events]
      exact hevents
  | invalid e letter refused own holds =>
      rw [holds.events]
      exact hevents

theorem Accepts.not_refuses (h : Accepts rt tenantId payload) (e : Exn) :
    ¬ Refuses rt tenantId payload e := by
  rintro ⟨t, t', hrefused⟩
  obtain ⟨raw, t₁, t₂, haccepted⟩ := h
  obtain ⟨raw', t₃, hagain, -⟩ := steady_payload payload tenantId t₁ t raw t₂ haccepted
  rw [hagain] at hrefused
  cases hrefused

theorem accepts_of_isOk {t : Ticks}
    (h : (normalizePayload rt payload tenantId t).1.toOption.isSome = true) :
    Accepts rt tenantId payload := by
  rcases hrun : normalizePayload rt payload tenantId t with ⟨⟨e⟩ | ⟨raw⟩, t'⟩
  · rw [hrun] at h
    cases h
  · exact ⟨raw, t, t', hrun⟩

/-- A batch that holds the payload leaves its event stored, if it comes to an end. -/
theorem presentLoop_spec (hclock : rt.AwareClock) (actorId : String)
    (hid : carriedId rt payload = some id) (haccepts : Accepts rt tenantId payload)
    {payloads : List JsonObject} (hothers : OthersApart rt tenantId payload id tenantId payloads)
    (hmem : payload ∈ payloads) :
    Triple (fun w => AllApart rt tenantId payload id (w.session.all .events))
      (loop (ingestPayload rt tenantId actorId) {} payloads)
      (fun _ w => Present rt tenantId payload (w.session.stored .events)) (fun _ _ => True) := by
  -- The event is stored, or the payload is still to come.
  let I : IngestResult → List JsonObject → World → Prop := fun _ rest w =>
    AllApart rt tenantId payload id (w.session.all .events) ∧ rest ⊆ payloads ∧
      (payload ∈ rest ∨ Present rt tenantId payload (w.session.stored .events))
  have hloop := triple_loop (E := fun _ _ => True) (f := ingestPayload rt tenantId actorId) I ?_ {}
    payloads
  · refine hloop.conseq ?_ ?_ fun _ _ h => h
    · intro w hw
      exact ⟨hw, List.Subset.refl _, .inl hmem⟩
    · rintro acc w ⟨-, -, hnone | hpresent⟩
      · cases hnone
      · exact hpresent
  · intro acc other rest
    refine triple_from ?_
    rintro w₀ ⟨hapart, hsub, hpresent⟩
    obtain ⟨hother, hrest⟩ := List.cons_subset.mp hsub
    refine (ingestPayload_turn hclock tenantId actorId acc other w₀).post ?_
    intro acc' w hturn
    have hapart' := allApart_of_turn hapart (hothers other hother) hturn
    refine ⟨hapart', hrest, ?_⟩
    rcases hpresent with hcoming | hpresent
    · rcases List.mem_cons.mp hcoming with rfl | hlater
      · refine .inr (present_of_turn hid haccepts.not_refuses ?_ hturn)
        exact fun row hrow => hapart' row (List.mem_append_left _ hrow)
      · exact .inl hlater
    · exact .inr (hpresent.mono hturn.rows)

/-! ### Whole runs -/

theorem AllApart.runRequests {w : World} (hw : Committed w)
    (h : AllApart rt tenantId payload id (w.session.stored .events))
    (requests : List (String × Call))
    (hothers : ∀ r ∈ requests, OthersApart rt tenantId payload id r.1 r.2.payloads) :
    AllApart rt tenantId payload id
      ((Services.runRequests rt w requests).session.stored .events) := by
  refine runRequests_all hw h requests ?_
  intro r hr other hother row hrow
  obtain ⟨raw, t, t', hraw, hof⟩ := hrow.rowOf
  rw [hof.tenant, hof.id, hof.idempotencyKey]
  exact hothers r hr other hother raw ⟨t, t', hraw⟩

/-- Where the event of the payload is stored, it is the only one. -/
theorem storedFor_unique {rows : List SecurityEvent} (hkeyed : schema.Keyed (t := .events) rows)
    (hid : carriedId rt payload = some id) (hapart : AllApart rt tenantId payload id rows)
    (hpresent : Present rt tenantId payload rows) :
    ∃ row, (rows.filter fun r => decide (r.tenantId = tenantId) && storedFor rt payload r) =
      [row] := by
  have hids : ∀ r ∈ rows, r.tenantId = tenantId → storedFor rt payload r = true → r.id = id := by
    intro r hr htenant hfor
    have hown := hapart r hr
    unfold Apart at hown
    rw [if_pos htenant] at hown
    unfold storedFor at hfor
    rw [hid, Bool.or_eq_true, Bool.and_eq_true, decide_eq_true_eq, decide_eq_true_eq] at hfor
    rcases hfor with hfor | ⟨hgiven, hkey⟩
    · exact (Option.some.inj hfor).symm
    · exact hown hgiven hkey
  obtain ⟨row, hrow, htenant, hfor⟩ := hpresent
  refine ⟨row, Schema.filter_eq_singleton hkeyed hrow (by simp [htenant, hfor]) ?_⟩
  intro r hr hmatch
  rw [Bool.and_eq_true, decide_eq_true_eq] at hmatch
  have hsame : r.id = row.id :=
    (hids r hr hmatch.1 hmatch.2).trans (hids row hrow htenant hfor).symm
  exact ⟨fun hne => hne.1 hsame, fun hne => hne.1 hsame.symm⟩

end

/-- A payload that its route identifies is stored once: over every run of requests of all tenants in
which a batch with it is ingested, and in which nobody else uses its id or its key, the tenant has
one event for it in the end. -/
theorem carried_payload_stored_once {rt : Runtime} (hclock : rt.AwareClock) (tenantId : String)
    (payload : JsonObject) (haccepts : Accepts rt tenantId payload) (id : String)
    (hid : carriedId rt payload = some id) (w : World) (hw : Committed w)
    (hstored : AllApart rt tenantId payload id (w.session.stored .events))
    (before after : List (String × Call)) (actorId : String) (payloads : List JsonObject)
    (hmem : payload ∈ payloads)
    (hothers : ∀ r ∈ before ++ (tenantId, .ingest actorId payloads) :: after,
      OthersApart rt tenantId payload id r.1 r.2.payloads)
    (result : IngestResult)
    (hresult : (request (ingestPayloads rt tenantId actorId payloads)
      (runRequests rt w before)).1 = .ok result) :
    (((runRequests rt w (before ++ (tenantId, .ingest actorId payloads) :: after)).rowsOf .events
      tenantId).filter (storedFor rt payload)).length = 1 := by
  have hbefore := (runRequests_committed rt hw before).1
  have hothers' : ∀ r ∈ before, OthersApart rt tenantId payload id r.1 r.2.payloads :=
    fun r hr => hothers r (List.mem_append_left _ hr)
  have hapart := hstored.runRequests hw before hothers'
  have hpresent := request_ingest_stored
    (P := fun _ rows => Present rt tenantId payload rows)
    (fun _ _ _ hsub hrows => hrows.mono hsub)
    (presentLoop_spec hclock actorId hid haccepts (hothers (tenantId, .ingest actorId payloads)
      (by simp)) hmem) ?_ hresult
  · have hrun : runRequests rt w (before ++ (tenantId, .ingest actorId payloads) :: after) =
        runRequests rt (request (ingestPayloads rt tenantId actorId payloads)
          (runRequests rt w before)).2 after := by
      unfold runRequests
      rw [List.foldl_append, List.foldl_cons, Call.body, request_forget]
    have hcommitted : Committed (request (ingestPayloads rt tenantId actorId payloads)
        (runRequests rt w before)).2 := by
      have hbody := hbefore.request rt tenantId (.ingest actorId payloads)
      rwa [Call.body, request_forget] at hbody
    have hsub := (runRequests_committed rt hcommitted after).2
    rw [← hrun] at hsub
    obtain ⟨row, hrow⟩ := storedFor_unique (runRequests_committed rt hw _).1.keyed hid
      (hstored.runRequests hw _ hothers) (hpresent.mono hsub)
    unfold World.rowsOf
    rw [List.filter_filter]
    have hswap := List.filter_congr (l := (runRequests rt w
      (before ++ (tenantId, .ingest actorId payloads) :: after)).session.stored .events)
      (p := fun r => storedFor rt payload r && decide (r.tenantId = tenantId))
      (q := fun r => decide (r.tenantId = tenantId) && storedFor rt payload r)
      fun r _ => Bool.and_comm _ _
    exact congrArg List.length (hswap.trans hrow)
  · unfold Session.all Session.pendingOf
    rw [hbefore.pending]
    simpa using hapart

/-- A canonical payload with an idempotency key. -/
def keyedBeacon : JsonObject :=
  beaconPayload ++ [("idempotency_key", .str "key_1")]

/-- Two batches with it, one event. -/
theorem keyed_beacon_stored_once :
    (((runRequests sampleRuntime emptyWorld [("ten_a", .ingest "usr_1" [keyedBeacon]),
      ("ten_a", .ingest "usr_2" [keyedBeacon, keyedBeacon])]).rowsOf .events "ten_a").filter
        (storedFor sampleRuntime keyedBeacon)).length = 1 := by
  have hid : carriedId sampleRuntime keyedBeacon = some "evt_2" := by decide +kernel
  refine carried_payload_stored_once (fun _ => rfl) "ten_a" keyedBeacon ?_
    "evt_2" hid emptyWorld ⟨rfl, .nil⟩ ?_ [] [("ten_a", .ingest "usr_2" [keyedBeacon, keyedBeacon])]
    "usr_1" [keyedBeacon] (by simp) ?_ { accepted := ["evt_2"] } (by decide +kernel)
  · exact accepts_of_isOk (t := {}) (by decide +kernel)
  · intro row hrow
    cases hrow
  · intro r hr
    have howner : r.1 = "ten_a" ∧ ∀ other ∈ r.2.payloads, other = keyedBeacon := by
      revert r
      simp [Call.payloads]
    intro other hother raw hraw
    obtain rfl := howner.2 other hother
    rw [howner.1]
    exact fun _ _ => hraw.id_eq hid

/-- A generic payload with an idempotency key and without an id. -/
def keyedPayload : JsonObject :=
  [("category", .str "dns"), ("idempotency_key", .str "key_1")]

/-- Its adapter drops the key and makes up a new id each time. -/
theorem keyed_payload_stored_twice :
    ¬ ∀ (rt : Runtime), rt.AwareClock → ∀ (tenantId key : String) (payload : JsonObject),
      Json.get payload "idempotency_key" = .str key → key ≠ "" → Accepts rt tenantId payload →
        ∀ n, ((runRequests rt emptyWorld (List.replicate (n + 1)
          (tenantId, .ingest "usr_1" [payload]))).rowsOf .events tenantId).length = 1 := by
  intro h
  have honce := h sampleRuntime (fun _ => rfl) "ten_a" "key_1" keyedPayload (by decide +kernel)
    (by decide) (accepts_of_isOk (t := {}) (by decide +kernel)) 1
  have htwice : ((runRequests sampleRuntime emptyWorld (List.replicate (1 + 1)
      ("ten_a", .ingest "usr_1" [keyedPayload]))).rowsOf .events "ten_a").length = 2 := by
    decide +kernel
  rw [htwice] at honce
  cases honce

end BlueTeam.Services
