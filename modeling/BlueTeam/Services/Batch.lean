/- GID: BlueTeam/Services/Batch
   generality: I
   source: services/api/app/services/ingestion.py
   digest: What one turn of the ingest loop does with a payload. -/

import BlueTeam.Services.Sightings

set_option autoImplicit false
set_option relaxedAutoImplicit false

namespace BlueTeam.Services

open BlueTeam.Python BlueTeam.Schema BlueTeam.Lib BlueTeam.Lib.Exec BlueTeam.Ingest

/-- The rows of the events and of the dead letters, written or waiting; `rows` are events that are
written. -/
structure Holds (events : List SecurityEvent) (dead : List DeadLetterEvent)
    (rows : List SecurityEvent) (s : Session schema) : Prop where
  events : s.all .events = events
  dead : s.all .deadLetters = dead
  rows : rows ⊆ s.stored .events

section

variable {events : List SecurityEvent} {dead : List DeadLetterEvent} {rows : List SecurityEvent}
  {s s' : Session schema}

theorem Holds.frame (h : Holds events dead rows s)
    (hstored : ∀ t ∈ [Table.events, .deadLetters], s'.stored t = s.stored t)
    (hpending : ∀ t ∈ [Table.events, .deadLetters], s'.pendingOf t = s.pendingOf t) :
    Holds events dead rows s' := by
  have hall : ∀ t ∈ [Table.events, .deadLetters], s'.all t = s.all t := by
    intro t ht
    unfold Session.all
    rw [hstored t ht, hpending t ht]
  refine ⟨(hall _ (by decide)).trans h.events, (hall _ (by decide)).trans h.dead, ?_⟩
  rw [hstored _ (by decide)]
  exact h.rows

theorem Holds.mem {row : SecurityEvent} (h : Holds events dead (row :: rows) s) :
    row ∈ s.stored .events :=
  h.rows List.mem_cons_self

theorem Holds.tail {row : SecurityEvent} (h : Holds events dead (row :: rows) s) :
    Holds events dead rows s :=
  ⟨h.events, h.dead, fun _ hr => h.rows (List.mem_cons_of_mem row hr)⟩

theorem Holds.cons {row : SecurityEvent} (h : Holds events dead rows s)
    (hrow : row ∈ s.stored .events) : Holds events dead (row :: rows) s :=
  ⟨h.events, h.dead, List.cons_subset.mpr ⟨hrow, h.rows⟩⟩

theorem Holds.flush (h : Holds events dead rows s) (hflush : s.flush = .ok s') :
    Holds events dead rows s' := by
  refine ⟨(Session.flush_all hflush _).trans h.events, (Session.flush_all hflush _).trans h.dead, ?_⟩
  rw [(Session.flush_ok hflush).2]
  exact List.subset_append_of_subset_left _ h.rows

end

/-- The tables that detections and sightings write. -/
def analysisTables : List Table :=
  [.findings, .alerts, .evidence, .indicators]

theorem stable_holds (events : List SecurityEvent) (dead : List DeadLetterEvent)
    (rows : List SecurityEvent) :
    Stable (Holds events dead rows) (fun _ _ => True) analysisTables where
  add {t} r s ht hs := by
    refine hs.frame (fun _ _ => rfl) ?_
    revert r ht
    cases t <;> simp [analysisTables]
  update {t} f s ht _ hs := by
    refine hs.frame ?_ (fun _ _ => rfl)
    revert f ht
    cases t <;> simp [analysisTables]
  delete {t} p s ht _ hs := by
    refine hs.frame ?_ (fun _ _ => rfl)
    revert p ht
    cases t <;> simp [analysisTables]
  flush := keeps_flush (fun _ _ hs hflush => hs.flush hflush) fun _ _ _ _ => trivial
  python _ _ _ := trivial
  multiple _ _ _ _ := trivial
  missing _ _ _ _ _ := trivial

/-! ### The events of a payload -/

/-- The payload is normalised to an event. -/
def Normalises (rt : Runtime) (tenantId : String) (payload : JsonObject) (raw : CanonicalEvent) :
    Prop :=
  ∃ t t', normalizePayload rt payload tenantId t = (.ok raw, t')

/-- The payload is refused. -/
def Refuses (rt : Runtime) (tenantId : String) (payload : JsonObject) (e : Exn) : Prop :=
  ∃ t t', normalizePayload rt payload tenantId t = (.error e, t')

/-- A stored event counts as the event: by its idempotency key, or by its id. -/
def Recognises (raw : CanonicalEvent) (row : SecurityEvent) : Prop :=
  (given raw.idempotencyKey = true ∧ row.idempotencyKey = raw.idempotencyKey) ∨ row.id = raw.id

section

variable {rt : Runtime} (hclock : rt.AwareClock) (tenantId : String)
  {events : List SecurityEvent} {dead : List DeadLetterEvent} {rows : List SecurityEvent}

theorem Holds.resighted {hit : Prop} {s s' : Session schema} (h : Holds events dead rows s)
    (hs : Resighted tenantId hit s s') : Holds events dead rows s' := by
  refine h.frame ?_ ?_
  · intro t ht
    refine hs.others t ?_
    rintro rfl
    revert ht
    decide
  · intro t _
    unfold Session.pendingOf
    rw [hs.pending]

include hclock

theorem activeIntelMap_spec :
    Triple (fun w => Holds events dead rows w.session) (activeIntelMap rt tenantId)
      (fun _ w => Holds events dead rows w.session) (fun _ _ => False) := by
  constructor
  intro w hw
  rw [activeIntelMap_run hclock]
  exact hw

/-- Only the write of what waits can fail. -/
theorem recordSightings_spec (event : CanonicalEvent) :
    Triple (fun w => Holds events dead rows w.session) (recordSightings rt tenantId event)
      (fun _ w => Holds events dead rows w.session)
      (fun f w => Holds events dead rows w.session ∧ ∃ c, f = .integrityError c) := by
  refine triple_via (fun w => Holds events dead rows w.session) fun w hw => ?_
  obtain ⟨matched, s', hrun, hsighted⟩ := recordSightings_run tenantId hclock event w
  refine ⟨_, _, hrun, hw.resighted tenantId hsighted, ?_⟩
  split
  · exact triple_pure fun _ h => h
  · refine triple_bind (Q := fun _ w => Holds events dead rows w.session)
      (triple_flush ?_ ?_) fun _ => triple_pure fun _ h => h
    · intro w s hw hflush
      exact hw.flush hflush
    · intro w c hw _
      exact ⟨hw, c, rfl⟩

/-- Normalisation alone decides whether a payload is refused; apart from it, only a write can
fail. -/
theorem normalizeAndEnrich_spec (payload : JsonObject) :
    Triple (fun w => Holds events dead rows w.session) (normalizeAndEnrich rt tenantId payload)
      (fun event w => Holds events dead rows w.session ∧
        ∃ raw, Normalises rt tenantId payload raw ∧ SameOrigin event raw)
      (fun f w => Holds events dead rows w.session ∧
        ∀ e, f = .python e → Refuses rt tenantId payload e) := by
  unfold normalizeAndEnrich
  refine triple_bind (Q := fun raw w => Normalises rt tenantId payload raw ∧
    Holds events dead rows w.session) ?_ fun raw => ?_
  · refine triple_draw ?_ ?_
    · intro w raw t hw hrun
      exact ⟨⟨_, _, hrun⟩, hw⟩
    · intro w e t hw hrun
      refine ⟨hw, ?_⟩
      rintro _ ⟨⟩
      exact ⟨_, _, hrun⟩
  · refine triple_given fun hraw => ?_
    refine triple_bind ((activeIntelMap_spec hclock tenantId).conseq (fun _ hw => hw)
      (fun _ _ hw => hw) (fun _ _ hfalse => hfalse.elim)) fun intel => ?_
    refine triple_bind ((recordSightings_spec hclock tenantId _).conseq (fun _ hw => hw)
      (fun _ _ hw => hw) ?_) fun _ => ?_
    · rintro f w ⟨hw, c, rfl⟩
      refine ⟨hw, fun e he => ?_⟩
      cases he
    · exact triple_pure fun w hw => ⟨hw, raw, hraw, enrichEvent_sameOrigin rt _ raw⟩

end

/-! ### One turn -/

/-- What one turn of the loop can do with a payload. -/
inductive Turn (rt : Runtime) (tenantId : String) (payload : JsonObject)
    (events : List SecurityEvent) (dead : List DeadLetterEvent) (rows : List SecurityEvent)
    (acc : IngestResult) : IngestResult → Session schema → Prop
  | accepted {s : Session schema} (raw : CanonicalEvent) (row : SecurityEvent) (findings : Nat)
      (normalised : Normalises rt tenantId payload raw) (rowOf : RowOf tenantId raw row)
      (holds : Holds (events ++ [row]) dead (row :: rows) s) :
      Turn rt tenantId payload events dead rows acc
        { acc with accepted := acc.accepted ++ [raw.id], findingsCreated := findings } s
  | duplicate {s : Session schema} (raw : CanonicalEvent) (row : SecurityEvent)
      (normalised : Normalises rt tenantId payload raw) (stored : row ∈ s.stored .events)
      (tenant : row.tenantId = tenantId) (recognised : Recognises raw row)
      (holds : Holds events dead rows s) :
      Turn rt tenantId payload events dead rows acc
        { acc with duplicates := acc.duplicates ++ [row.id] } s
  | collision {s : Session schema} (raw : CanonicalEvent) (row : SecurityEvent)
      (letter : DeadLetterEvent) (normalised : Normalises rt tenantId payload raw)
      (stored : row ∈ s.stored .events) (tenant : row.tenantId ≠ tenantId) (id : row.id = raw.id)
      (own : letter.tenantId = tenantId) (holds : Holds events (dead ++ [letter]) rows s) :
      Turn rt tenantId payload events dead rows acc
        { acc with rejected := acc.rejected ++ [⟨"event id collision", some raw.id⟩] } s
  | invalid {s : Session schema} (e : Exn) (letter : DeadLetterEvent)
      (refused : Refuses rt tenantId payload e) (own : letter.tenantId = tenantId)
      (holds : Holds events (dead ++ [letter]) rows s) :
      Turn rt tenantId payload events dead rows acc
        { acc with rejected := acc.rejected ++ [⟨e.text rt, none⟩] } s

/-- A turn removes no event. -/
theorem Turn.rows {rt : Runtime} {tenantId : String} {payload : JsonObject}
    {events : List SecurityEvent} {dead : List DeadLetterEvent} {rows : List SecurityEvent}
    {acc acc' : IngestResult} {s : Session schema}
    (h : Turn rt tenantId payload events dead rows acc acc' s) : rows ⊆ s.stored .events := by
  cases h with
  | accepted raw row findings normalised rowOf holds => exact holds.tail.rows
  | duplicate raw row normalised stored tenant recognised holds => exact holds.rows
  | collision raw row letter normalised stored tenant id own holds => exact holds.rows
  | invalid e letter refused own holds => exact holds.rows

section

variable {rt : Runtime} (hclock : rt.AwareClock) (tenantId actorId : String)
  {events : List SecurityEvent} {dead : List DeadLetterEvent} {rows : List SecurityEvent}

theorem deadLetter_spec (payload : JsonObject) (reason : String) :
    Triple (fun w => Holds events dead rows w.session) (deadLetter rt tenantId payload reason)
      (fun _ w => ∃ letter : DeadLetterEvent, letter.tenantId = tenantId ∧
        Holds events (dead ++ [letter]) rows w.session) (fun _ _ => True) := by
  unfold deadLetter
  refine triple_bind (keeps_draw (I := Holds events dead rows) fun _ _ _ => trivial) fun id => ?_
  refine triple_bind (keeps_draw (I := Holds events dead rows) fun _ _ _ => trivial)
    fun createdAt => ?_
  refine triple_add ?_
  intro w hw
  refine ⟨⟨id, tenantId, takeChars 200 reason, payload, createdAt⟩, rfl, ?_, ?_, hw.rows⟩
  · rw [Session.add_all_of_ne (S := schema) _ (by decide)]
    exact hw.events
  · rw [Session.add_all_self (S := schema), hw.dead]

theorem acceptEvent_spec (payload : JsonObject) (acc : IngestResult) {event raw : CanonicalEvent}
    (horigin : SameOrigin event raw) :
    Triple (fun w => Holds events dead rows w.session)
      (acceptEvent rt tenantId actorId payload acc event)
      (fun acc' w => ∃ row findings, RowOf tenantId raw row ∧
        Holds (events ++ [row]) dead (row :: rows) w.session ∧
        acc' = { acc with accepted := acc.accepted ++ [raw.id], findingsCreated := findings })
      (fun _ _ => True) := by
  unfold acceptEvent
  refine triple_bind (Q := fun event' w => SameOrigin event' raw ∧
    Holds events dead rows w.session) ?_ fun event' => triple_given fun horigin' => ?_
  · refine triple_draw ?_ fun _ _ _ _ _ => trivial
    intro w event' t hw hrun
    obtain ⟨attributes, t', hproj⟩ := bestEffortProject_run rt event w.ticks
    rw [hproj] at hrun
    cases hrun
    exact ⟨(attributes_sameOrigin event attributes).trans horigin, hw⟩
  · have hrow := rowOf_securityEvent horigin' tenantId (rawHashOf event payload)
    generalize securityEvent tenantId (rawHashOf event payload) event' = row at hrow
    refine triple_bind (Q := fun _ w => Holds (events ++ [row]) dead rows w.session ∧
      row ∈ w.session.pendingOf .events) (triple_add ?_) fun _ => ?_
    · intro w hw
      refine ⟨⟨?_, ?_, hw.rows⟩, ?_⟩
      · rw [Session.add_all_self (S := schema) (t := .events), hw.events]
      · rw [Session.add_all_of_ne (S := schema) (t := .events) _ (by decide)]
        exact hw.dead
      · rw [Session.add_pendingOf_self (S := schema) (t := .events)]
        simp
    refine triple_bind (Q := fun _ w => Holds (events ++ [row]) dead (row :: rows) w.session)
      (triple_flush ?_ fun _ _ _ _ => trivial) fun _ => ?_
    · rintro w s ⟨hw, hwaits⟩ hflush
      have hs := hw.flush hflush
      refine ⟨hs.events, hs.dead, List.cons_subset.mpr ⟨?_, hs.rows⟩⟩
      rw [(Session.flush_ok hflush).2]
      exact List.mem_append_right _ hwaits
    have hstable := stable_holds (events ++ [row]) dead (row :: rows)
    refine triple_bind (evaluateAndStore_keeps rt tenantId actorId
      (evaluateAndStoreFindings_keeps rt tenantId hstable (by decide) (by decide) (by decide)
        actorId) event') fun findings => ?_
    refine triple_pure fun w hw => ⟨row, acc.findingsCreated + findings, hrow, hw, ?_⟩
    rw [horigin'.id]

/-- A lookup by key finds a row that the event is recognised by. -/
theorem sameKey_spec {event raw : CanonicalEvent} (horigin : SameOrigin event raw) :
    Triple (fun w => Holds events dead rows w.session) (sameKey tenantId event)
      (fun existing w => (∀ row, existing = some row → row.tenantId = tenantId ∧
        Recognises raw row) ∧ Holds events dead (existing.toList ++ rows) w.session)
      (fun _ _ => True) := by
  unfold sameKey
  split
  · rename_i hgiven
    rw [horigin.idempotencyKey] at hgiven
    refine triple_selectOne ?_ ?_ fun _ _ _ => trivial
    · intro w hw _
      exact ⟨fun row hrow => (by cases hrow), hw⟩
    · intro w r hw hr htenant hkey
      refine ⟨?_, hw.cons hr⟩
      rintro _ ⟨⟩
      refine ⟨htenant, .inl ⟨hgiven, ?_⟩⟩
      rw [← horigin.idempotencyKey]
      exact of_decide_eq_true hkey
  · exact triple_pure fun w hw => ⟨fun row hrow => (by cases hrow), hw⟩

theorem getEvent_spec (id : String) :
    Triple (fun w => Holds events dead rows w.session) (get .events id)
      (fun existing w => (∀ row : SecurityEvent, existing = some row → row.id = id) ∧
        Holds events dead (existing.toList ++ rows) w.session) (fun _ _ => True) := by
  refine triple_get ?_
  intro w hw
  cases hfind : (w.session.stored .events).find? fun r : Table.events.Row => Table.id r = id with
  | none => exact ⟨fun row hrow => (by cases hrow), hw⟩
  | some row =>
      refine ⟨?_, hw.cons (List.mem_of_find?_eq_some hfind)⟩
      rintro _ ⟨⟩
      have hid := List.find?_some hfind
      exact of_decide_eq_true hid

/-- A normalised payload is accepted, a duplicate, or collides with another tenant's event. -/
theorem placeEvent_spec (payload : JsonObject) (acc : IngestResult) {event raw : CanonicalEvent}
    (hraw : Normalises rt tenantId payload raw) (horigin : SameOrigin event raw) :
    Triple (fun w => Holds events dead rows w.session)
      (placeEvent rt tenantId actorId payload acc event)
      (fun acc' w => Turn rt tenantId payload events dead rows acc acc' w.session)
      (fun _ _ => True) := by
  unfold placeEvent
  refine triple_bind (sameKey_spec tenantId horigin) fun existing => triple_given fun hkey => ?_
  cases existing with
  | some row =>
      obtain ⟨htenant, hrecognised⟩ := hkey row rfl
      refine triple_pure ?_
      intro w hw
      exact .duplicate raw row hraw hw.mem htenant hrecognised hw.tail
  | none =>
      refine triple_bind (getEvent_spec event.id) fun existing => triple_given fun hget => ?_
      rw [horigin.id] at hget
      cases existing with
      | none =>
          refine (acceptEvent_spec tenantId actorId payload acc horigin).post ?_
          rintro _ w ⟨row, findings, hrow, hw, rfl⟩
          exact .accepted raw row findings hraw hrow hw
      | some row =>
          dsimp only
          split
          · rename_i hother
            refine triple_bind (deadLetter_spec tenantId payload _) fun _ => triple_pure ?_
            rintro w ⟨letter, hown, hw⟩
            rw [horigin.id]
            exact .collision raw row letter hraw hw.mem hother (hget row rfl) hown hw.tail
          · rename_i hsame
            refine triple_pure ?_
            intro w hw
            exact .duplicate raw row hraw hw.mem (not_not.mp hsame) (.inr (hget row rfl)) hw.tail

include hclock

theorem ingestPayload_spec (acc : IngestResult) (payload : JsonObject) :
    Triple (fun w => Holds events dead rows w.session)
      (ingestPayload rt tenantId actorId acc payload)
      (fun acc' w => Turn rt tenantId payload events dead rows acc acc' w.session)
      (fun _ _ => True) := by
  unfold ingestPayload
  refine triple_bind (Q := fun r w => ((∀ event, r = .ok event →
      ∃ raw, Normalises rt tenantId payload raw ∧ SameOrigin event raw) ∧
    ∀ e, r = .error (.python e) → Refuses rt tenantId payload e) ∧
      Holds events dead rows w.session) ?_ fun r => triple_given fun hr => ?_
  · refine triple_attempt ((normalizeAndEnrich_spec hclock tenantId payload).conseq
      (fun _ hw => hw) ?_ ?_)
    · rintro event w ⟨hw, hevent⟩
      refine ⟨⟨?_, fun e he => (by cases he)⟩, hw⟩
      rintro _ ⟨⟩
      exact hevent
    · rintro f w ⟨hw, hrefused⟩
      refine ⟨⟨fun event hevent => (by cases hevent), ?_⟩, hw⟩
      intro e he
      exact hrefused e (Except.error.inj he)
  · rcases r with f | event
    · cases f with
      | python e =>
          dsimp only
          split
          · refine triple_bind (deadLetter_spec tenantId payload _) fun _ => triple_pure ?_
            rintro w ⟨letter, hown, hw⟩
            exact .invalid e letter (hr.2 e rfl) hown hw
          · exact triple_raise fun _ _ => trivial
      | integrityError c => exact triple_raise fun _ _ => trivial
      | multipleResultsFound t => exact triple_raise fun _ _ => trivial
      | blueTeamError code message status => exact triple_raise fun _ _ => trivial
    · obtain ⟨raw, hraw, horigin⟩ := hr.1 event rfl
      exact placeEvent_spec tenantId actorId payload acc hraw horigin

/-- Every turn that does not raise has one of the four outcomes. -/
theorem ingestPayload_turn (acc : IngestResult) (payload : JsonObject) (w₀ : World) :
    Triple (fun w => w = w₀) (ingestPayload rt tenantId actorId acc payload)
      (fun acc' w => Turn rt tenantId payload (w₀.session.all .events)
        (w₀.session.all .deadLetters) (w₀.session.stored .events) acc acc' w.session)
      (fun _ _ => True) := by
  refine (ingestPayload_spec hclock tenantId actorId acc payload).pre ?_
  rintro _ rfl
  exact ⟨rfl, rfl, List.Subset.refl _⟩

end

/-! ### Whole batches -/

/-- What holds of the stored events after the loop, and of more events too, holds once the request
is committed. -/
theorem request_ingest_stored {rt : Runtime} {tenantId actorId : String}
    {payloads : List JsonObject} {I : World → Prop}
    {P : IngestResult → List SecurityEvent → Prop}
    (hmono : ∀ result rows rows', rows ⊆ rows' → P result rows → P result rows')
    (hloop : Triple I (loop (ingestPayload rt tenantId actorId) {} payloads)
      (fun result w => P result (w.session.stored .events)) (fun _ _ => True))
    {w : World} (hw : I w) {result : IngestResult}
    (hresult : (request (ingestPayloads rt tenantId actorId payloads) w).1 = .ok result) :
    P result
      ((request (ingestPayloads rt tenantId actorId payloads) w).2.session.stored .events) := by
  obtain ⟨w', s, hrun, hflush, hend⟩ := request_ok hresult
  have hbatch : Triple I (ingestPayloads rt tenantId actorId payloads)
      (fun result w => P result (w.session.stored .events)) (fun _ _ => True) := by
    unfold ingestPayloads
    refine triple_bind hloop fun result => ?_
    refine triple_bind (Q := fun _ w => P result (w.session.stored .events)) ?_
      fun _ => triple_pure fun _ h => h
    refine triple_from fun w₀ hw₀ => ?_
    have hproject := projectBatch_keeps (F := fun _ => True) rt tenantId
      (stable_onEvents (J := fun stored _ => w₀.session.stored .events ⊆ stored)
        subset_onFlush) (by decide) trivial result
    refine hproject.conseq ?_ ?_ fun _ _ h => h
    · rintro _ rfl
      exact List.Subset.refl _
    · intro _ w hsub
      exact hmono result _ _ hsub hw₀
  have hdone := hbatch.ok hw hrun
  rw [hend]
  refine hmono result _ _ ?_ hdone
  show _ ⊆ s.stored .events
  rw [(Session.flush_ok hflush).2]
  exact List.subset_append_left _ _

end BlueTeam.Services
