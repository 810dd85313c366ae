/- GID: BlueTeam/Services/Content
   generality: I
   source: services/api/app/services/evidence.py, ingestion.py
   digest: When evidence vouches for the content of its event, over all later changes. -/

import BlueTeam.Services.Events
import BlueTeam.Services.Evidence
import BlueTeam.Services.Grouping
import BlueTeam.Services.Integrity

set_option autoImplicit false
set_option relaxedAutoImplicit false

namespace BlueTeam.Services

open BlueTeam.Python BlueTeam.Schema BlueTeam.Lib BlueTeam.Lib.Exec BlueTeam.Ingest

/-! ### What happens to stored events -/

/-- A step of a deployment: a call of some tenant, or a change of the stored payload of an event
that goes past the services. -/
inductive StoreStep
  | call (tenantId : String) (call : TenantCall)
  | modify (eventId : String) (payload : CanonicalEvent)

/-- The session with another payload in the row of an event. -/
def modifyPayload (eventId : String) (payload : CanonicalEvent) (s : Session schema) :
    Session schema :=
  s.update .events fun r =>
    if SecurityEvent.id r = eventId then { r with payload := payload } else r

def StoreStep.after (rt : Runtime) (w : World) : StoreStep → World
  | .call tenantId work => work.after rt tenantId w
  | .modify eventId payload => { w with session := modifyPayload eventId payload w.session }

/-- The committed state after calls of any tenants. -/
def tenantStep (rt : Runtime) (w : World) (call : String × TenantCall) : World :=
  call.2.after rt call.1 w

/-! ### Evidence and the events it seals -/

/-- The evidence is that of the event, with its hash. -/
structure Seals (r : SecurityEvent) (v : Evidence) : Prop where
  tenant : v.tenantId = r.tenantId
  source : v.source = sourceOf r.id
  hash : v.integrityHash = r.rawHash

/-- Events and evidence have their keys, and all evidence seals a stored event. -/
structure Recorded (s : Session schema) : Prop where
  events : schema.Keyed (s.stored .events)
  evidence : schema.Keyed (s.stored .evidence)
  sealed : ∀ v ∈ s.all .evidence, ∃ r ∈ s.stored .events, Seals r v

/-- What is left of the events and the evidence: the payload of an event may be another one, and
the evidence may be linked. -/
structure Remains (s s' : Session schema) : Prop where
  events : ∀ r ∈ s.stored .events, ∃ payload : CanonicalEvent,
    ({ r with payload := payload } : SecurityEvent) ∈ s'.stored .events
  evidence : ∀ v ∈ s.stored .evidence, ∃ v' ∈ s'.stored .evidence,
    Evidence.id v' = v.id ∧ v'.tenantId = v.tenantId ∧ v'.source = v.source ∧
      v'.integrityHash = v.integrityHash

section

variable {s s' s'' : Session schema}

theorem Remains.of_subset (hevents : s.stored .events ⊆ s'.stored .events)
    (hevidence : s.stored .evidence ⊆ s'.stored .evidence) : Remains s s' where
  events r hr := ⟨r.payload, hevents hr⟩
  evidence v hv := ⟨v, hevidence hv, rfl, rfl, rfl, rfl⟩

theorem Remains.refl (s : Session schema) : Remains s s :=
  Remains.of_subset (List.Subset.refl _) (List.Subset.refl _)

theorem Remains.trans (h : Remains s s') (h' : Remains s' s'') : Remains s s'' where
  events r hr := by
    obtain ⟨payload, hrow⟩ := h.events r hr
    obtain ⟨payload', hrow'⟩ := h'.events _ hrow
    exact ⟨payload', hrow'⟩
  evidence v hv := by
    obtain ⟨v', hv', hid, htenant, hsource, hhash⟩ := h.evidence v hv
    obtain ⟨v'', hv'', hid', htenant', hsource', hhash'⟩ := h'.evidence v' hv'
    exact ⟨v'', hv'', hid'.trans hid, htenant'.trans htenant, hsource'.trans hsource,
      hhash'.trans hhash⟩

/-! ### The services keep it -/

/-- The invariant along a call, with the rows that were there before. -/
structure Recording (events : List SecurityEvent) (evidence : List Evidence)
    (s : Session schema) : Prop where
  recorded : Recorded s
  events : events ⊆ s.stored .events
  evidence : evidence ⊆ s.stored .evidence

variable {events : List SecurityEvent} {evidence : List Evidence}

/-- Only the events and the evidence matter. -/
theorem Recording.same (h : Recording events evidence s)
    (hevents : s'.stored .events = s.stored .events)
    (hevidence : s'.stored .evidence = s.stored .evidence)
    (hall : s'.all .evidence = s.all .evidence) : Recording events evidence s' where
  recorded := by
    refine ⟨?_, ?_, ?_⟩
    · rw [hevents]
      exact h.recorded.events
    · rw [hevidence]
      exact h.recorded.evidence
    · rw [hevents, hall]
      exact h.recorded.sealed
  events := by
    rw [hevents]
    exact h.events
  evidence := by
    rw [hevidence]
    exact h.evidence

theorem Recording.flush (h : Recording events evidence s) (hflush : s.flush = .ok s') :
    Recording events evidence s' := by
  have hstored := (Session.flush_ok hflush).2
  have hgrows : s.stored .events ⊆ s'.stored .events := by
    rw [hstored]
    exact List.subset_append_left _ _
  refine ⟨⟨Session.flush_keyed h.recorded.events hflush,
    Session.flush_keyed h.recorded.evidence hflush, ?_⟩, ?_, ?_⟩
  · intro v hv
    rw [Session.flush_all hflush] at hv
    obtain ⟨r, hr, hseals⟩ := h.recorded.sealed v hv
    exact ⟨r, hgrows hr, hseals⟩
  · exact List.Subset.trans h.events hgrows
  · rw [hstored]
    exact List.Subset.trans h.evidence (List.subset_append_left _ _)

theorem Recording.add_evidence (h : Recording events evidence s) {r : SecurityEvent} {v : Evidence}
    (hr : r ∈ s.stored .events) (hseals : Seals r v) :
    Recording events evidence (s.add (S := schema) (t := .evidence) v) := by
  refine ⟨⟨h.recorded.events, h.recorded.evidence, ?_⟩, h.events, h.evidence⟩
  intro v' hv'
  rw [Session.add_all_self (S := schema)] at hv'
  rcases List.mem_append.mp hv' with hold | hnew
  · exact h.recorded.sealed v' hold
  · obtain rfl := List.mem_singleton.mp hnew
    exact ⟨r, hr, hseals⟩

theorem Recording.add_other (h : Recording events evidence s) {t : Table} (ht : t ≠ .evidence)
    (r : t.Row) : Recording events evidence (s.add (S := schema) r) :=
  h.same rfl rfl (Session.add_all_of_ne (S := schema) s ht r)

/-- The tables that are neither the events nor the evidence. -/
def besideEvidence : List Table :=
  [.deadLetters, .findings, .alerts, .indicators, .entities, .relationships, .storylines,
    .incidents]

theorem ne_of_mem_besideEvidence {t : Table} (h : t ∈ besideEvidence) :
    t ≠ .events ∧ t ≠ .evidence := by
  revert h
  cases t <;> decide

theorem recording_stable (events : List SecurityEvent) (evidence : List Evidence) :
    Stable (Recording events evidence) (fun _ _ => True) besideEvidence where
  add r s ht hs := hs.add_other (ne_of_mem_besideEvidence ht).2 r
  update f s ht _ hs := by
    obtain ⟨hevents, hevidence⟩ := ne_of_mem_besideEvidence ht
    apply hs.same
    · exact Session.update_stored_of_ne (S := schema) s hevents f
    · exact Session.update_stored_of_ne (S := schema) s hevidence f
    · exact Session.update_all_of_ne (S := schema) s hevidence f
  delete p s ht _ hs := by
    obtain ⟨hevents, hevidence⟩ := ne_of_mem_besideEvidence ht
    apply hs.same
    · exact Session.delete_stored_of_ne (S := schema) s hevents p
    · exact Session.delete_stored_of_ne (S := schema) s hevidence p
    · exact Session.delete_all_of_ne (S := schema) s hevidence p
  flush := keeps_flush (fun _ _ hs hflush => hs.flush hflush) fun _ _ _ _ => trivial
  python _ _ _ := trivial
  multiple _ _ _ _ := trivial
  missing _ _ _ _ _ := trivial

/-- Evidence is registered under the hash of the stored event. -/
theorem registerEventEvidence_recording (rt : Runtime) (tenantId eventId actorId : String) :
    Keeps (Recording events evidence) (fun _ _ => True)
      (registerEventEvidence rt tenantId eventId actorId) := by
  unfold registerEventEvidence
  refine keeps_bind (keeps_selectOne fun _ _ => trivial) fun existing => ?_
  cases existing with
  | some existing => exact keeps_pure _
  | none =>
      refine triple_bind (Q := fun event w => Recording events evidence w.session ∧
        ∀ r, event = some r → r ∈ w.session.stored .events ∧ r.tenantId = tenantId ∧
          r.id = eventId) ?_ fun event => ?_
      · refine triple_selectOne ?_ ?_ fun _ _ _ => trivial
        · intro w hw _
          exact ⟨hw, fun r hr => by cases hr⟩
        · intro w r hw hr htenant hid
          refine ⟨hw, ?_⟩
          rintro _ ⟨⟩
          exact ⟨hr, htenant, of_decide_eq_true hid⟩
      · cases event with
        | none => exact triple_raise fun _ _ => trivial
        | some event =>
            let I : Session schema → Prop := fun s => Recording events evidence s ∧
              event ∈ s.stored .events ∧ event.tenantId = tenantId ∧ event.id = eventId
            have hdraws {α : Type} {m : Draw α} : Keeps I (fun _ _ => True) (draw m) :=
              keeps_draw fun _ _ _ => trivial
            refine Triple.pre (?_ : Triple (fun w : World => I w.session) _ _ _) ?_
            · refine triple_bind hdraws fun id => ?_
              refine triple_bind hdraws fun ingestedAt => ?_
              refine triple_bind hdraws fun acquired => ?_
              refine triple_bind hdraws fun hashed => ?_
              refine triple_bind hdraws fun sealedAt => ?_
              refine triple_addFlush ?_ fun _ _ _ _ => trivial
              rintro w s ⟨hw, hmem, htenant, hid⟩ hflush
              refine (hw.add_evidence hmem ?_).flush hflush
              exact ⟨htenant.symm, congrArg sourceOf hid.symm, rfl⟩
            · rintro w ⟨hw, hevent⟩
              exact ⟨hw, hevent event rfl⟩

theorem call_recording (rt : Runtime) (tenantId : String) (call : Call) :
    Keeps (Recording events evidence) (fun _ _ => True) (call.body rt tenantId) := by
  have hstable := recording_stable events evidence
  refine call_keeps rt tenantId hstable (by decide) trivial call ?_ ?_
  · intro payload _ row _ s hs
    exact hs.add_other (t := .events) (by decide) row
  · intro actorId context event
    apply evaluateAndStoreFindings_registers rt tenantId hstable actorId
    · exact fun eventId => registerEventEvidence_recording rt tenantId eventId actorId
    · decide
    · intro finding _ evidenceIds s hs
      exact hs.add_other (t := .findings) (by decide) _

end

/-! ### Every step keeps it -/

theorem Edit.apply_events (edit : Edit) (s : Session schema) :
    (edit.apply s).stored .events = s.stored .events := by
  unfold Edit.apply
  cases edit.evidence with
  | none => exact Session.update_stored_of_ne (S := schema) (t := .incidents) s (by decide) _
  | some pair =>
      dsimp only
      rw [Session.update_stored_of_ne (S := schema) _ (by decide),
        Session.update_stored_of_ne (S := schema) _ (by decide)]

/-- A row of evidence after an edit of an incident. -/
theorem Edit.apply_evidence (edit : Edit) (s : Session schema) :
    ∃ change : Evidence → Evidence, (edit.apply s).stored .evidence =
      (s.stored .evidence).map change ∧ ∀ v, (change v).id = v.id ∧
        (change v).tenantId = v.tenantId ∧ (change v).source = v.source ∧
        (change v).integrityHash = v.integrityHash := by
  cases hevidence : edit.evidence with
  | none =>
      refine ⟨id, ?_, fun v => ⟨rfl, rfl, rfl, rfl⟩⟩
      rw [Edit.apply_evidence_none hevidence, List.map_id]
  | some pair =>
      obtain ⟨loaded, changed⟩ := pair
      refine ⟨_, Edit.apply_evidence_some hevidence s, fun v => ?_⟩
      split <;> exact ⟨rfl, rfl, rfl, rfl⟩

section

variable {w : World}

theorem all_eq_stored (hw : w.session.pending = []) (t : Table) :
    w.session.all t = w.session.stored t := by
  unfold Session.all Session.pendingOf
  rw [hw]
  exact List.append_nil _

/-- A committed state whose evidence seals stored events. -/
structure Trusted (w : World) : Prop where
  settled : w.session.pending = []
  recorded : Recorded w.session

theorem Trusted.edit (h : Trusted w) (edit : Edit) (ticks : Ticks) :
    Trusted ⟨edit.apply w.session, ticks⟩ ∧ Remains w.session (edit.apply w.session) := by
  obtain ⟨change, hevidence, hsame⟩ := edit.apply_evidence w.session
  have hevents := edit.apply_events w.session
  have hsettled : (edit.apply w.session).pending = [] := by
    rw [edit.apply_pending]
    exact h.settled
  refine ⟨⟨hsettled, ?_, ?_, ?_⟩, ?_, ?_⟩
  · rw [hevents]
    exact h.recorded.events
  · rw [hevidence]
    refine h.recorded.evidence.map fun v => ?_
    obtain ⟨hid, htenant, -, -⟩ := hsame v
    exact ⟨hid, htenant, rfl⟩
  · rw [all_eq_stored hsettled, hevents, hevidence]
    intro v hv
    obtain ⟨old, hold, rfl⟩ := List.mem_map.mp hv
    obtain ⟨r, hr, hseals⟩ := h.recorded.sealed old (List.mem_append_left _ hold)
    obtain ⟨-, htenant, hsource, hhash⟩ := hsame old
    exact ⟨r, hr, htenant.trans hseals.tenant, hsource.trans hseals.source,
      hhash.trans hseals.hash⟩
  · rw [hevents]
    exact fun r hr => ⟨r.payload, hr⟩
  · rw [hevidence]
    exact fun v hv => ⟨change v, List.mem_map_of_mem hv, hsame v⟩

theorem Trusted.modify (h : Trusted w) (eventId : String) (payload : CanonicalEvent) :
    Trusted { w with session := modifyPayload eventId payload w.session } ∧
      Remains w.session (modifyPayload eventId payload w.session) := by
  let change : SecurityEvent → SecurityEvent := fun r =>
    if r.id = eventId then { r with payload := payload } else r
  have hevents : (modifyPayload eventId payload w.session).stored .events =
      (w.session.stored .events).map change :=
    Session.update_stored_self (S := schema) w.session .events _
  have hevidence : (modifyPayload eventId payload w.session).stored .evidence =
      w.session.stored .evidence :=
    Session.update_stored_of_ne (S := schema) (t := .events) w.session (by decide) _
  have hall : (modifyPayload eventId payload w.session).all .evidence = w.session.all .evidence :=
    Session.update_all_of_ne (S := schema) (t := .events) w.session (by decide) _
  have hchange (r : SecurityEvent) : ∃ payload', change r = { r with payload := payload' } := by
    by_cases hid : r.id = eventId
    · exact ⟨payload, if_pos hid⟩
    · exact ⟨r.payload, if_neg hid⟩
  refine ⟨⟨h.settled, ?_, ?_, ?_⟩, ?_, ?_⟩
  · rw [hevents]
    refine h.recorded.events.map fun r => ?_
    obtain ⟨payload', hrow⟩ := hchange r
    rw [hrow]
    exact ⟨rfl, rfl, rfl⟩
  · rw [hevidence]
    exact h.recorded.evidence
  · rw [hall, hevents]
    intro v hv
    obtain ⟨r, hr, hseals⟩ := h.recorded.sealed v hv
    obtain ⟨payload', hrow⟩ := hchange r
    refine ⟨change r, List.mem_map_of_mem hr, ?_⟩
    rw [hrow]
    exact ⟨hseals.tenant, hseals.source, hseals.hash⟩
  · rw [hevents]
    intro r hr
    obtain ⟨payload', hrow⟩ := hchange r
    refine ⟨payload', ?_⟩
    rw [← hrow]
    exact List.mem_map_of_mem hr
  · rw [hevidence]
    exact fun v hv => ⟨v, hv, rfl, rfl, rfl, rfl⟩

theorem Trusted.call (h : Trusted w) (rt : Runtime) (tenantId : String) (call : TenantCall) :
    Trusted (call.after rt tenantId w) ∧
      Remains w.session (call.after rt tenantId w).session := by
  have hsettled := call.after_pending rt tenantId h.settled
  cases call with
  | service call =>
      have hstart : Recording (w.session.stored .events) (w.session.stored .evidence) w.session :=
        ⟨h.recorded, List.Subset.refl _, List.Subset.refl _⟩
      have hbody : Triple (fun w' => w' = w) (call.body rt tenantId)
          (fun _ w' => Recording (w.session.stored .events) (w.session.stored .evidence) w'.session)
          (fun _ _ => True) := by
        apply Triple.pre (call_recording rt tenantId call)
        rintro _ rfl
        exact hstart
      have hafter := (request_run hbody (recording_stable _ _).flush hstart).1
      exact ⟨⟨hsettled, hafter.recorded⟩, Remains.of_subset hafter.events hafter.evidence⟩
  | analyst actorId incidentId op =>
      rcases analyst_after rt tenantId actorId incidentId op h.settled with
        hsame | ⟨incident, edit, -, -, -, hsession⟩
      · refine ⟨⟨hsettled, ?_⟩, ?_⟩
        · rw [hsame]
          exact h.recorded
        · rw [hsame]
          exact Remains.refl _
      · obtain ⟨htrusted, hremains⟩ := h.edit edit w.ticks
        refine ⟨⟨hsettled, ?_⟩, ?_⟩
        · rw [hsession]
          exact htrusted.recorded
        · rw [hsession]
          exact hremains

theorem Trusted.step (h : Trusted w) (rt : Runtime) (step : StoreStep) :
    Trusted (step.after rt w) ∧ Remains w.session (step.after rt w).session := by
  cases step with
  | call tenantId call => exact h.call rt tenantId call
  | modify eventId payload => exact h.modify eventId payload

theorem Trusted.run (h : Trusted w) (rt : Runtime) (steps : List StoreStep) :
    Trusted (Machine.run (StoreStep.after rt) w steps) ∧
      Remains w.session (Machine.run (StoreStep.after rt) w steps).session := by
  induction steps generalizing w with
  | nil => exact ⟨h, Remains.refl _⟩
  | cons step steps ih =>
      obtain ⟨hstep, hremains⟩ := h.step rt step
      obtain ⟨hrun, hrest⟩ := ih hstep
      exact ⟨hrun, hremains.trans hrest⟩

/-- All evidence is verified as intact, whatever its event holds by now. -/
theorem Trusted.intact (h : Trusted w) {v : Evidence} (hv : v ∈ w.session.stored .evidence) :
    Intact v.tenantId v.id w := by
  obtain ⟨r, hr, hseals⟩ := h.recorded.sealed v (List.mem_append_left _ hv)
  have hevidence : w.under .evidence v.tenantId v.id = [v] :=
    World.under_self h.recorded.evidence (World.mem_rowsOf.mpr ⟨hv, rfl⟩)
  have hevent : w.under .events v.tenantId r.id = [r] :=
    World.under_self h.recorded.events (World.mem_rowsOf.mpr ⟨hr, hseals.tenant.symm⟩)
  refine (intact_iff_of_found hevidence).mpr fun eventId hsource => ⟨r, ?_, hseals.hash.symm⟩
  rw [hseals.source, eventOf_sourceOf] at hsource
  obtain rfl := Option.some.inj hsource
  exact hevent

end

/-! ### The hash of an event and its content -/

/-- The sender gave no hash, or that of the content. -/
def TrueHash (event : CanonicalEvent) : Prop :=
  given event.rawHash = true → event.rawHash = some (rawDigest event.rawEvent)

/-- Two documents that differ at most in the order of their fields. -/
def SameDocument (raw raw' : JsonObject) : Prop :=
  (Json.obj raw).sorted = (Json.obj raw').sorted

instance (event : CanonicalEvent) : Decidable (TrueHash event) :=
  inferInstanceAs (Decidable (_ → _))

instance (raw raw' : JsonObject) : Decidable (SameDocument raw raw') :=
  inferInstanceAs (Decidable (_ = _))

theorem SameDocument.rawDigest_eq {raw raw' : JsonObject} (h : SameDocument raw raw') :
    rawDigest raw = rawDigest raw' := by
  unfold rawDigest canonicalJson
  rw [h]

/-- The hash that is stored is the content's just if the sender's is. -/
theorem rawHashOf_eq_iff {event : CanonicalEvent} (payload : JsonObject)
    (hraw : event.rawEvent ≠ []) :
    rawHashOf event payload = rawDigest event.rawEvent ↔ TrueHash event := by
  have hcontent : sha256Hex (canonicalJson (.obj
      (if event.rawEvent.isEmpty then payload else event.rawEvent))) = rawDigest event.rawEvent := by
    rw [if_neg (by simpa using hraw)]
    rfl
  unfold rawHashOf TrueHash
  rw [hcontent]
  cases hhash : event.rawHash with
  | none => simp [orText, given]
  | some text =>
      by_cases hempty : text = ""
      · simp [orText, given, hempty]
      · simp [orText, given, hempty]

/-- The row of an event with content has the hash of the content just if the sender's is that. -/
def Hashed (r : SecurityEvent) : Prop :=
  r.payload.rawEvent ≠ [] → (r.rawHash = rawDigest r.payload.rawEvent ↔ TrueHash r.payload)

theorem Stores.hashed {rt : Runtime} {tenantId : String} {payload : JsonObject}
    {r : SecurityEvent} (h : Stores rt tenantId payload r) : Hashed r := by
  obtain ⟨event, attributes, -, rfl⟩ := h
  exact rawHashOf_eq_iff payload

/-- A state without events and without evidence, between two requests. -/
structure Unrecorded (w : World) : Prop where
  settled : w.session.pending = []
  events : w.session.stored .events = []
  evidence : w.session.stored .evidence = []

section

variable {w : World}

theorem Unrecorded.trusted (h : Unrecorded w) : Trusted w := by
  refine ⟨h.settled, ?_, ?_, ?_⟩
  · rw [h.events]
    exact List.Pairwise.nil
  · rw [h.evidence]
    exact List.Pairwise.nil
  · rw [all_eq_stored h.settled, h.evidence]
    intro v hv
    cases hv

/-- A call stores no event with another hash. -/
theorem tenantStep_hashed (rt : Runtime) (h : Trusted w)
    (hrows : ∀ r ∈ w.session.stored .events, Hashed r) (call : String × TenantCall) :
    ∀ r ∈ (tenantStep rt w call).session.stored .events, Hashed r := by
  obtain ⟨tenantId, call⟩ := call
  cases call with
  | service call =>
      exact request_all ⟨h.settled, h.recorded.events⟩ hrows tenantId call
        fun payload _ row hrow => hrow.hashed
  | analyst actorId incidentId op =>
      rcases analyst_after rt tenantId actorId incidentId op h.settled with
        hsame | ⟨incident, edit, -, -, -, hsession⟩
      · unfold tenantStep
        rw [hsame]
        exact hrows
      · unfold tenantStep
        rw [hsession, edit.apply_events]
        exact hrows

theorem Unrecorded.run (h : Unrecorded w) (rt : Runtime) (calls : List (String × TenantCall)) :
    Trusted (Machine.run (tenantStep rt) w calls) ∧
      ∀ r ∈ (Machine.run (tenantStep rt) w calls).session.stored .events, Hashed r := by
  refine Machine.run_inv (fun w : World => Trusted w ∧
    ∀ r ∈ w.session.stored .events, Hashed r) ?_ ⟨h.trusted, ?_⟩ calls
  · rintro w call ⟨htrusted, hrows⟩
    exact ⟨(htrusted.call rt call.1 call.2).1, tenantStep_hashed rt htrusted hrows call⟩
  · rw [h.events]
    intro r hr
    cases hr

/-- The evidence that names an event seals it. -/
theorem Trusted.seals (h : Trusted w) {r : SecurityEvent} {v : Evidence}
    (hr : r ∈ w.session.stored .events) (hv : v ∈ w.session.stored .evidence)
    (hsource : v.source = sourceOf r.id) : Seals r v := by
  obtain ⟨r', hr', hseals⟩ := h.recorded.sealed v (List.mem_append_left _ hv)
  have hid : r'.id = r.id := sourceOf_injective (hseals.source.symm.trans hsource)
  obtain rfl := eq_of_mem_of_key h.recorded.events.nodup hr' hr hid
  exact hseals

end

/-- The row of the event has that payload by now. -/
def HoldsNow (r : SecurityEvent) (payload : CanonicalEvent) (w : World) : Prop :=
  ({ r with payload := payload } : SecurityEvent) ∈ w.session.stored .events

/-- The hash of the event is that of the content it came with, and its evidence counts as intact
only while that of the content it has by now is the sealed one. -/
def Vouches (r : SecurityEvent) (v : Evidence) (payload : CanonicalEvent) (w : World) : Prop :=
  r.rawHash = rawDigest r.payload.rawEvent ∧
    (Intact v.tenantId v.id w → rawDigest payload.rawEvent = v.integrityHash)

/-- In every run of calls of any tenants from a new deployment, the hash of an event with content
is the content's just if the sender's is; and after whatever happens to its row later, its evidence
vouches for the content just if the sender's hash was right and the content is still the same. -/
theorem content_integrity_iff (rt : Runtime) {w₀ : World} (hw₀ : Unrecorded w₀)
    (calls : List (String × TenantCall)) :
    ∀ r ∈ (Machine.run (tenantStep rt) w₀ calls).session.stored .events,
      (SecurityEvent.payload r).rawEvent ≠ [] →
      (r.rawHash = rawDigest r.payload.rawEvent ↔ TrueHash r.payload) ∧
      ∀ v ∈ (Machine.run (tenantStep rt) w₀ calls).session.stored .evidence,
        Evidence.source v = sourceOf r.id → ∀ steps,
        let w := Machine.run (StoreStep.after rt) (Machine.run (tenantStep rt) w₀ calls) steps
        (∃ payload, HoldsNow r payload w) ∧ ∀ payload, HoldsNow r payload w →
          (rawDigest payload.rawEvent = rawDigest r.payload.rawEvent →
            SameDocument payload.rawEvent r.payload.rawEvent) →
          (Vouches r v payload w ↔
            TrueHash r.payload ∧ SameDocument payload.rawEvent r.payload.rawEvent) := by
  obtain ⟨htrusted, hhashed⟩ := hw₀.run rt calls
  intro r hr hraw
  refine ⟨hhashed r hr hraw, ?_⟩
  intro v hv hsource steps w
  have hseals := htrusted.seals hr hv hsource
  obtain ⟨hlater, hremains⟩ := htrusted.run rt steps
  refine ⟨hremains.events r hr, ?_⟩
  intro payload _ hcollision
  obtain ⟨v', hv', hid, htenant, -, -⟩ := hremains.evidence v hv
  have hintact : Intact v.tenantId v.id w := by
    rw [← htenant, ← hid]
    exact hlater.intact hv'
  constructor
  · rintro ⟨hhash, hvouches⟩
    refine ⟨(hhashed r hr hraw).mp hhash, hcollision ?_⟩
    rw [hvouches hintact, hseals.hash, hhash]
  · rintro ⟨htrue, hsame⟩
    have hhash := (hhashed r hr hraw).mpr htrue
    refine ⟨hhash, fun _ => ?_⟩
    rw [hsame.rawDigest_eq, hseals.hash, hhash]

/-! ### Samples -/

/-- An encoded command with the record of its sensor, under the hash that the sender gives. -/
def recordedPayload (rawHash : Json) : JsonObject :=
  [("schema_version", .str "1.0.0"), ("id", .str "evt_1"), ("source", .str "edr"),
   ("source_type", .str "endpoint"), ("event_type", .str "endpoint"), ("category", .str "process"),
   ("timestamp", .int 1700000000), ("ingested_at", .int 1700000000), ("raw_hash", rawHash),
   ("raw_event", .obj [("cmd", .str "-enc AA")]), ("host", .obj [("name", .str "h")]),
   ("process", .obj [("name", .str "powershell.exe"), ("command_line", .str "-enc AA")]),
   ("parent_process", .obj [("name", .str "powerpnt.exe")])]

/-- The event is stored, with evidence. -/
def recordedWorld (rawHash : Json) : World :=
  Machine.run (tenantStep sampleRuntime) emptyWorld
    [("ten_a", .service (.ingest "usr_1" [recordedPayload rawHash]))]

/-- The event with another command in its record. -/
def cleanedEvent : CanonicalEvent where
  id := "evt_1"
  tenantId := "ten_a"
  timestamp := ⟨0, some 0⟩
  ingestedAt := ⟨0, some 0⟩
  source := "edr"
  sourceType := "endpoint"
  eventType := "endpoint"
  category := "process"
  rawEvent := [("cmd", .str "-version")]

/-- The event is stored under the hash of its content, and then its record is replaced. -/
def cleanedWorld : World :=
  Machine.run (StoreStep.after sampleRuntime) (recordedWorld .null)
    [.modify "evt_1" cleanedEvent]

theorem recordedWorld_trusted : Trusted (recordedWorld .null) := by
  have hnew : Unrecorded emptyWorld := ⟨rfl, rfl, rfl⟩
  exact (hnew.run sampleRuntime
    [("ten_a", .service (.ingest "usr_1" [recordedPayload .null]))]).1

/-- The event has the hash of its content, and evidence, and then another content. -/
theorem cleanedWorld_rows :
    ∃ r ∈ (recordedWorld .null).session.stored .events,
      (SecurityEvent.payload r).rawEvent ≠ [] ∧ r.rawHash = rawDigest r.payload.rawEvent ∧
      ({ r with payload := cleanedEvent } : SecurityEvent) ∈ cleanedWorld.session.stored .events ∧
      rawDigest cleanedEvent.rawEvent ≠ r.rawHash ∧
      ∃ v ∈ (recordedWorld .null).session.stored .evidence,
        Evidence.source v = sourceOf r.id ∧ v ∈ cleanedWorld.session.stored .evidence := by
  decide +kernel

theorem content_integrity_iff_cleaned :
    ∃ r ∈ (recordedWorld .null).session.stored .events,
      (SecurityEvent.rawHash r = rawDigest r.payload.rawEvent ↔ TrueHash r.payload) ∧
      ∃ v ∈ (recordedWorld .null).session.stored .evidence,
        Evidence.source v = sourceOf r.id ∧ HoldsNow r cleanedEvent cleanedWorld ∧
          (Vouches r v cleanedEvent cleanedWorld ↔
            TrueHash r.payload ∧ SameDocument cleanedEvent.rawEvent r.payload.rawEvent) := by
  obtain ⟨r, hr, hraw, hhash, hholds, hother, v, hv, hsource, -⟩ := cleanedWorld_rows
  have hcollision : rawDigest cleanedEvent.rawEvent = rawDigest r.payload.rawEvent →
      SameDocument cleanedEvent.rawEvent r.payload.rawEvent := by
    intro hsame
    exact absurd (hsame.trans hhash.symm) hother
  have hnew : Unrecorded emptyWorld := ⟨rfl, rfl, rfl⟩
  have hall := content_integrity_iff sampleRuntime hnew
    [("ten_a", .service (.ingest "usr_1" [recordedPayload .null]))] r hr hraw
  exact ⟨r, hr, hall.1, v, hv, hsource, hholds,
    (hall.2 v hv hsource [.modify "evt_1" cleanedEvent]).2 cleanedEvent hholds hcollision⟩

/-- A hash that the sender made up is stored and sealed; and where the hash is the content's, the
evidence still counts as intact when the event has another content. -/
theorem forged_hash_sealed :
    (∃ r ∈ (recordedWorld (.str "00")).session.stored .events,
      (SecurityEvent.payload r).rawEvent ≠ [] ∧ r.rawHash ≠ rawDigest r.payload.rawEvent ∧
      ∃ v ∈ (recordedWorld (.str "00")).session.stored .evidence,
        Evidence.source v = sourceOf r.id ∧ v.integrityHash = r.rawHash) ∧
    ∃ r ∈ (recordedWorld .null).session.stored .events,
      (SecurityEvent.payload r).rawEvent ≠ [] ∧ HoldsNow r cleanedEvent cleanedWorld ∧
      ∃ v ∈ (recordedWorld .null).session.stored .evidence,
        Evidence.source v = sourceOf r.id ∧ Intact v.tenantId v.id cleanedWorld ∧
        rawDigest cleanedEvent.rawEvent ≠ v.integrityHash := by
  constructor
  · decide +kernel
  · obtain ⟨r, hr, hraw, -, hholds, hother, v, hv, hsource, hlater⟩ := cleanedWorld_rows
    have hcleaned : Trusted cleanedWorld :=
      (recordedWorld_trusted.run sampleRuntime [.modify "evt_1" cleanedEvent]).1
    have hseals := recordedWorld_trusted.seals hr hv hsource
    refine ⟨r, hr, hraw, hholds, v, hv, hsource, hcleaned.intact hlater, ?_⟩
    rw [hseals.hash]
    exact hother

end BlueTeam.Services
