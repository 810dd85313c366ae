/- GID: BlueTeam/Services/Footprint
   generality: I
   source: services/api/app/services
   digest: Which tables each service writes, as what it keeps of the rest. -/

import BlueTeam.Services.Ingestion
import BlueTeam.Services.Rules

set_option autoImplicit false
set_option relaxedAutoImplicit false

namespace BlueTeam.Services

open BlueTeam.Python BlueTeam.Schema BlueTeam.Lib BlueTeam.Lib.Exec BlueTeam.Detection BlueTeam.Ingest

/-- An invariant that writes to the given tables and flushes do not break; what can be raised on
the way satisfies `E`. No service changes or deletes an event. -/
structure Stable (I : Session schema → Prop) (E : Failure → World → Prop) (tables : List Table) :
    Prop where
  add : ∀ {t : Table} (r : t.Row) (s : Session schema), t ∈ tables → I s →
    I (s.add (S := schema) r)
  update : ∀ {t : Table} (f : t.Row → t.Row) (s : Session schema), t ∈ tables →
    t ≠ .events → I s → I (s.update t f)
  delete : ∀ {t : Table} (p : t.Row → Bool) (s : Session schema), t ∈ tables →
    t ≠ .events → I s → I (s.delete t p)
  flush : Keeps I E flush
  python : ∀ e (w : World), I w.session → E (.python e) w
  multiple : ∀ t, t ≠ .storylines → ∀ w : World, I w.session → E (.multipleResultsFound t) w
  missing : ∀ code message status (w : World), I w.session →
    E (.blueTeamError code message status) w

/-- A failed flush leaves the session as it was, so the invariant is there for a handler too. -/
theorem Stable.onRaise {I : Session schema → Prop} {F : Failure → Prop} {tables : List Table}
    (h : Stable I (fun e _ => F e) tables) : Stable I (fun e w => I w.session ∧ F e) tables where
  add := h.add
  update := h.update
  delete := h.delete
  flush := by
    refine ⟨fun w hw => ?_⟩
    have hw' := h.flush.run w hw
    unfold Services.flush at hw' ⊢
    cases hf : w.session.flush with
    | ok s =>
        rw [hf] at hw'
        exact hw'
    | error c =>
        rw [hf] at hw'
        exact ⟨hw, hw'⟩
  python e w hw := ⟨hw, h.python e w hw⟩
  multiple t ht w hw := ⟨hw, h.multiple t ht w hw⟩
  missing code message status w hw := ⟨hw, h.missing code message status w hw⟩

/-- The tenant's events as `loadWindow` gives them. -/
def World.window (w : World) (tenantId : String) : List CanonicalEvent :=
  ((w.rowsOf .events tenantId).insertionSort fun a b => a.timestamp.wall ≤ b.timestamp.wall).map
    (·.payload)

/-- The tenant's findings as `listFindings` gives them. -/
def World.latestFindings (w : World) (tenantId : String) : List Finding :=
  ((w.rowsOf .findings tenantId).insertionSort fun a b => b.createdAt.wall ≤ a.createdAt.wall).map
    (·.payload)

theorem loadWindow_run (tenantId : String) (w : World) :
    loadWindow tenantId w = (.ok (w.window tenantId), w) := by
  simp [loadWindow, select, World.window, World.rowsOf, bind_run, gets, andThen]

theorem listFindings_run (tenantId : String) (w : World) :
    ∃ rows, listFindings tenantId w = (.ok rows, w) ∧
      rows.map (·.payload) = w.latestFindings tenantId := by
  simp [listFindings, select, World.latestFindings, World.rowsOf, bind_run, gets, andThen]

/-- The events that a payload may become: what it is normalised to, enriched. -/
def Yields (rt : Runtime) (tenantId : String) (payload : JsonObject) (event : CanonicalEvent) :
    Prop :=
  ∃ raw t t' intel, normalizePayload rt payload tenantId t = (.ok raw, t') ∧
    event = enrichEvent rt intel raw

/-- The rows that a payload may be stored as: the object store may have added an attribute. -/
def Stores (rt : Runtime) (tenantId : String) (payload : JsonObject) (row : SecurityEvent) : Prop :=
  ∃ event attributes, Yields rt tenantId payload event ∧
    row = securityEvent tenantId (rawHashOf event payload) { event with attributes := attributes }

theorem bestEffortProject_run (rt : Runtime) (event : CanonicalEvent) (t : Ticks) :
    ∃ attributes t', bestEffortProject rt event t =
      (.ok { event with attributes := attributes }, t') := by
  unfold bestEffortProject
  cases rt.objectUri event.tenantId event.id with
  | none => exact ⟨event.attributes, t, rfl⟩
  | some uri => exact ⟨_, _, rfl⟩

section

variable {I : Session schema → Prop} {E : Failure → World → Prop} {tables : List Table}
  (rt : Runtime) (tenantId : String)

theorem loadWindow_keeps : Keeps I E (loadWindow tenantId) :=
  keeps_bind keeps_select fun _ => keeps_pure _

theorem openFingerprints_keeps : Keeps I E (openFingerprints tenantId) :=
  keeps_bind keeps_select fun _ => keeps_pure _

theorem listFindings_keeps : Keeps I E (listFindings tenantId) :=
  keeps_bind keeps_select fun _ => keeps_pure _

include tables

variable (h : Stable I E tables)

include h

theorem activeIntelMap_keeps : Keeps I E (activeIntelMap rt tenantId) := by
  unfold activeIntelMap listIocs
  refine keeps_bind ?_ fun _ => keeps_pure _
  refine keeps_bind keeps_select fun rows => ?_
  exact keeps_bind (keeps_draw h.python) fun now => keeps_compute h.python

theorem recordSightings_keeps (ht : .indicators ∈ tables) (event : CanonicalEvent) :
    Keeps I E (recordSightings rt tenantId event) := by
  unfold recordSightings
  refine keeps_bind (keeps_draw h.python) fun now => ?_
  refine keeps_bind (keeps_loop ?_ _) fun matched => ?_
  · intro matched candidate _
    refine keeps_bind keeps_select fun rows => ?_
    refine keeps_bind (keeps_compute h.python) fun live => ?_
    exact keeps_bind (keeps_update fun s hs => h.update _ s ht (by decide) hs) fun _ => keeps_pure _
  · split
    · exact keeps_pure _
    · exact keeps_bind h.flush fun _ => keeps_pure _

theorem normalizeAndEnrich_keeps (ht : .indicators ∈ tables) (payload : JsonObject) :
    Triple (fun w => I w.session) (normalizeAndEnrich rt tenantId payload)
      (fun event w => I w.session ∧ Yields rt tenantId payload event) E := by
  unfold normalizeAndEnrich
  refine triple_bind (Q := fun event w => (∃ t t', normalizePayload rt payload tenantId t =
    (.ok event, t')) ∧ I w.session) ?_ fun event => ?_
  · refine triple_draw ?_ ?_
    · intro w event t hw hrun
      exact ⟨⟨w.ticks, t, hrun⟩, hw⟩
    · intro w e t hw _
      exact h.python e _ hw
  · refine triple_given fun hraw => ?_
    obtain ⟨t, t', hraw⟩ := hraw
    refine triple_bind (activeIntelMap_keeps rt tenantId h) fun intel => ?_
    refine triple_bind (recordSightings_keeps rt tenantId h ht _) fun _ => ?_
    exact triple_pure fun w hw => ⟨hw, event, t, t', _, hraw, rfl⟩

theorem deadLetter_keeps (ht : .deadLetters ∈ tables) (payload : JsonObject) (reason : String) :
    Keeps I E (deadLetter rt tenantId payload reason) := by
  unfold deadLetter
  refine keeps_bind (keeps_draw h.python) fun id => ?_
  refine keeps_bind (keeps_draw h.python) fun at_ => ?_
  exact keeps_add fun s hs => h.add _ s ht hs

theorem registerEventEvidence_keeps
    (hev : ∀ (r : Evidence) (s : Session schema), I s → I (s.add (S := schema) (t := .evidence) r))
    (eventId actorId : String) : Keeps I E (registerEventEvidence rt tenantId eventId actorId) := by
  unfold registerEventEvidence
  refine keeps_bind (keeps_selectOne (h.multiple _ (by decide))) fun existing => ?_
  cases existing with
  | some existing => exact keeps_pure _
  | none =>
      refine keeps_bind (keeps_selectOne (h.multiple _ (by decide))) fun event => ?_
      cases event with
      | none => exact keeps_raise (h.missing _ _ _)
      | some event =>
          refine keeps_bind (keeps_draw h.python) fun id => ?_
          refine keeps_bind (keeps_draw h.python) fun ingestedAt => ?_
          refine keeps_bind (keeps_draw h.python) fun acquired => ?_
          refine keeps_bind (keeps_draw h.python) fun hashed => ?_
          refine keeps_bind (keeps_draw h.python) fun sealedAt => ?_
          refine keeps_bind (keeps_add fun s hs => hev _ s hs) fun _ => ?_
          exact keeps_bind h.flush fun _ => keeps_pure _

theorem isSuppressed_keeps (finding : Finding) : Keeps I E (isSuppressed rt tenantId finding) := by
  unfold isSuppressed
  refine keeps_bind (keeps_draw h.python) fun now => ?_
  refine keeps_bind keeps_select fun rows => ?_
  refine keeps_bind (keeps_compute h.python) fun suppressed => ?_
  split
  · exact keeps_pure _
  · exact keeps_bind keeps_select fun _ => keeps_pure _

/-- A finding is stored with the evidence of its events, whatever registering that keeps. -/
theorem storeFinding_registers (actorId : String)
    (hreg : ∀ eventId, Keeps I E (registerEventEvidence rt tenantId eventId actorId))
    (ha : .alerts ∈ tables) (acc : Created) (finding : Finding)
    (hf : ∀ evidenceIds (s : Session schema), I s →
      I (s.add (S := schema) (t := .findings) (findingRecord tenantId finding evidenceIds))) :
    Keeps I E (storeFinding rt tenantId actorId acc finding) := by
  unfold storeFinding
  refine keeps_bind (isSuppressed_keeps rt tenantId h finding) fun suppressed => ?_
  split
  · exact keeps_pure _
  · refine keeps_bind (keeps_selectOne (h.multiple _ (by decide))) fun existing => ?_
    cases existing with
    | some _ => exact keeps_pure _
    | none =>
        refine keeps_bind (keeps_loop ?_ _) fun ids => ?_
        · intro ids eventId _
          exact keeps_bind (hreg eventId) fun _ => keeps_pure _
        · refine keeps_bind (keeps_add fun s hs => hf ids s hs) fun _ => ?_
          exact keeps_bind (keeps_add fun s hs => h.add _ s ha hs) fun _ => keeps_pure _

/-- What the registry may find for the event in the context, whatever ids it draws. -/
def Produced (context : DetectionContext) (event : CanonicalEvent) (finding : Finding) : Prop :=
  ∃ t findings t', evaluateAll rt defaultRegistry event context t = (.ok findings, t') ∧
    finding ∈ findings

/-- The detections on one event register evidence, and add findings that the registry produces, and
alerts. -/
theorem evaluateAndStoreFindings_registers (actorId : String)
    (hreg : ∀ eventId, Keeps I E (registerEventEvidence rt tenantId eventId actorId))
    (ha : .alerts ∈ tables) (context : DetectionContext) (event : CanonicalEvent)
    (hf : ∀ finding, Produced rt context event finding → ∀ evidenceIds (s : Session schema), I s →
      I (s.add (S := schema) (t := .findings) (findingRecord tenantId finding evidenceIds))) :
    Keeps I E (evaluateAndStoreFindings rt tenantId actorId context event) := by
  unfold evaluateAndStoreFindings
  refine triple_bind (Q := fun findings w => (∃ t t',
    evaluateAll rt defaultRegistry event context t = (.ok findings, t')) ∧ I w.session) ?_
    fun findings => ?_
  · refine triple_draw ?_ ?_
    · intro w findings t hw hrun
      exact ⟨⟨w.ticks, t, hrun⟩, hw⟩
    · intro w e t hw _
      exact h.python e _ hw
  · apply triple_given
    rintro ⟨t, t', hrun⟩
    refine keeps_bind (keeps_loop (fun acc finding hmem => ?_) _) fun acc => ?_
    · exact storeFinding_registers rt tenantId h actorId hreg ha acc finding
        (hf finding ⟨t, findings, t', hrun, hmem⟩)
    · exact keeps_bind h.flush fun _ => keeps_pure _

theorem evaluateAndStoreFindings_adds
    (hev : ∀ (r : Evidence) (s : Session schema), I s → I (s.add (S := schema) (t := .evidence) r))
    (ha : .alerts ∈ tables) (actorId : String) (context : DetectionContext) (event : CanonicalEvent)
    (hf : ∀ finding, Produced rt context event finding → ∀ evidenceIds (s : Session schema), I s →
      I (s.add (S := schema) (t := .findings) (findingRecord tenantId finding evidenceIds))) :
    Keeps I E (evaluateAndStoreFindings rt tenantId actorId context event) :=
  evaluateAndStoreFindings_registers rt tenantId h actorId
    (fun eventId => registerEventEvidence_keeps rt tenantId h hev eventId actorId) ha context event
    hf

theorem evaluateAndStoreFindings_keeps (hev : .evidence ∈ tables) (hf : .findings ∈ tables)
    (ha : .alerts ∈ tables) (actorId : String) (context : DetectionContext)
    (event : CanonicalEvent) :
    Keeps I E (evaluateAndStoreFindings rt tenantId actorId context event) :=
  evaluateAndStoreFindings_adds rt tenantId h (fun r s hs => h.add r s hev hs) ha actorId context
    event fun _ _ _ s hs => h.add _ s hf hs

theorem replaceGraph_keeps (he : .entities ∈ tables) (hr : .relationships ∈ tables)
    (graph : EntityGraph) : Keeps I E (replaceGraph tenantId graph) := by
  unfold replaceGraph
  refine keeps_bind (keeps_deleteAll fun s hs => h.delete _ s he (by decide) hs) fun _ => ?_
  refine keeps_bind (keeps_deleteAll fun s hs => h.delete _ s hr (by decide) hs) fun _ => ?_
  refine keeps_bind h.flush fun _ => ?_
  refine keeps_bind (keeps_loop (fun _ _ _ => keeps_add fun s hs => h.add _ s he hs) _) fun _ => ?_
  refine keeps_bind (keeps_loop (fun _ _ _ => keeps_add fun s hs => h.add _ s hr hs) _) fun _ => ?_
  exact h.flush

theorem projectGraph_keeps (he : .entities ∈ tables) (hr : .relationships ∈ tables)
    (events : List CanonicalEvent) : Keeps I E (projectGraph rt tenantId events) := by
  unfold projectGraph
  refine keeps_bind keeps_select fun findings => ?_
  refine keeps_bind keeps_select fun stored => ?_
  refine keeps_bind (keeps_compute h.python) fun graph => ?_
  exact replaceGraph_keeps tenantId h he hr graph

/-- A storyline adds an incident of its own, adds itself, and links itself to an incident. -/
theorem persistStory_files (story : Storyline)
    (hi : ∀ (r : IncidentRecord) (s : Session schema), r.evidenceIds = story.evidenceIds →
      r.sourceAlertId = none → I s → I (s.add (S := schema) (t := .incidents) r))
    (hs : ∀ (r : StorylineRecord) (s : Session schema), r.payload = story → I s →
      I (s.add (S := schema) (t := .storylines) r))
    (hl : ∀ (change : IncidentRecord → IncidentRecord) (s : Session schema),
      (∀ r, ∃ more now, change r =
        { r with storylineIds := r.storylineIds ++ more, updatedAt := now }) → I s →
      I (s.update .incidents change))
    (hm : ∀ w : World, I w.session → E (.multipleResultsFound .storylines) w) :
    Keeps I E (persistStory rt tenantId story) := by
  unfold persistStory
  refine keeps_bind (keeps_selectOne hm) fun existing => ?_
  have hof : Keeps I E (incidentOf existing) := by
    unfold incidentOf
    split
    · split
      · exact keeps_pure _
      · exact keeps_get
    · exact keeps_pure _
  refine keeps_bind hof fun known => ?_
  cases known with
  | some _ => exact keeps_pure _
  | none =>
      refine keeps_bind (keeps_selectOne (h.multiple _ (by decide))) fun found => ?_
      refine keeps_bind (keeps_draw h.python) fun now => ?_
      refine keeps_bind ?_ fun incident => ?_
      · cases found with
        | some incident => exact keeps_pure _
        | none =>
            refine keeps_bind (keeps_draw h.python) fun id => ?_
            refine keeps_bind (keeps_draw h.python) fun created => ?_
            refine keeps_bind (keeps_add fun s h' => hi _ s rfl rfl h') fun _ => ?_
            exact keeps_bind h.flush fun _ => keeps_pure _
      · cases existing with
        | some _ => exact keeps_pure _
        | none =>
            refine keeps_bind (keeps_add fun s h' => hs _ s rfl h') fun _ => ?_
            apply keeps_update
            intro s h'
            apply hl _ s _ h'
            intro r
            split
            · exact ⟨_, _, rfl⟩
            · exact ⟨[], r.updatedAt, by rw [List.append_nil]⟩

/-- The incident has the evidence of the storyline. -/
theorem persistStory_adds (story : Storyline)
    (hi : ∀ (r : IncidentRecord) (s : Session schema), r.evidenceIds = story.evidenceIds → I s →
      I (s.add (S := schema) (t := .incidents) r))
    (hs : ∀ (r : StorylineRecord) (s : Session schema), r.payload = story → I s →
      I (s.add (S := schema) (t := .storylines) r))
    (hl : ∀ (change : IncidentRecord → IncidentRecord) (s : Session schema),
      (∀ r, ∃ ids now, change r = { r with storylineIds := ids, updatedAt := now }) → I s →
      I (s.update .incidents change))
    (hm : ∀ w : World, I w.session → E (.multipleResultsFound .storylines) w) :
    Keeps I E (persistStory rt tenantId story) := by
  refine persistStory_files rt tenantId h story (fun r s hr _ => hi r s hr) hs ?_ hm
  intro change s hchange
  refine hl change s fun r => ?_
  obtain ⟨more, now, hr⟩ := hchange r
  exact ⟨_, now, hr⟩

theorem persistStory_keeps (hi : .incidents ∈ tables) (hs : .storylines ∈ tables)
    (hm : ∀ w : World, I w.session → E (.multipleResultsFound .storylines) w)
    (story : Storyline) : Keeps I E (persistStory rt tenantId story) :=
  persistStory_adds rt tenantId h story (fun r s _ h' => h.add r s hi h')
    (fun r s _ h' => h.add r s hs h') (fun _ s _ h' => h.update _ s hi (by decide) h') hm

theorem persistStorylinesAndIncidents_keeps (hi : .incidents ∈ tables) (hs : .storylines ∈ tables)
    (hm : ∀ w : World, I w.session → E (.multipleResultsFound .storylines) w) :
    Keeps I E (persistStorylinesAndIncidents rt tenantId) := by
  unfold persistStorylinesAndIncidents
  refine keeps_bind (loadWindow_keeps tenantId) fun events => ?_
  refine keeps_bind (listFindings_keeps tenantId) fun findings => ?_
  refine keeps_bind (keeps_draw h.python) fun stories => ?_
  refine keeps_bind (keeps_loop (fun _ story _ =>
    persistStory_keeps rt tenantId h hi hs hm story) _) fun _ => ?_
  exact h.flush

end

/-! ### Ingestion as a whole -/

/-- The payloads that a call ingests. -/
def Call.payloads : Call → List JsonObject
  | .ingest _ payloads => payloads
  | .scheduled _ | .persist => []

section

variable {I : Session schema → Prop} {E : Failure → World → Prop} {tables : List Table}
  (rt : Runtime) (tenantId actorId : String)

theorem evaluateAndStore_keeps
    (hev : ∀ context event, Keeps I E (evaluateAndStoreFindings rt tenantId actorId context event))
    (event : CanonicalEvent) : Keeps I E (evaluateAndStore rt tenantId actorId event) := by
  unfold evaluateAndStore
  refine keeps_bind (loadWindow_keeps tenantId) fun events => ?_
  refine keeps_bind (openFingerprints_keeps tenantId) fun fps => ?_
  exact keeps_bind (hev _ event) fun _ => keeps_pure _

theorem runScheduled_keeps
    (hev : ∀ context event, Keeps I E (evaluateAndStoreFindings rt tenantId actorId context event)) :
    Keeps I E (runScheduled rt tenantId actorId) := by
  unfold runScheduled
  refine keeps_bind (loadWindow_keeps tenantId) fun events => ?_
  split
  · exact keeps_pure _
  · refine keeps_bind (openFingerprints_keeps tenantId) fun fps => ?_
    refine keeps_bind (keeps_loop ?_ _) fun _ => keeps_pure _
    intro acc event _
    exact keeps_bind (hev _ event) fun _ => keeps_pure _

/-- A turn of `ingest_payloads` up to the detections: what it returns without them, or the event
that it has stored for them. -/
def untilEvaluate (acc : IngestResult) (payload : JsonObject) :
    Service (IngestResult ⊕ CanonicalEvent) := do
  match ← Exec.attempt (normalizeAndEnrich rt tenantId payload) with
  | .ok event => do
      match ← sameKey tenantId event with
      | some existing => pure (.inl { acc with duplicates := acc.duplicates ++ [existing.id] })
      | none =>
          match ← get .events event.id with
          | some existing =>
              if existing.tenantId ≠ tenantId then do
                deadLetter rt tenantId payload "event id collision across tenants"
                pure (.inl { acc with
                  rejected := acc.rejected ++ [⟨"event id collision", some event.id⟩] })
              else pure (.inl { acc with duplicates := acc.duplicates ++ [existing.id] })
          | none => do
              let rawHash := rawHashOf event payload
              let event ← draw (bestEffortProject rt event)
              add (t := .events) (securityEvent tenantId rawHash event)
              flush
              pure (.inr event)
  | .error (.python e) =>
      if e.isValueError then do
        deadLetter rt tenantId payload (e.text rt)
        pure (.inl { acc with rejected := acc.rejected ++ [⟨e.text rt, none⟩] })
      else Exec.raise (.python e)
  | .error e => Exec.raise e

/-- The detections on the event, if there is one. -/
def evaluateStored (acc : IngestResult) : IngestResult ⊕ CanonicalEvent → Service IngestResult
  | .inl result => pure result
  | .inr event => do
      let created ← evaluateAndStore rt tenantId actorId event
      pure { acc with
        accepted := acc.accepted ++ [event.id], findingsCreated := acc.findingsCreated + created }

theorem ingestPayload_eq (acc : IngestResult) (payload : JsonObject) :
    ingestPayload rt tenantId actorId acc payload =
      untilEvaluate rt tenantId acc payload >>= evaluateStored rt tenantId actorId acc := by
  unfold ingestPayload untilEvaluate
  rw [bind_assoc]
  congr 1
  funext r
  rcases r with f | event
  · cases f with
    | python e =>
        dsimp only
        split
        · rw [bind_assoc]
          rfl
        · rfl
    | integrityError c => rfl
    | multipleResultsFound t => rfl
    | blueTeamError code message status => rfl
  · dsimp only
    unfold placeEvent
    rw [bind_assoc]
    congr 1
    funext existing
    cases existing with
    | some _ => rfl
    | none =>
        dsimp only
        rw [bind_assoc]
        congr 1
        funext existing
        cases existing with
        | none =>
            unfold acceptEvent
            simp only [bind_assoc, pure_bind, evaluateStored]
        | some existing =>
            dsimp only
            split
            · rw [bind_assoc]
              rfl
            · rfl

/-- Up to the detections, a turn keeps what its own writes keep. -/
theorem untilEvaluate_keeps {F : Failure → Prop} (h : Stable I (fun e _ => F e) tables)
    (hd : .deadLetters ∈ tables) (hi : .indicators ∈ tables) (acc : IngestResult)
    {payload : JsonObject}
    (hadd : ∀ row, Stores rt tenantId payload row → ∀ s, I s →
      I (s.add (S := schema) (t := .events) row)) :
    Keeps I (fun e _ => F e) (untilEvaluate rt tenantId acc payload) := by
  unfold untilEvaluate
  refine keeps_try (normalizeAndEnrich_keeps rt tenantId h.onRaise hi payload) ?_ ?_
  · intro event hyields
    dsimp only
    have hkey : Keeps I (fun e _ => F e) (sameKey tenantId event) := by
      unfold sameKey
      split
      · exact keeps_selectOne (h.multiple _ (by decide))
      · exact keeps_pure _
    refine keeps_bind hkey fun existing => ?_
    cases existing with
    | some _ => exact keeps_pure _
    | none =>
        refine keeps_bind keeps_get fun existing => ?_
        cases existing with
        | some existing =>
            dsimp only
            split
            · exact keeps_bind (deadLetter_keeps rt tenantId h hd _ _) fun _ => keeps_pure _
            · exact keeps_pure _
        | none =>
            refine triple_bind (Q := fun event' w => (∃ attributes, event' =
              { event with attributes := attributes }) ∧ I w.session) ?_ fun event' => ?_
            · refine triple_draw ?_ ?_
              · intro w event' t hw hrun
                obtain ⟨attributes, t', hproj⟩ := bestEffortProject_run rt event w.ticks
                rw [hproj] at hrun
                cases hrun
                exact ⟨⟨attributes, rfl⟩, hw⟩
              · intro w e t hw hrun
                obtain ⟨attributes, t', hproj⟩ := bestEffortProject_run rt event w.ticks
                rw [hproj] at hrun
                cases hrun
            · apply triple_given
              rintro ⟨attributes, rfl⟩
              refine keeps_bind (keeps_add fun s hs =>
                hadd _ ⟨event, attributes, hyields, rfl⟩ s hs) fun _ => ?_
              exact keeps_bind h.flush fun _ => keeps_pure _
  · intro e he
    have hraise : ∀ w : World, I w.session → F e := fun _ _ => he
    cases e with
    | python e =>
        dsimp only
        split
        · exact keeps_bind (deadLetter_keeps rt tenantId h hd _ _) fun _ => keeps_pure _
        · exact keeps_raise hraise
    | integrityError c => exact keeps_raise hraise
    | multipleResultsFound t => exact keeps_raise hraise
    | blueTeamError code message status => exact keeps_raise hraise

/-- The loop of a batch keeps what its own writes and the detections keep. -/
theorem ingestLoop_keeps {F : Failure → Prop} (h : Stable I (fun e _ => F e) tables)
    (hd : .deadLetters ∈ tables) (hi : .indicators ∈ tables) (payloads : List JsonObject)
    (hadd : ∀ payload ∈ payloads, ∀ row, Stores rt tenantId payload row → ∀ s, I s →
      I (s.add (S := schema) (t := .events) row))
    (hev : ∀ context event,
      Keeps I (fun e _ => F e) (evaluateAndStoreFindings rt tenantId actorId context event)) :
    Keeps I (fun e _ => F e) (Exec.loop (ingestPayload rt tenantId actorId) {} payloads) := by
  refine keeps_loop ?_ _
  intro acc payload hpayload
  rw [ingestPayload_eq]
  refine keeps_bind (untilEvaluate_keeps rt tenantId h hd hi acc (hadd payload hpayload)) ?_
  rintro (result | event)
  · exact keeps_pure _
  · exact keeps_bind (evaluateAndStore_keeps rt tenantId actorId hev event) fun _ => keeps_pure _

theorem projectBatch_keeps {F : Failure → Prop} (h : Stable I (fun e _ => F e) tables)
    (htables : [Table.entities, .relationships, .storylines, .incidents] ⊆ tables)
    (hm : F (.multipleResultsFound .storylines)) (result : IngestResult) :
    Keeps I (fun e _ => F e) (projectBatch rt tenantId result) := by
  unfold projectBatch
  split
  · exact keeps_pure _
  · refine keeps_bind (loadWindow_keeps tenantId) fun window => ?_
    refine keeps_bind ?_ fun _ => ?_
    · exact projectGraph_keeps rt tenantId h (htables (by decide)) (htables (by decide)) window
    · exact persistStorylinesAndIncidents_keeps rt tenantId h (htables (by decide))
        (htables (by decide)) (fun _ _ => hm)

/-- A call keeps what the writes of the detections, of the correlation and its own keep. -/
theorem call_keeps {F : Failure → Prop} (h : Stable I (fun e _ => F e) tables)
    (htables : [Table.deadLetters, .indicators, .entities, .relationships, .storylines,
      .incidents] ⊆ tables)
    (hm : F (.multipleResultsFound .storylines)) (call : Call)
    (hadd : ∀ payload ∈ call.payloads, ∀ row, Stores rt tenantId payload row → ∀ s, I s →
      I (s.add (S := schema) (t := .events) row))
    (hev : ∀ actorId context event,
      Keeps I (fun e _ => F e) (evaluateAndStoreFindings rt tenantId actorId context event)) :
    Keeps I (fun e _ => F e) (call.body rt tenantId) := by
  cases call with
  | ingest actorId payloads =>
      refine keeps_bind ?_ fun _ => keeps_pure _
      refine keeps_bind (ingestLoop_keeps rt tenantId actorId h (htables (by decide))
        (htables (by decide)) payloads hadd (hev actorId)) fun result => ?_
      refine keeps_bind (projectBatch_keeps rt tenantId h ?_ hm result) fun _ => keeps_pure _
      exact List.Subset.trans (by decide) htables
  | scheduled actorId =>
      exact keeps_bind (runScheduled_keeps rt tenantId actorId (hev actorId)) fun _ => keeps_pure _
  | persist =>
      exact persistStorylinesAndIncidents_keeps rt tenantId h (htables (by decide))
        (htables (by decide)) (fun _ _ => hm)

end

end BlueTeam.Services
