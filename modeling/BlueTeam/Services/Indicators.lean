/- GID: BlueTeam/Services/Indicators
   generality: I
   source: services/api/app/services/intel.py, packages/enrichment/blueteam_enrich/engine.py
   digest: How indicators are stored, and where sightings and enrichment agree on an event. -/

import BlueTeam.Lib.Machine
import BlueTeam.Services.Sightings
import Mathlib.Data.Finset.Card

set_option autoImplicit false
set_option relaxedAutoImplicit false

namespace BlueTeam.Services

open BlueTeam.Python BlueTeam.Schema BlueTeam.Lib BlueTeam.Lib.Exec BlueTeam.Detection
  BlueTeam.Ingest

/-! ### Storing an indicator -/

def iocTypes : List String :=
  ["ip", "domain", "hash", "url", "email"]

/-- What `upsert_ioc` is called with. -/
structure IocRequest where
  indicatorType : String
  value : String
  source : String
  confidence : PyFloat
  ttlHours : Int
  actorId : String
  malware : Option String := none
  actor : Option String := none
  campaign : Option String := none
  mitreTechniques : Option (List String) := none
  tags : Option (List String) := none
  provenance : Option JsonObject := none

section

variable (rt : Runtime) (tenantId : String)

/-- The type and the value as they are stored. -/
def IocRequest.normalized (req : IocRequest) : String × String :=
  let indicatorType := rt.strip (rt.lower req.indicatorType)
  (indicatorType,
    if indicatorType ∈ ["domain", "email"] then rt.lower (rt.strip req.value)
    else rt.strip req.value)

/-- `{**(provenance or {}), **given}` if anything is given. -/
def mergedProvenance (provenance : JsonObject) (req : IocRequest) : JsonObject :=
  overlay provenance (req.provenance.getD [])

/-- What a repeated indicator becomes. -/
def IocRequest.refresh (req : IocRequest) (ttlHours : Int) (expiresAt now : DateTime)
    (r : IndicatorOfCompromise) : IndicatorOfCompromise :=
  { r with
    source := rt.strip req.source
    confidence := req.confidence
    ttlHours := ttlHours
    expiresAt := expiresAt
    malware := req.malware
    actor := req.actor
    campaign := req.campaign
    mitreTechniques := req.mitreTechniques.getD []
    tags := req.tags.getD []
    provenance := mergedProvenance r.provenance req
    active := true
    updatedAt := now }

def upsertIoc (req : IocRequest) : Service IndicatorOfCompromise := do
  let (indicatorType, value) := req.normalized rt
  if indicatorType ∉ iocTypes then
    raise (.blueTeamError "INVALID_IOC_TYPE" ("Unsupported type " ++ indicatorType) 422)
  else if value = "" ∨ rt.strip req.source = "" then
    raise (.blueTeamError "INVALID_IOC" "value and source required" 422)
  else if req.confidence.outsideUnit then
    raise (.blueTeamError "INVALID_CONFIDENCE" "confidence must be 0..1" 422)
  else do
    let ttlHours := max 1 (min req.ttlHours (24 * 365))
    let now ← draw (utcnow rt)
    let existing ← selectOne .indicators tenantId fun r =>
      r.indicatorType = indicatorType && r.value = value
    match existing with
    | some row => do
        let expiresAt ← compute (now.after ttlHours)
        update .indicators fun r =>
          if r.id = IndicatorOfCompromise.id row then req.refresh rt ttlHours expiresAt now r else r
        flush
        pure (req.refresh rt ttlHours expiresAt now row)
    | none => do
        let id ← draw (newId rt "ioc")
        let expiresAt ← compute (now.after ttlHours)
        let provenance := req.provenance.getD []
        let row : IndicatorOfCompromise :=
          { id := id
            tenantId := tenantId
            indicatorType := indicatorType
            value := value
            source := rt.strip req.source
            confidence := req.confidence
            ttlHours := ttlHours
            expiresAt := expiresAt
            malware := req.malware
            actor := req.actor
            campaign := req.campaign
            mitreTechniques := req.mitreTechniques.getD []
            tags := req.tags.getD []
            sightings := 0
            provenance := if provenance.isEmpty then
              [("first_seen_source", .str (rt.strip req.source))] else provenance
            active := true
            createdAt := now
            createdBy := req.actorId
            updatedAt := now }
        add (t := .indicators) row
        flush
        pure row

/-- The requests one after the other. -/
def upserts (w : World) (requests : List IocRequest) : World :=
  Machine.run (fun w req => (request (upsertIoc rt tenantId req) w).2) w requests

end

/-- How `str.strip` and `str.lower` fit together: a text without blanks around it stays as it is,
and lower-casing puts none there. -/
structure Trimming (rt : Runtime) : Prop where
  strip_strip : ∀ text, rt.strip (rt.strip text) = rt.strip text
  strip_lower : ∀ text, rt.strip (rt.lower (rt.strip text)) = rt.lower (rt.strip text)

/-- The tenant's indicators have values, with no blanks around them. -/
def Trimmed (rt : Runtime) (tenantId : String) (s : Session schema) : Prop :=
  ∀ r ∈ s.all .indicators, IndicatorOfCompromise.tenantId r = tenantId →
    IndicatorOfCompromise.value r ≠ "" ∧
      rt.strip (IndicatorOfCompromise.value r) = IndicatorOfCompromise.value r

section

variable {rt : Runtime} {tenantId : String}

theorem strip_normalized (htrim : Trimming rt) (req : IocRequest) :
    rt.strip (req.normalized rt).2 = (req.normalized rt).2 := by
  unfold IocRequest.normalized
  dsimp only
  split_ifs
  · exact htrim.strip_lower req.value
  · exact htrim.strip_strip req.value

theorem trimmed_flush : Keeps (Trimmed rt tenantId) (fun _ _ => True) flush := by
  refine keeps_flush ?_ fun _ _ _ _ => trivial
  intro s s' hs hflush r hr
  rw [Session.flush_all hflush] at hr
  exact hs r hr

/-- A change that keeps tenants and values. -/
theorem trimmed_update {f : IndicatorOfCompromise → IndicatorOfCompromise}
    (hf : ∀ r, (f r).tenantId = r.tenantId ∧ (f r).value = r.value) :
    Keeps (Trimmed rt tenantId) (fun _ _ => True) (update .indicators f) := by
  refine keeps_update ?_
  intro s hs r hr htenant
  simp only [Session.all, Session.update_stored_self (S := schema), List.mem_append,
    Session.update_pendingOf (S := schema)] at hr
  rcases hr with hr | hr
  · obtain ⟨r', hr', rfl⟩ := List.mem_map.mp hr
    obtain ⟨hten, hval⟩ := hf r'
    rw [hval]
    exact hs r' (List.mem_append_left _ hr') (hten.symm.trans htenant)
  · exact hs r (List.mem_append_right _ hr) htenant

/-- Storing an indicator keeps every value trimmed. -/
theorem upsertIoc_trimmed (htrim : Trimming rt) (req : IocRequest) :
    Keeps (Trimmed rt tenantId) (fun _ _ => True) (upsertIoc rt tenantId req) := by
  unfold upsertIoc
  dsimp only
  split
  · exact keeps_raise fun _ _ => trivial
  split
  · exact keeps_raise fun _ _ => trivial
  rename_i hvalue
  split
  · exact keeps_raise fun _ _ => trivial
  refine keeps_bind (keeps_draw fun _ _ _ => trivial) fun now => ?_
  refine keeps_bind (keeps_selectOne fun _ _ => trivial) fun existing => ?_
  cases existing with
  | some row =>
      refine keeps_bind (keeps_compute fun _ _ _ => trivial) fun expiresAt => ?_
      refine keeps_bind (trimmed_update ?_) fun _ =>
        keeps_bind trimmed_flush fun _ => keeps_pure _
      intro r
      split_ifs
      · exact ⟨rfl, rfl⟩
      · exact ⟨rfl, rfl⟩
  | none =>
      refine keeps_bind (keeps_draw fun _ _ _ => trivial) fun id => ?_
      refine keeps_bind (keeps_compute fun _ _ _ => trivial) fun expiresAt => ?_
      refine keeps_bind (keeps_add ?_) fun _ => keeps_bind trimmed_flush fun _ => keeps_pure _
      intro s hs r hr htenant
      rw [Session.add_all_self] at hr
      rcases List.mem_append.mp hr with hr | hr
      · exact hs r hr htenant
      · obtain rfl := List.mem_singleton.mp hr
        exact ⟨fun hnone => hvalue (.inl hnone), strip_normalized htrim req⟩

/-- After storing indicators, the values are trimmed and nothing waits to be written. -/
theorem upserts_trimmed (htrim : Trimming rt) {w : World} (hpending : w.session.pending = [])
    (hw : Trimmed rt tenantId w.session) (requests : List IocRequest) :
    (upserts rt tenantId w requests).session.pending = [] ∧
      Trimmed rt tenantId (upserts rt tenantId w requests).session := by
  refine Machine.run_inv (fun w : World => w.session.pending = [] ∧ Trimmed rt tenantId w.session)
    ?_ ⟨hpending, hw⟩ requests
  rintro w req ⟨hpending, hw⟩
  have hkeeps := request_keeps (F := fun _ => True) (upsertIoc_trimmed htrim req) trimmed_flush hw
  exact ⟨request_pending hpending, hkeeps.1⟩

end

/-! ### What one event does to the indicators -/

section

variable (rt : Runtime) (tenantId : String) (now : DateTime)

/-- The text is the indicator's value as recording compares them: without the blanks around it, and
lower-cased or not. -/
def Spells (candidate : String) (r : IndicatorOfCompromise) : Prop :=
  r.value = rt.strip candidate ∨ r.value = rt.lower (rt.strip candidate)

/-- `hitsOf`, row by row. -/
def hitBy (candidate : String) (r : IndicatorOfCompromise) : Bool :=
  (r.tenantId = tenantId &&
    ((r.value = rt.strip candidate || r.value = rt.lower (rt.strip candidate)) && r.active)) &&
  live now r

/-- A row after some candidates: sighted once for each that hits it. -/
def sightedBy (candidates : List String) (r : IndicatorOfCompromise) : IndicatorOfCompromise :=
  candidates.foldl (fun r c => if hitBy rt tenantId now c r then sightedRow now r else r) r

variable {rt tenantId now}

theorem hitsOf_eq (candidate : String) (rows : List IndicatorOfCompromise) :
    hitsOf rt tenantId now candidate rows = rows.filter (hitBy rt tenantId now candidate) := by
  unfold hitsOf
  rw [List.filter_filter]
  refine List.filter_congr fun r _ => ?_
  rw [Bool.and_comm]
  rfl

theorem hitBy_iff {candidate : String} {r : IndicatorOfCompromise} :
    hitBy rt tenantId now candidate r = true ↔ r.tenantId = tenantId ∧ Spells rt candidate r ∧
      r.active = true ∧ live now r = true := by
  simp only [hitBy, Spells, Bool.and_eq_true, Bool.or_eq_true, decide_eq_true_eq]
  tauto

/-- Being sighted changes nothing that a candidate is compared with. -/
@[simp] theorem hitBy_sightedRow (candidate : String) (r : IndicatorOfCompromise) :
    hitBy rt tenantId now candidate (sightedRow now r) = hitBy rt tenantId now candidate r := rfl

theorem sightedBy_cons (c : String) (candidates : List String) (r : IndicatorOfCompromise) :
    sightedBy rt tenantId now (c :: candidates) r = sightedBy rt tenantId now candidates
      (if hitBy rt tenantId now c r then sightedRow now r else r) := rfl

theorem sightedBy_counts (candidates : List String) (r : IndicatorOfCompromise) :
    (sightedBy rt tenantId now candidates r).id = r.id ∧
      (sightedBy rt tenantId now candidates r).sightings =
        r.sightings + candidates.countP fun c => hitBy rt tenantId now c r := by
  induction candidates generalizing r with
  | nil => exact ⟨rfl, by simp [sightedBy]⟩
  | cons c candidates ih =>
      rw [sightedBy_cons]
      obtain ⟨hid, hsightings⟩ := ih (if hitBy rt tenantId now c r then sightedRow now r else r)
      rw [hid, hsightings]
      by_cases hit : hitBy rt tenantId now c r = true
      · simp only [hit, if_true, hitBy_sightedRow, sightedRow_sightings, List.countP_cons_of_pos]
        exact ⟨rfl, by push_cast; omega⟩
      · simp [hit]

/-- A candidate hits the same rows before and after another one. -/
theorem hit_ids_sighted (c candidate : String) (rows : List IndicatorOfCompromise) :
    ((rows.map fun r => if hitBy rt tenantId now c r then sightedRow now r else r).filter
        (hitBy rt tenantId now candidate)).map (·.id) =
      (rows.filter (hitBy rt tenantId now candidate)).map (·.id) := by
  rw [List.filter_map, List.map_map]
  have hhits : ∀ r ∈ rows, (hitBy rt tenantId now candidate ∘ fun r =>
      if hitBy rt tenantId now c r then sightedRow now r else r) r =
        hitBy rt tenantId now candidate r := by
    intro r _
    by_cases hit : hitBy rt tenantId now c r = true <;> simp [hit]
  rw [List.filter_congr hhits]
  refine List.map_congr_left fun r _ => ?_
  by_cases hit : hitBy rt tenantId now c r = true
  · simp only [Function.comp_apply, hit, if_true]
    rfl
  · simp [hit]

/-- The candidates one by one: each returns the rows it hits, and counts them. -/
theorem sightLoop_stored (hnow : now.offset = some 0) (candidates matched : List String)
    (w : World) : ∃ s', loop (sight rt tenantId now) matched candidates w =
      (.ok (matched ++ candidates.flatMap fun c =>
        (((w.session.stored .indicators).filter (hitBy rt tenantId now c)).map (·.id))),
          { w with session := s' }) ∧
      s'.pending = w.session.pending ∧
      s'.stored .indicators = (w.session.stored .indicators).map (sightedBy rt tenantId now candidates) := by
  induction candidates generalizing matched w with
  | nil => exact ⟨w.session, by simp [loop], rfl, (List.map_id _).symm⟩
  | cons c candidates ih =>
      have hfirst := sight_eq rt tenantId hnow matched c w
      rw [hitsOf_eq] at hfirst
      obtain ⟨s', hrun, hpending, hstored⟩ := ih (matched ++
        ((w.session.stored .indicators).filter (hitBy rt tenantId now c)).map (·.id))
        (sight rt tenantId now matched c w).2
      rw [hfirst] at hrun hpending hstored
      have hrows : (w.session.update .indicators fun r =>
          if r ∈ (w.session.stored .indicators).filter (hitBy rt tenantId now c) then
            sightedRow now r else r).stored .indicators =
          (w.session.stored .indicators).map fun r =>
            if hitBy rt tenantId now c r then sightedRow now r else r := by
        rw [Session.update_stored_self (S := schema)]
        refine List.map_congr_left fun r hr => ?_
        simp [hr]
      refine ⟨s', ?_, hpending, ?_⟩
      · show andThen _ (sight rt tenantId now matched c w) = _
        rw [hfirst]
        simp only [andThen]
        rw [hrun]
        simp only [hrows, hit_ids_sighted, List.flatMap_cons, List.append_assoc]
      · rw [hstored, hrows, List.map_map]
        rfl

/-- Recording the sightings of an event, when nothing else waits to be written: the ids of the
rows that its values hit, and these rows counted. -/
theorem recordSightings_stored (hclock : rt.AwareClock) (event : CanonicalEvent) {w : World}
    (hpending : w.session.pending = []) : ∃ s', recordSightings rt tenantId event w =
      (.ok ((sightingCandidates event).flatMap fun c =>
        ((w.session.stored .indicators).filter (hitBy rt tenantId (w.now rt) c)).map (·.id)),
          { w.tick with session := s' }) ∧
      s'.stored .indicators = (w.session.stored .indicators).map
        (sightedBy rt tenantId (w.now rt) (sightingCandidates event)) := by
  obtain ⟨s', hrun, hnone, hstored⟩ := @sightLoop_stored rt tenantId _ (hclock w.ticks.readings)
    (sightingCandidates event) [] w.tick
  refine ⟨s', ?_, hstored⟩
  unfold recordSightings
  rw [bind_run, draw_utcnow_run]
  simp only [andThen, bind_run]
  rw [show w.now rt = rt.now w.ticks.readings from rfl, hrun]
  simp only [List.nil_append]
  split_ifs
  · rfl
  · rw [bind_run, flush_run_of_pending_nil (hnone.trans hpending)]
    rfl

end

/-! ### Where sightings and enrichment agree -/

/-- The values of an event that enrichment looks up. -/
def lookedUp (event : CanonicalEvent) : List String :=
  [event.srcIp, event.dstIp, event.domain, event.hash].filterMap fun c =>
    if given c then c else none

/-- The steps of `enrich_event`, before it writes down which were applied. -/
def enrichSteps (rt : Runtime) (intel : List (String × TextMap)) (event : CanonicalEvent) :
    Enriching :=
  enrichIntel intel (enrichIdentity (enrichAsset (enrichGeo rt { event := event })))

/-- What the steps before the last leave to it: the values it looks up, and no mention of it. -/
structure Unlooked (event : CanonicalEvent) (e : Enriching) : Prop where
  same : lookedUp e.event = lookedUp event
  unmarked : "intel" ∉ e.applied

theorem enrichGeo_unlooked (rt : Runtime) {event : CanonicalEvent} {e : Enriching}
    (h : Unlooked event e) : Unlooked event (enrichGeo rt e) := by
  unfold enrichGeo
  dsimp only
  split_ifs
  · exact h
  · exact ⟨h.same, by simpa using h.unmarked⟩
  · exact ⟨h.same, by simpa using h.unmarked⟩

theorem enrichAsset_unlooked {event : CanonicalEvent} {e : Enriching} (h : Unlooked event e) :
    Unlooked event (enrichAsset e) := by
  unfold enrichAsset
  dsimp only
  split
  · exact h
  · refine ⟨?_, by simpa using h.unmarked⟩
    split_ifs
    · exact h.same
    · exact h.same

theorem enrichIdentity_unlooked {event : CanonicalEvent} {e : Enriching} (h : Unlooked event e) :
    Unlooked event (enrichIdentity e) := by
  unfold enrichIdentity
  split
  · exact h
  · split
    · exact h
    · exact ⟨h.same, by simpa using h.unmarked⟩

/-- An intel match is attached if one of the values looked up is in the map. -/
theorem attached_iff (rt : Runtime) (intel : List (String × TextMap)) (event : CanonicalEvent) :
    "intel" ∈ (enrichSteps rt intel event).applied ↔
      ∃ c ∈ lookedUp event, (intel.lookup c).isSome := by
  have h := enrichIdentity_unlooked (enrichAsset_unlooked (enrichGeo_unlooked rt
    (e := { event := event }) ⟨rfl, by simp⟩))
  unfold enrichSteps
  obtain ⟨hsame, hunmarked⟩ := h
  generalize enrichIdentity (enrichAsset (enrichGeo rt { event := event })) = e at hsame hunmarked
  rw [← hsame]
  have hfound : (∃ c ∈ lookedUp e.event, (intel.lookup c).isSome) ↔
      ([e.event.srcIp, e.event.dstIp, e.event.domain, e.event.hash].findSome? fun i =>
        if given i then (intel.lookup (i.getD "")).map fun entry => (i.getD "", entry)
        else none).isSome := by
    rw [List.findSome?_isSome_iff]
    unfold lookedUp
    simp only [List.mem_filterMap]
    constructor
    · rintro ⟨c, ⟨i, hi, hc⟩, hsome⟩
      have hgiven : given i = true := by
        by_contra hnot
        simp [hnot] at hc
      obtain rfl : i = some c := by simpa [hgiven] using hc
      exact ⟨some c, hi, by simpa [hgiven] using hsome⟩
    · rintro ⟨i, hi, hsome⟩
      have hgiven : given i = true := by
        by_contra hnot
        simp [hnot] at hsome
      cases i with
      | none => exact absurd hgiven (by decide)
      | some c => exact ⟨c, ⟨some c, hi, by simp [hgiven]⟩, by simpa [hgiven] using hsome⟩
  rw [hfound]
  unfold enrichIntel
  dsimp only
  split
  · rename_i hnone
    rw [hnone]
    simpa using hunmarked
  · rename_i hit
    rw [hit]
    simp

section

variable (rt : Runtime) (tenantId : String) (event : CanonicalEvent) (w : World)

/-- Reading the map of indicators and then recording the sightings of an event: an indicator is
matched through one of the values that enrichment looks up just in case enrichment attaches a
match, and no indicator is counted twice. -/
def SightingsAgree : Prop :=
  ∃ intel w₁ ids w₂, activeIntelMap rt tenantId w = (.ok intel, w₁) ∧
    recordSightings rt tenantId event w₁ = (.ok ids, w₂) ∧
    ((∃ r ∈ w.iocs tenantId (w.now rt), r.id ∈ ids ∧ ∃ c ∈ lookedUp event, Spells rt c r) ↔
      "intel" ∈ (enrichSteps rt intel event).applied) ∧
    List.Forall₂ (fun r r' : IndicatorOfCompromise => r'.id = r.id ∧ r'.sightings ≤ r.sightings + 1)
      (w₁.session.stored .indicators) (w₂.session.stored .indicators)

/-- Where a value that is looked up spells an indicator in force, one is such an indicator's value
as it stands. -/
def SpeltOut : Prop :=
  (∃ r ∈ w.iocs tenantId (w.now rt), ∃ c ∈ lookedUp event, Spells rt c r) →
    ∃ r ∈ w.iocs tenantId (w.now rt), r.value ∈ lookedUp event

/-- No indicator in force is spelt by two values of the event. -/
def SpeltOnce : Prop :=
  ∀ r ∈ w.iocs tenantId (w.now rt), ∀ c ∈ sightingCandidates event,
    ∀ c' ∈ sightingCandidates event, Spells rt c r → Spells rt c' r → c = c'

variable {rt tenantId event w}

theorem World.mem_iocs {now : DateTime} {r : IndicatorOfCompromise} :
    r ∈ w.iocs tenantId now ↔ r ∈ w.session.stored .indicators ∧ r.tenantId = tenantId ∧
      r.active = true ∧ live now r = true := by
  unfold World.iocs
  rw [List.mem_filter, List.mem_filter, (List.perm_insertionSort _ _).mem_iff, World.mem_rowsOf,
    and_assoc, and_assoc]
  rfl

theorem mem_sightingCandidates {c : String} (h : c ∈ lookedUp event) :
    c ∈ sightingCandidates event := by
  unfold lookedUp at h
  unfold sightingCandidates
  obtain ⟨i, hi, hc⟩ := List.mem_filterMap.mp h
  refine List.mem_filterMap.mpr ⟨i, mem_toSet.mpr ?_, hc⟩
  simp only [List.mem_cons, List.not_mem_nil, or_false] at hi ⊢
  tauto

theorem nodup_sightingCandidates (event : CanonicalEvent) : (sightingCandidates event).Nodup := by
  unfold sightingCandidates
  refine (nodup_toSet _).filterMap ?_
  intro a a' c ha ha'
  split_ifs at ha ha'
  · exact (Option.mem_def.mp ha).trans (Option.mem_def.mp ha').symm
  · cases ha'
  · cases ha
  · cases ha

/-- At most one of some different things has a property if any two that have it are the same. -/
theorem countP_le_one_iff {α : Type} [DecidableEq α] {as : List α} (h : as.Nodup) (p : α → Bool) :
    as.countP p ≤ 1 ↔ ∀ a ∈ as, ∀ b ∈ as, p a = true → p b = true → a = b := by
  rw [List.countP_eq_length_filter, ← List.toFinset_card_of_nodup (h.filter p), Finset.card_le_one]
  simp only [List.mem_toFinset, List.mem_filter]
  constructor
  · intro hsame a ha b hb hpa hpb
    exact hsame a ⟨ha, hpa⟩ b ⟨hb, hpb⟩
  · rintro hsame a ⟨ha, hpa⟩ b ⟨hb, hpb⟩
    exact hsame a ha b hb hpa hpb

/-- Reading the map: the values of the indicators in force, with the state of one clock reading. -/
theorem attached_activeIntelMap (hclock : rt.AwareClock) : ∃ intel,
    activeIntelMap rt tenantId w = (.ok intel, w.tick) ∧
      ("intel" ∈ (enrichSteps rt intel event).applied ↔
        ∃ r ∈ w.iocs tenantId (w.now rt), r.value ∈ lookedUp event) := by
  refine ⟨_, activeIntelMap_run hclock tenantId w, ?_⟩
  rw [attached_iff]
  have hkeys : ∀ c, ((overlay [] ((w.iocs tenantId (w.now rt)).map (intelEntry rt))).lookup c).isSome ↔
      ∃ r ∈ w.iocs tenantId (w.now rt), r.value = c := by
    intro c
    rw [lookup_isSome, keys_overlay, List.map_map]
    simp [intelEntry]
  simp only [hkeys]
  constructor
  · rintro ⟨c, hc, r, hr, rfl⟩
    exact ⟨r, hr, hc⟩
  · rintro ⟨r, hr, hc⟩
    exact ⟨r.value, hc, r, hr, rfl⟩

/-- A text hits a stored row if the row is an indicator in force that it spells. -/
theorem hitBy_stored_iff (hsteady : ∀ r ∈ w.rowsOf .indicators tenantId,
      live (w.tick.now rt) r = live (w.now rt) r) (c : String) {r : IndicatorOfCompromise}
    (hr : r ∈ w.session.stored .indicators) : hitBy rt tenantId (w.tick.now rt) c r = true ↔
      r ∈ w.iocs tenantId (w.now rt) ∧ Spells rt c r := by
  rw [hitBy_iff, World.mem_iocs]
  constructor
  · rintro ⟨htenant, hspells, hactive, hlive⟩
    rw [hsteady r (World.mem_rowsOf.mpr ⟨hr, htenant⟩)] at hlive
    exact ⟨⟨hr, htenant, hactive, hlive⟩, hspells⟩
  · rintro ⟨⟨-, htenant, hactive, hlive⟩, hspells⟩
    rw [← hsteady r (World.mem_rowsOf.mpr ⟨hr, htenant⟩)] at hlive
    exact ⟨htenant, hspells, hactive, hlive⟩

/-- No row is counted twice if no indicator in force is spelt twice. -/
theorem sightedBy_once_iff (hsteady : ∀ r ∈ w.rowsOf .indicators tenantId,
      live (w.tick.now rt) r = live (w.now rt) r) :
    List.Forall₂ (fun r r' : IndicatorOfCompromise => r'.id = r.id ∧ r'.sightings ≤ r.sightings + 1)
      (w.session.stored .indicators) ((w.session.stored .indicators).map
        (sightedBy rt tenantId (w.tick.now rt) (sightingCandidates event))) ↔
      SpeltOnce rt tenantId event w := by
  rw [List.forall₂_map_right_iff, List.forall₂_same]
  have hcount : ∀ r : IndicatorOfCompromise, (sightedBy rt tenantId (w.tick.now rt)
      (sightingCandidates event) r).id = r.id ∧ (sightedBy rt tenantId (w.tick.now rt)
        (sightingCandidates event) r).sightings ≤ r.sightings + 1 ↔
      ∀ c ∈ sightingCandidates event, ∀ c' ∈ sightingCandidates event,
        hitBy rt tenantId (w.tick.now rt) c r = true →
          hitBy rt tenantId (w.tick.now rt) c' r = true → c = c' := by
    intro r
    have hcounts := @sightedBy_counts rt tenantId (w.tick.now rt) (sightingCandidates event) r
    rw [hcounts.1, hcounts.2, ← countP_le_one_iff (nodup_sightingCandidates event) fun c =>
      hitBy rt tenantId (w.tick.now rt) c r]
    simp only [true_and]
    omega
  constructor
  · intro h r hr c hc c' hc' hspells hspells'
    have hmem := (World.mem_iocs.mp hr).1
    exact (hcount r).mp (h r hmem) c hc c' hc'
      ((hitBy_stored_iff hsteady c hmem).mpr ⟨hr, hspells⟩)
      ((hitBy_stored_iff hsteady c' hmem).mpr ⟨hr, hspells'⟩)
  · intro h r hmem
    refine (hcount r).mpr fun c hc c' hc' hhit hhit' => ?_
    obtain ⟨hr, hspells⟩ := (hitBy_stored_iff hsteady c hmem).mp hhit
    exact h r hr c hc c' hc' hspells ((hitBy_stored_iff hsteady c' hmem).mp hhit').2

/-- On trimmed indicators, where none expires between the two readings of the clock. -/
theorem sightingsAgree_iff (hclock : rt.AwareClock) (hpending : w.session.pending = [])
    (htrimmed : Trimmed rt tenantId w.session)
    (hsteady : ∀ r ∈ w.rowsOf .indicators tenantId, live (w.tick.now rt) r = live (w.now rt) r) :
    SightingsAgree rt tenantId event w ↔
      SpeltOut rt tenantId event w ∧ SpeltOnce rt tenantId event w := by
  obtain ⟨intel, hmap, hattached⟩ := @attached_activeIntelMap rt tenantId event w hclock
  obtain ⟨s', hrecord, hstored⟩ := @recordSightings_stored rt tenantId hclock event w.tick hpending
  have hids : ∀ r ∈ w.iocs tenantId (w.now rt), ∀ c ∈ lookedUp event, Spells rt c r →
      r.id ∈ (sightingCandidates event).flatMap fun c => ((w.tick.session.stored .indicators).filter
        (hitBy rt tenantId (w.tick.now rt) c)).map (·.id) := by
    intro r hr c hc hspells
    have hmem := (World.mem_iocs.mp hr).1
    refine List.mem_flatMap.mpr ⟨c, mem_sightingCandidates hc, List.mem_map.mpr ⟨r, ?_, rfl⟩⟩
    exact List.mem_filter.mpr ⟨hmem, (hitBy_stored_iff hsteady c hmem).mpr ⟨hr, hspells⟩⟩
  -- a value that stands in the event as it is stored is spelt by that text
  have hverbatim : (∃ r ∈ w.iocs tenantId (w.now rt), r.value ∈ lookedUp event) →
      ∃ r ∈ w.iocs tenantId (w.now rt), ∃ c ∈ lookedUp event, Spells rt c r := by
    rintro ⟨r, hr, hc⟩
    obtain ⟨hmem, htenant, -, -⟩ := World.mem_iocs.mp hr
    exact ⟨r, hr, r.value, hc,
      .inl (htrimmed r (List.mem_append_left _ hmem) htenant).2.symm⟩
  constructor
  · rintro ⟨intel', w₁, ids, w₂, hmap', hrecord', hagree, honce⟩
    rw [hmap] at hmap'
    cases hmap'
    rw [hrecord] at hrecord'
    cases hrecord'
    rw [hattached] at hagree
    refine ⟨?_, ?_⟩
    · rintro ⟨r, hr, c, hc, hspells⟩
      exact hagree.mp ⟨r, hr, hids r hr c hc hspells, c, hc, hspells⟩
    · rw [hstored] at honce
      exact (sightedBy_once_iff hsteady).mp honce
  · rintro ⟨hout, honce⟩
    refine ⟨intel, w.tick, _, _, hmap, hrecord, ?_, ?_⟩
    · rw [hattached]
      constructor
      · rintro ⟨r, hr, -, c, hc, hspells⟩
        exact hout ⟨r, hr, c, hc, hspells⟩
      · intro h
        obtain ⟨r, hr, c, hc, hspells⟩ := hverbatim h
        exact ⟨r, hr, hids r hr c hc hspells, c, hc, hspells⟩
    · rw [hstored]
      exact (sightedBy_once_iff hsteady).mpr honce

/-- Sightings and enrichment agree on an event, over the indicators that were stored one by one
for a tenant without any, just in case the event's values that spell an indicator spell one out and
no two of them spell the same. -/
theorem sightings_agree_iff (hclock : rt.AwareClock) (htrim : Trimming rt)
    (hpending : w.session.pending = []) (hnone : w.rowsOf .indicators tenantId = [])
    (requests : List IocRequest)
    (hsteady : ∀ r ∈ (upserts rt tenantId w requests).rowsOf .indicators tenantId,
      live ((upserts rt tenantId w requests).tick.now rt) r =
        live ((upserts rt tenantId w requests).now rt) r) :
    SightingsAgree rt tenantId event (upserts rt tenantId w requests) ↔
      SpeltOut rt tenantId event (upserts rt tenantId w requests) ∧
        SpeltOnce rt tenantId event (upserts rt tenantId w requests) := by
  have hw : Trimmed rt tenantId w.session := by
    intro r hr htenant
    rw [Session.all, Session.pendingOf, hpending, List.filterMap_nil, List.append_nil] at hr
    have hmem : r ∈ w.rowsOf .indicators tenantId := World.mem_rowsOf.mpr ⟨hr, htenant⟩
    rw [hnone] at hmem
    cases hmem
  obtain ⟨hpending', htrimmed⟩ := upserts_trimmed htrim hpending hw requests
  exact sightingsAgree_iff hclock hpending' htrimmed hsteady

end

/-! ### Samples -/

def evilDomain : IocRequest :=
  { indicatorType := "domain", value := "evil.example", source := "feed"
    confidence := .finite 1, ttlHours := 24, actorId := "usr_1" }

/-- The watched domain, looked up under a spelling of it. -/
def lookupOf (domain : String) : CanonicalEvent where
  id := "evt_1"
  tenantId := "ten_a"
  timestamp := ⟨63839761325000000, some 0⟩
  ingestedAt := ⟨63839761325000000, some 0⟩
  source := "zeek"
  sourceType := "zeek"
  eventType := "dns"
  category := "network"
  domain := some domain

/-- The tenant watches one domain. -/
def watchingWorld : World :=
  upserts sampleRuntime "ten_a" emptyWorld [evilDomain]

theorem trimming_sampleRuntime : Trimming sampleRuntime :=
  ⟨fun _ => rfl, fun _ => rfl⟩

set_option maxRecDepth 4000 in
theorem watchingWorld_values :
    (watchingWorld.iocs "ten_a" (watchingWorld.now sampleRuntime)).map (·.value) =
      ["evil.example"] := by
  decide

set_option maxRecDepth 4000 in
theorem watchingWorld_steady : ∀ r ∈ watchingWorld.rowsOf .indicators "ten_a",
    live (watchingWorld.tick.now sampleRuntime) r = true ∧
      live (watchingWorld.now sampleRuntime) r = true := by
  decide

theorem mem_watchingWorld {r : IndicatorOfCompromise}
    (hr : r ∈ watchingWorld.iocs "ten_a" (watchingWorld.now sampleRuntime)) :
    r.value = "evil.example" := by
  have hmem := List.mem_map_of_mem (f := IndicatorOfCompromise.value) hr
  rw [watchingWorld_values] at hmem
  exact List.mem_singleton.mp hmem

theorem exists_watchingWorld : ∃ r ∈ watchingWorld.iocs "ten_a" (watchingWorld.now sampleRuntime),
    r.value = "evil.example" := by
  have hmem : "evil.example" ∈
      (watchingWorld.iocs "ten_a" (watchingWorld.now sampleRuntime)).map (·.value) := by
    rw [watchingWorld_values]
    simp
  exact List.mem_map.mp hmem

theorem sightings_agree_evil :
    SightingsAgree sampleRuntime "ten_a" (lookupOf "evil.example")
      (upserts sampleRuntime "ten_a" emptyWorld [evilDomain]) := by
  refine (sightings_agree_iff (fun _ => rfl) trimming_sampleRuntime rfl rfl [evilDomain]
    fun r hr => ?_).mpr ⟨fun _ => ?_, ?_⟩
  · obtain ⟨hlive, hlive'⟩ := watchingWorld_steady r hr
    exact hlive.trans hlive'.symm
  · obtain ⟨r, hr, hvalue⟩ := exists_watchingWorld
    exact ⟨r, hr, by rw [hvalue]; decide⟩
  · have hone : sightingCandidates (lookupOf "evil.example") = ["evil.example"] := by decide
    intro r _ c hc c' hc' _ _
    rw [hone, List.mem_singleton] at hc hc'
    rw [hc, hc']

/-- The watched domain in capitals: it is sighted, and no match is attached. -/
theorem sightings_disagree :
    ¬ ∀ (rt : Runtime), rt.AwareClock → Trimming rt → ∀ (tenantId : String) (w : World),
      w.session.pending = [] → w.rowsOf .indicators tenantId = [] →
        ∀ requests : List IocRequest,
          (∀ req ∈ requests, (req.normalized rt).1 ∈ ["ip", "domain", "hash"]) →
            let stored := upserts rt tenantId w requests
            (∀ r ∈ stored.rowsOf .indicators tenantId,
              live (stored.tick.now rt) r = true ∧ live (stored.now rt) r = true) →
              ∀ event, SightingsAgree rt tenantId event stored := by
  intro h
  have hagree := h sampleRuntime (fun _ => rfl) trimming_sampleRuntime "ten_a" emptyWorld rfl rfl
    [evilDomain] (by decide) watchingWorld_steady (lookupOf "EVIL.example")
  have hempty : Trimmed sampleRuntime "ten_a" emptyWorld.session := by
    intro r hr
    cases hr
  obtain ⟨hpending, htrimmed⟩ := upserts_trimmed trimming_sampleRuntime rfl hempty [evilDomain]
  obtain ⟨hout, -⟩ := (sightingsAgree_iff (fun _ => rfl) hpending htrimmed fun r hr =>
    (watchingWorld_steady r hr).1.trans (watchingWorld_steady r hr).2.symm).mp hagree
  obtain ⟨r, hr, hvalue⟩ := exists_watchingWorld
  have hspells : Spells sampleRuntime "EVIL.example" r := .inr (hvalue.trans (by decide))
  obtain ⟨r', hr', hstands⟩ := hout ⟨r, hr, "EVIL.example", by decide, hspells⟩
  rw [mem_watchingWorld hr'] at hstands
  exact absurd hstands (by decide)

end BlueTeam.Services
