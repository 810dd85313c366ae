/- GID: BlueTeam/Services/Evidence
   generality: I
   source: services/api/app/services/evidence.py
   digest: Evidence: its chain of custody, and its verification against the source event. -/

import BlueTeam.Services.Detection
import BlueTeam.Services.Rules

set_option autoImplicit false
set_option relaxedAutoImplicit false

namespace BlueTeam.Services

open BlueTeam.Python BlueTeam.Schema BlueTeam.Lib BlueTeam.Lib.Exec

structure Verification where
  id : String
  intact : Bool
  reason : Option String := none
  integrityHash : Option String := none
  deriving DecidableEq, Repr

/-- The id in the source of an event's evidence: `source.split(":", 1)[1]`. -/
def eventOf (source : String) : Option String :=
  if "event:".toList.isPrefixOf source.toList then some (String.ofList (source.toList.drop 6))
  else none

/-- The check of a row against its source event. -/
def checkSource (tenantId eventId : String) (row : Evidence) : Service Verification := do
  let event ← selectOne .events tenantId fun r => r.id = eventId
  if event.map (·.rawHash) = some row.integrityHash then
    pure { id := row.id, intact := true, integrityHash := some row.integrityHash }
  else pure { id := row.id, intact := false, reason := some "hash mismatch or missing source" }

def verifyEvidence (tenantId evidenceId : String) : Service Verification := do
  match ← selectOne .evidence tenantId fun r => r.id = evidenceId with
  | none => Exec.raise (.blueTeamError "NOT_FOUND" "Evidence not found" 404)
  | some row =>
      match eventOf row.source with
      | none => pure { id := row.id, intact := true, integrityHash := some row.integrityHash }
      | some eventId => checkSource tenantId eventId row

/-- `list(value)` -/
def listOf : Json → Except Exn (List Json)
  | .arr items => .ok items
  | .str text => .ok (text.toList.map fun c => .str (String.singleton c))
  | .obj fields => .ok (fields.map fun field => .str field.1)
  | _ => .error .typeError

/-- `append_custody`; it returns the event that it appends. -/
def appendCustody (rt : Runtime) (tenantId evidenceId actorId action : String)
    (notes : Option String) : Service Json := do
  match ← selectOne .evidence tenantId fun r => r.id = evidenceId with
  | none => Exec.raise (.blueTeamError "NOT_FOUND" "Evidence not found" 404)
  | some row => do
      let chain ← compute
        (listOf (Json.orElse (Json.get row.payload "chain_of_custody") (.arr [])))
      let id ← draw (newId rt "coc")
      let at_ ← draw (utcnow rt)
      let event : Json := .obj [("id", .str id), ("action", .str action),
        ("actor_id", .str actorId), ("timestamp", .str at_.isoformat),
        ("notes", Json.ofOption notes)]
      update .evidence fun r =>
        if r = row then
          { r with payload := Json.setKey r.payload "chain_of_custody" (.arr (chain ++ [event])) }
        else r
      flush
      pure event

/-- What an `IncidentClaim` says of its evidence. -/
structure IncidentClaim where
  supportingEvidenceIds : List String
  contradictingEvidenceIds : List String := []
  deriving DecidableEq, Repr

def IncidentClaim.validateEvidenceRefs (rt : Runtime) (claim : IncidentClaim)
    (known : List String) : Except Exn Unit := do
  let unknown (ids : List String) : List String := ids.filter fun id => id ∉ known
  let listed (ids : List String) : String := rt.repr (.arr (ids.map .str))
  let missing := unknown claim.supportingEvidenceIds
  if missing ≠ [] then
    throw (.valueError ("unsupported evidence references: " ++ listed missing))
  let missing := unknown claim.contradictingEvidenceIds
  if missing ≠ [] then
    throw (.valueError ("unsupported contradicting evidence references: " ++ listed missing))

def validateClaim (rt : Runtime) (tenantId : String) (claim : IncidentClaim) : Service Unit := do
  let rows ← select .evidence tenantId fun _ => true
  match claim.validateEvidenceRefs rt (rows.map (·.id)) with
  | .error e => Exec.raise (.blueTeamError "INVALID_EVIDENCE_REF" (e.text rt) 422)
  | .ok _ => pure ()

/-- `verify_evidence` reports the evidence intact. -/
def Intact (tenantId evidenceId : String) (w : World) : Prop :=
  ∃ v, (verifyEvidence tenantId evidenceId w).1 = .ok v ∧ v.intact = true

/-- The rows of the tenant under an id; by the key of the table there is at most one. -/
def World.under (w : World) (t : Table) (tenantId id : String) : List t.Row :=
  (w.session.stored t).filter fun r => Table.tenantId r = tenantId && Table.id r = id

@[simp] theorem eventOf_sourceOf (eventId : String) : eventOf (sourceOf eventId) = some eventId := by
  have hlist : (sourceOf eventId).toList = "event:".toList ++ eventId.toList := by
    simp [sourceOf]
  unfold eventOf
  rw [hlist, if_pos (List.isPrefixOf_iff_prefix.mpr (List.prefix_append _ _)),
    List.drop_left' (by decide), String.ofList_toList]

section

variable {tenantId : String} {w : World}

theorem World.mem_under {t : Table} {id : String} {r : t.Row} :
    r ∈ w.under t tenantId id ↔ r ∈ w.rowsOf t tenantId ∧ Table.id r = id := by
  unfold World.under
  rw [List.mem_filter, World.mem_rowsOf, Bool.and_eq_true, decide_eq_true_eq, decide_eq_true_eq,
    and_assoc]

/-- Under its own id there is no other row than the row itself. -/
theorem World.under_self {t : Table} (hkeyed : schema.Keyed (w.session.stored t)) {r : t.Row}
    (hr : r ∈ w.rowsOf t tenantId) : w.under t tenantId (Table.id r) = [r] := by
  obtain ⟨hmem, hown⟩ := World.mem_rowsOf.mp hr
  apply Schema.filter_eq_singleton hkeyed hmem
  · rw [Bool.and_eq_true, decide_eq_true_eq, decide_eq_true_eq]
    exact ⟨hown, rfl⟩
  · intro r' _ hsame
    rw [Bool.and_eq_true, decide_eq_true_eq, decide_eq_true_eq] at hsame
    exact ⟨fun hne => hne.1 hsame.2, fun hne => hne.1 hsame.2.symm⟩

theorem checkSource_intact (eventId : String) (row : Evidence) :
    (∃ v, (checkSource tenantId eventId row w).1 = .ok v ∧ v.intact = true) ↔
      ∃ event : SecurityEvent, w.under .events tenantId eventId = [event] ∧
        event.rawHash = row.integrityHash := by
  have hrun : selectOne .events tenantId (fun r => r.id = eventId) w =
      (scalarOneOrNone (w.under .events tenantId eventId), w) := rfl
  unfold checkSource
  rw [bind_run, hrun]
  rcases hevents : w.under .events tenantId eventId with _ | ⟨event, _ | ⟨other, rest⟩⟩
  · simp [scalarOneOrNone, andThen]
  · by_cases hhash : event.rawHash = row.integrityHash
    · simp [scalarOneOrNone, andThen, hhash]
    · simp [scalarOneOrNone, andThen, hhash]
  · simp [scalarOneOrNone, andThen]

/-- Evidence whose row is there is intact if it has no source event, or one with its hash. -/
theorem intact_iff_of_found {evidenceId : String} {row : Evidence}
    (h : w.under .evidence tenantId evidenceId = [row]) :
    Intact tenantId evidenceId w ↔ ∀ eventId, eventOf row.source = some eventId →
      ∃ event : SecurityEvent, w.under .events tenantId eventId = [event] ∧
        event.rawHash = row.integrityHash := by
  have hrun : selectOne .evidence tenantId (fun r => r.id = evidenceId) w =
      (.ok (some row), w) := by
    show (scalarOneOrNone (w.under .evidence tenantId evidenceId), w) = _
    rw [h]
    rfl
  unfold Intact verifyEvidence
  rw [bind_run, hrun]
  cases hsource : eventOf row.source with
  | none => simp [andThen, hsource]
  | some eventId =>
      simp only [andThen, hsource, Option.some.injEq, forall_eq']
      exact checkSource_intact eventId row

/-- Only evidence that is there is intact. -/
theorem Intact.found {evidenceId : String} (h : Intact tenantId evidenceId w) :
    ∃ row : Evidence, w.under .evidence tenantId evidenceId = [row] := by
  obtain ⟨v, hrun, -⟩ := h
  have hlookup : selectOne .evidence tenantId (fun r => r.id = evidenceId) w =
      (scalarOneOrNone (w.under .evidence tenantId evidenceId), w) := rfl
  unfold verifyEvidence at hrun
  rw [bind_run, hlookup] at hrun
  rcases hrows : w.under .evidence tenantId evidenceId with _ | ⟨row, _ | ⟨other, rest⟩⟩
  · rw [hrows] at hrun
    cases hrun
  · exact ⟨row, rfl⟩
  · rw [hrows] at hrun
    cases hrun

end

end BlueTeam.Services
