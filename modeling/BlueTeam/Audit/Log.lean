/- GID: BlueTeam/Audit/Log
   generality: I
   source: services/api/app/services/audit.py
   digest: The hash-chained audit log: its rows, how they are made, and their verification. -/

import BlueTeam.Hashing
import BlueTeam.Lib.HashChain
import Mathlib.Data.Int.Order.Basic

set_option autoImplicit false
set_option relaxedAutoImplicit false

namespace BlueTeam.Audit

open BlueTeam.Lib.HashChain

/-- The keyword arguments of `write_audit`. -/
structure AuditEntry where
  tenantId : Option String
  actorType : String
  actorId : String
  requestId : String
  action : String
  targetType : String
  targetId : Option String := none
  reason : Option String := none
  policyDecision : Option String := none
  approvalStatus : Option String := none
  beforeState : Option JsonObject := none
  afterState : Option JsonObject := none
  result : String := "success"

/-- A row of `audit_logs`. -/
structure AuditLog where
  id : String
  sequence : Int
  tenantId : Option String
  actorType : String
  actorId : String
  requestId : String
  action : String
  targetType : String
  targetId : Option String
  reason : Option String
  policyDecision : Option String
  approvalStatus : Option String
  beforeState : Option JsonObject
  afterState : Option JsonObject
  result : String
  timestamp : String
  previousHash : String
  recordHash : String

/-- `"0" * 64`. -/
def genesisHash : String := "0000000000000000000000000000000000000000000000000000000000000000"

/-- A nullable text column as a JSON value. -/
def jsonOfOption : Option String → Json
  | none => .null
  | some text => .str text

/-- The dict that `write_audit` hashes and `verify_audit_chain` rebuilds from a row. -/
def AuditLog.payload (row : AuditLog) : JsonObject :=
  [("sequence", .int row.sequence), ("tenant_id", jsonOfOption row.tenantId),
    ("actor_type", .str row.actorType), ("actor_id", .str row.actorId),
    ("request_id", .str row.requestId), ("action", .str row.action),
    ("target_type", .str row.targetType), ("target_id", jsonOfOption row.targetId),
    ("reason", jsonOfOption row.reason), ("policy_decision", jsonOfOption row.policyDecision),
    ("approval_status", jsonOfOption row.approvalStatus),
    ("before_state", .obj (row.beforeState.getD [])), ("after_state", .obj (row.afterState.getD [])),
    ("result", .str row.result)]

/-- `_next_sequence` over the rows that the query sees. -/
def nextSequence (rows : List AuditLog) : Int :=
  match (rows.map (·.sequence)).max? with
  | none => 1
  | some current => current + 1

/-- The later of two rows; of rows with one sequence, the one that came first. -/
def laterRow (best : Option AuditLog) (row : AuditLog) : Option AuditLog :=
  match best with
  | none => some row
  | some b => if b.sequence < row.sequence then some row else some b

/-- The row with the greatest sequence. -/
def latestRow (rows : List AuditLog) : Option AuditLog :=
  rows.foldl laterRow none

/-- `_latest_hash` over the rows that the query sees: `ORDER BY sequence DESC LIMIT 1`, where
an empty text counts as no row. -/
def latestHash (rows : List AuditLog) : String :=
  match latestRow rows with
  | none => genesisHash
  | some row => if row.recordHash = "" then genesisHash else row.recordHash

/-- The record that `write_audit` adds once it has read the sequence and the latest hash. -/
def newRecord (id timestamp : String) (sequence : Int) (previous : String) (entry : AuditEntry) :
    AuditLog :=
  let unhashed : AuditLog :=
    { id, sequence, timestamp
      tenantId := entry.tenantId
      actorType := entry.actorType
      actorId := entry.actorId
      requestId := entry.requestId
      action := entry.action
      targetType := entry.targetType
      targetId := entry.targetId
      reason := entry.reason
      policyDecision := entry.policyDecision
      approvalStatus := entry.approvalStatus
      beforeState := some (entry.beforeState.getD [])
      afterState := some (entry.afterState.getD [])
      result := entry.result
      previousHash := previous
      recordHash := "" }
  { unhashed with recordHash := chainedHash previous (.obj unhashed.payload) }

/-- The loop of `verify_audit_chain` over rows that are in sequence order. -/
def checkRows (previous : String) : List AuditLog → Bool × String
  | [] => (true, "ok")
  | row :: rest =>
      let expected := chainedHash previous (.obj row.payload)
      if row.previousHash ≠ previous ∨ row.recordHash ≠ expected then
        (false, "audit chain break at sequence " ++ toString row.sequence)
      else checkRows row.recordHash rest

def verifyAuditChain (table : List AuditLog) : Bool × String :=
  checkRows genesisHash (table.insertionSort (fun a b => a.sequence ≤ b.sequence))

/-- The audit log as an instance of a hash chain. -/
def auditScheme : Scheme AuditLog String where
  previous := AuditLog.previousHash
  record := AuditLog.recordHash
  digest := fun previous row => chainedHash previous (.obj row.payload)

theorem checkRows_iff (previous : String) (rows : List AuditLog) :
    (checkRows previous rows).1 = true ↔ auditScheme.Linked previous rows := by
  induction rows generalizing previous with
  | nil => simp [checkRows, Scheme.Linked]
  | cons row rest ih =>
      simp only [checkRows, Scheme.Linked]
      by_cases hbreak : row.previousHash ≠ previous ∨
          row.recordHash ≠ chainedHash previous (.obj row.payload)
      · rw [if_pos hbreak]
        simp only [Bool.false_eq_true, false_iff]
        rintro ⟨hprevious, hrecord, -⟩
        rcases hbreak with h | h
        · exact h hprevious
        · exact h hrecord
      · rw [if_neg hbreak, ih]
        obtain ⟨hprevious, hrecord⟩ := not_or.mp hbreak
        constructor
        · intro hrest
          exact ⟨not_not.mp hprevious, not_not.mp hrecord, hrest⟩
        · exact fun h => h.2.2

theorem checkRows_of_linked {previous : String} {rows : List AuditLog}
    (h : auditScheme.Linked previous rows) : checkRows previous rows = (true, "ok") := by
  induction rows generalizing previous with
  | nil => rfl
  | cons row rest ih =>
      obtain ⟨hprevious, hrecord, hrest⟩ := h
      rw [checkRows, if_neg]
      · exact ih hrest
      · exact not_or.mpr ⟨not_not.mpr hprevious, not_not.mpr hrecord⟩

@[simp] theorem newRecord_recordHash (id timestamp : String) (sequence : Int) (previous : String)
    (entry : AuditEntry) :
    (newRecord id timestamp sequence previous entry).recordHash =
      chainedHash previous (.obj (newRecord id timestamp sequence previous entry).payload) := rfl

/-- A record that was chained carries 64 hexadecimal digits. -/
theorem chainedHash_length (previous : String) (payload : Json) :
    (chainedHash previous payload).toList.length = 64 :=
  sha256Hex_length _

theorem genesisHash_length : genesisHash.toList.length = 64 := by
  decide

/-! ### Tamper evidence -/

/-- The text whose hash a row carries. -/
def AuditLog.chainText (row : AuditLog) : String :=
  row.previousHash ++ "|" ++ canonicalJson (.obj row.payload)

/-- Two rows agree on every field that is hashed; JSON states agree up to the order of their
fields, and a missing state counts as the empty object. -/
structure AuditLog.Agrees (row row' : AuditLog) : Prop where
  sequence : row.sequence = row'.sequence
  tenantId : row.tenantId = row'.tenantId
  actorType : row.actorType = row'.actorType
  actorId : row.actorId = row'.actorId
  requestId : row.requestId = row'.requestId
  action : row.action = row'.action
  targetType : row.targetType = row'.targetType
  targetId : row.targetId = row'.targetId
  reason : row.reason = row'.reason
  policyDecision : row.policyDecision = row'.policyDecision
  approvalStatus : row.approvalStatus = row'.approvalStatus
  beforeState : (Json.obj (row.beforeState.getD [])).sorted =
    (Json.obj (row'.beforeState.getD [])).sorted
  afterState : (Json.obj (row.afterState.getD [])).sorted =
    (Json.obj (row'.afterState.getD [])).sorted
  result : row.result = row'.result

theorem jsonOfOption_sorted (text : Option String) :
    (jsonOfOption text).sorted = jsonOfOption text := by
  cases text <;> rfl

theorem jsonOfOption_injective {a b : Option String} (h : jsonOfOption a = jsonOfOption b) :
    a = b := by
  cases a <;> cases b <;> simp_all [jsonOfOption]

theorem payload_keys (row row' : AuditLog) :
    row.payload.map Prod.fst = row'.payload.map Prod.fst := rfl

theorem payload_keys_nodup (row : AuditLog) : (row.payload.map Prod.fst).Nodup := by
  simp [AuditLog.payload]

theorem agrees_of_payload {row row' : AuditLog}
    (h : (Json.obj row.payload).sorted = (Json.obj row'.payload).sorted) : row.Agrees row' := by
  have values := Json.map_sorted_of_sorted_eq (payload_keys row row') (payload_keys_nodup row) h
  simp only [AuditLog.payload, List.map_cons, List.map_nil, jsonOfOption_sorted,
    List.cons.injEq] at values
  obtain ⟨hsequence, htenant, hactorType, hactorId, hrequest, haction, htargetType, htarget,
    hreason, hpolicy, happroval, hbefore, hafter, hresult, -⟩ := values
  exact
    { sequence := by simpa [Json.sorted] using hsequence
      tenantId := jsonOfOption_injective htenant
      actorType := by simpa [Json.sorted] using hactorType
      actorId := by simpa [Json.sorted] using hactorId
      requestId := by simpa [Json.sorted] using hrequest
      action := by simpa [Json.sorted] using haction
      targetType := by simpa [Json.sorted] using htargetType
      targetId := jsonOfOption_injective htarget
      reason := jsonOfOption_injective hreason
      policyDecision := jsonOfOption_injective hpolicy
      approvalStatus := jsonOfOption_injective happroval
      beforeState := hbefore
      afterState := hafter
      result := by simpa [Json.sorted] using hresult }

/-- The hashes that the rows of a chain name are the start or 64 digits long. -/
theorem previousHash_length {start : String} {rows : List AuditLog}
    (h : auditScheme.Linked start rows) (hstart : start.toList.length = 64) {row : AuditLog}
    (hrow : row ∈ rows) : row.previousHash.toList.length = 64 := by
  induction rows generalizing start with
  | nil => simp at hrow
  | cons first rest ih =>
      obtain ⟨hprevious, hrecord, hrest⟩ := h
      rcases List.mem_cons.mp hrow with rfl | hrow
      · change row.previousHash = start at hprevious
        rw [hprevious]
        exact hstart
      · refine ih hrest ?_ hrow
        rw [hrecord]
        exact chainedHash_length _ _

/-- Where the hash and the JSON texts are injective on the rows of two chains, the digests
of these rows bind them. -/
theorem auditScheme_binding {rows rows' : List AuditLog}
    (hash : ∀ r ∈ rows, ∀ r' ∈ rows', sha256Hex r.chainText = sha256Hex r'.chainText →
      r.chainText = r'.chainText)
    (json : ∀ r ∈ rows, ∀ r' ∈ rows',
      canonicalJson (.obj r.payload) = canonicalJson (.obj r'.payload) →
        (Json.obj r.payload).sorted = (Json.obj r'.payload).sorted)
    (h : auditScheme.Linked genesisHash rows) (h' : auditScheme.Linked genesisHash rows') :
    auditScheme.Binding AuditLog.Agrees rows rows' := by
  intro r hr r' hr' hdigest
  have texts : r.chainText = r'.chainText := hash r hr r' hr' hdigest
  have lengths : r.previousHash.toList.length = r'.previousHash.toList.length := by
    rw [previousHash_length h genesisHash_length hr, previousHash_length h' genesisHash_length hr']
  obtain ⟨hprevious, htext⟩ := chainedText_inj lengths texts
  exact ⟨hprevious, agrees_of_payload (json r hr r' hr' htext)⟩

/-- A log of one row. -/
def sampleRow : AuditLog :=
  newRecord "aud_1" "2026-01-01T00:00:00+00:00" (nextSequence []) (latestHash [])
    { tenantId := some "ten_a", actorType := "user", actorId := "usr_1", requestId := "req_1",
      action := "auth.login", targetType := "user" }

theorem sampleRow_recordHash : sampleRow.recordHash ≠ genesisHash := by
  intro h
  have chars := congrArg String.toList h
  rw [sampleRow, newRecord_recordHash, chainedHash_toList] at chars
  revert chars
  decide +kernel

end BlueTeam.Audit
