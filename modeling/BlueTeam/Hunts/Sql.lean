/- GID: BlueTeam/Hunts/Sql
   generality: I
   source: packages/sql-hunts/blueteam_sql/engine.py, packages/clickhouse-store/blueteam_clickhouse/client.py,
     security-languages/sql/hunts/password_spray.yaml
   digest: The hunt for password sprays on its two backends, and where they agree. -/

import BlueTeam.Lib.GroupCount
import BlueTeam.Schema.Event

set_option autoImplicit false
set_option relaxedAutoImplicit false

namespace BlueTeam.Hunts

open BlueTeam.Python BlueTeam.Schema BlueTeam.Lib

/-! ### Rows -/

/-- A row of the table that `_execute_sqlite` fills. -/
structure SqliteRow where
  id : String
  tenantId : String
  timestamp : String
  ingestedAt : String
  source : String
  sourceType : String
  eventType : String
  category : String
  hostId : Option String
  userId : Option String
  srcIp : Option String
  dstIp : Option String
  srcPort : Option Int
  dstPort : Option Int
  protocol : Option String
  processName : Option String
  parentProcessName : Option String
  commandLine : Option String
  domain : Option String
  url : Option String
  filePath : Option String
  fileHash : Option String
  action : Option String
  outcome : Option String
  severity : String
  confidence : PyFloat
  schemaVersion : String
  userName : Option String

def userName (event : CanonicalEvent) : Option String :=
  event.user.bind (·.name)

def sqliteRow (event : CanonicalEvent) : SqliteRow where
  id := event.id
  tenantId := event.tenantId
  timestamp := event.timestamp.isoformat
  ingestedAt := event.ingestedAt.isoformat
  source := event.source
  sourceType := event.sourceType
  eventType := event.eventType
  category := event.category
  hostId := event.host.bind (·.id)
  userId := event.user.bind (·.id)
  srcIp := event.srcIp
  dstIp := event.dstIp
  srcPort := event.srcPort
  dstPort := event.dstPort
  protocol := event.protocol
  processName := event.process.bind (·.name)
  parentProcessName := event.parentProcess.bind (·.name)
  commandLine := event.process.bind (·.commandLine)
  domain := event.domain
  url := event.url
  filePath := event.file.bind (·.path)
  fileHash := firstGiven event.hash (event.file.bind (·.hashSha256))
  action := event.action
  outcome := event.outcome.map Outcome.text
  severity := event.severity.text
  confidence := event.confidence
  schemaVersion := event.schemaVersion
  userName := userName event

/-- A row of `blueteam.events` as it is sent; the attributes as their JSON text. -/
structure ClickHouseRow where
  eventId : String
  tenantId : String
  timestamp : String
  ingestedAt : String
  source : String
  sourceType : String
  eventType : String
  category : String
  hostId : Option String
  userId : String
  srcIp : String
  dstIp : String
  srcPort : Int
  dstPort : Int
  protocol : String
  processName : Option String
  parentProcessName : Option String
  commandLine : Option String
  domain : String
  url : String
  filePath : Option String
  fileHash : Option String
  action : String
  outcome : String
  severity : String
  confidence : PyFloat
  schemaVersion : String
  attributes : JsonObject
  rawReference : String

/-- `_ch_time` -/
def chTime (value : DateTime) : String :=
  let us := (value.wall % DateTime.day).toNat
  value.dateIso ++ " " ++ DateTime.hoursMinutes us ++ ":" ++ DateTime.pad 2 (us / 1000000 % 60) ++
    "." ++ DateTime.pad 3 (us / 1000 % 1000)

/-- `record.field if record else ""`; a field that is missing is sent as a null. -/
def fieldOr {α : Type} (record : Option α) (field : α → Option String) : Option String :=
  match record with
  | some r => field r
  | none => some ""

/-- `ClickHouseClient._row` -/
def clickHouseRow (event : CanonicalEvent) : ClickHouseRow where
  eventId := event.id
  tenantId := event.tenantId
  timestamp := chTime event.timestamp
  ingestedAt := chTime event.ingestedAt
  source := event.source
  sourceType := event.sourceType
  eventType := event.eventType
  category := event.category
  hostId :=
    if given (event.host.bind (·.id)) then event.host.bind (·.id) else fieldOr event.host (·.name)
  userId := orText (userName event) ""
  srcIp := orText event.srcIp ""
  dstIp := orText event.dstIp ""
  srcPort := event.srcPort.getD 0
  dstPort := event.dstPort.getD 0
  protocol := orText event.protocol ""
  processName := fieldOr event.process (·.name)
  parentProcessName := fieldOr event.parentProcess (·.name)
  commandLine := fieldOr event.process (·.commandLine)
  domain := orText event.domain ""
  url := orText event.url ""
  filePath := fieldOr event.file (·.path)
  fileHash := if given event.hash then event.hash else fieldOr event.file (·.hashSha256)
  action := orText event.action ""
  outcome := orText (event.outcome.map Outcome.text) ""
  severity := event.severity.text
  confidence := event.confidence
  schemaVersion := event.schemaVersion
  attributes := event.attributes
  rawReference := orText event.rawHash event.id

/-! ### The statements of `sql.identity.password_spray` -/

/-- `sql`: the failures of each address, where at least `minUsers` user names failed. -/
def passwordSpraySql (minUsers : Nat) (rows : List SqliteRow) : List (GroupCount (Option String)) :=
  groupCounts (fun row => row.category = "authentication" ∧ row.outcome = some "failure") (·.srcIp)
    (·.userName) minUsers rows

/-- `clickhouse_sql`; no column is null there. -/
def passwordSprayClickhouseSql (tenantId : String) (minUsers : Nat) (rows : List ClickHouseRow) :
    List (GroupCount String) :=
  groupCounts
    (fun row =>
      row.tenantId = tenantId ∧ row.category = "authentication" ∧ row.outcome = "failure")
    (·.srcIp) (fun row => some row.userId) minUsers rows

/-- `_execute_sqlite` -/
def executeSqlite (minUsers : Nat) (events : List CanonicalEvent) :
    List (GroupCount (Option String)) :=
  passwordSpraySql minUsers (events.map sqliteRow)

/-- What the statement gives over the rows that `insert_events` sends. -/
def executeClickhouse (tenantId : String) (minUsers : Nat) (events : List CanonicalEvent) :
    List (GroupCount String) :=
  passwordSprayClickhouseSql tenantId minUsers (events.map clickHouseRow)

/-! ### Where they agree -/

def isFailure (event : CanonicalEvent) : Bool :=
  event.category = "authentication" ∧ event.outcome = some .failure

/-- The failures from an address; `""` for none. -/
def failuresFrom (address : String) (events : List CanonicalEvent) : List CanonicalEvent :=
  events.filter fun event => isFailure event && event.srcIp.getD "" = address

/-- How many user names the events have; a missing one is `""`. -/
def distinctNames (events : List CanonicalEvent) : Nat :=
  (events.map fun event => (userName event).getD "").dedup.length

section

variable {minUsers : Nat} {events : List CanonicalEvent}

theorem orText_empty (text : Option String) : orText text "" = text.getD "" := by
  cases text with
  | none => rfl
  | some s =>
      by_cases hs : s = ""
      · rw [orText, if_pos hs, hs]
        rfl
      · exact if_neg hs

theorem outcome_failure_iff (outcome : Option Outcome) :
    outcome.map Outcome.text = some "failure" ↔ outcome = some .failure := by
  rcases outcome with _ | _ | _ | _ <;> decide

theorem outcome_text_failure_iff (outcome : Option Outcome) :
    (outcome.map Outcome.text).getD "" = "failure" ↔ outcome = some .failure := by
  rcases outcome with _ | _ | _ | _ <;> decide

theorem executeSqlite_eq :
    executeSqlite minUsers events =
      groupCounts isFailure (·.srcIp) userName minUsers events := by
  rw [executeSqlite, passwordSpraySql, groupCounts_map]
  refine groupCounts_congr fun event _ => decide_eq_decide.mpr ?_
  rw [← outcome_failure_iff]
  rfl

theorem executeClickhouse_eq {tenantId : String} (h : ∀ event ∈ events, event.tenantId = tenantId) :
    executeClickhouse tenantId minUsers events =
      groupCounts isFailure (fun event => event.srcIp.getD "") (defaulted "" userName) minUsers
        events := by
  rw [executeClickhouse, passwordSprayClickhouseSql, groupCounts_map]
  simp only [clickHouseRow, orText_empty]
  refine groupCounts_congr fun event hevent => decide_eq_decide.mpr ?_
  rw [and_iff_right (h event hevent), outcome_text_failure_iff]

theorem countDistinct_userName (address : String) :
    countDistinct (defaulted "" userName) (failuresFrom address events) =
      distinctNames (failuresFrom address events) := by
  rw [countDistinct, distinctNames, ← List.filterMap_eq_map]
  rfl

/-- The backends agree exactly if, for each address with as many users as the hunt asks for, its failures
have one spelling of the address and no name is missing, or one is empty as well. -/
theorem backends_agree_iff {tenantId : String} (h : ∀ event ∈ events, event.tenantId = tenantId) :
    SameCounts "" (executeSqlite minUsers events) (executeClickhouse tenantId minUsers events) ↔
      ∀ address, distinctNames (failuresFrom address events) < minUsers ∨
        (∀ event ∈ failuresFrom address events, ∀ event' ∈ failuresFrom address events,
          event.srcIp = event'.srcIp) ∧
        ((∀ event ∈ failuresFrom address events, userName event ≠ none) ∨
          ∃ event ∈ failuresFrom address events, userName event = some "") := by
  rw [executeSqlite_eq, executeClickhouse_eq h, sameCounts_defaulted_iff]
  refine forall_congr' fun address => ?_
  have hmerged : merged isFailure (·.srcIp) "" address events = failuresFrom address events := rfl
  rw [hmerged, countDistinct_userName]

end

def loginFailure (id : String) (srcIp name : Option String) : CanonicalEvent where
  id := id
  tenantId := "acme"
  timestamp := ⟨63839761325000000, some 0⟩
  ingestedAt := ⟨63839761325000000, some 0⟩
  source := "okta"
  sourceType := "identity"
  eventType := "login"
  category := "authentication"
  user := some { name := name }
  srcIp := srcIp
  outcome := some .failure

/-- Two names from one address. -/
def sampleFailures : List CanonicalEvent :=
  [loginFailure "e1" (some "10.0.0.1") (some "alice"),
    loginFailure "e2" (some "10.0.0.1") (some "bob")]

theorem backends_agree_sample :
    SameCounts "" (executeSqlite 2 sampleFailures) (executeClickhouse "acme" 2 sampleFailures) := by
  have htenant : ∀ event ∈ sampleFailures, event.tenantId = "acme" := by decide
  have hsrc : ∀ event ∈ sampleFailures, event.srcIp = some "10.0.0.1" := by decide
  have hname : ∀ event ∈ sampleFailures, userName event ≠ none := by decide
  refine (backends_agree_iff htenant).mpr fun address => .inr ⟨?_, .inl ?_⟩
  · intro event hevent event' hevent'
    rw [hsrc event (List.mem_of_mem_filter hevent), hsrc event' (List.mem_of_mem_filter hevent')]
  · intro event hevent
    exact hname event (List.mem_of_mem_filter hevent)

/-- A failure without a name is a user of ClickHouse's count only; one with an empty address and one
without an address are two groups of SQLite's. -/
theorem backends_disagree :
    ¬ SameCounts "" (executeSqlite 1 [loginFailure "e1" (some "10.0.0.1") none])
        (executeClickhouse "acme" 1 [loginFailure "e1" (some "10.0.0.1") none]) ∧
      ¬ SameCounts ""
        (executeSqlite 0 [loginFailure "e1" (some "") (some "alice"), loginFailure "e2" none (some "alice")])
        (executeClickhouse "acme" 0
          [loginFailure "e1" (some "") (some "alice"), loginFailure "e2" none (some "alice")]) := by
  constructor
  · intro h
    obtain ⟨c, hc, -⟩ := (h ⟨"10.0.0.1", 1, 1⟩).mpr (by decide +kernel)
    have hnone : executeSqlite 1 [loginFailure "e1" (some "10.0.0.1") none] = [] := by decide +kernel
    rw [hnone] at hc
    exact List.not_mem_nil hc
  · intro h
    have hlost := (h ⟨"", 1, 1⟩).mp (by decide +kernel)
    exact absurd hlost (by decide +kernel)

end BlueTeam.Hunts
