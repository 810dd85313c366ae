/- GID: BlueTeam/Rules/Revisions
   generality: I
   source: services/api/app/services/rules.py, services/api/app/models/ops.py
   digest: The revision table of the detection rules and the calls that add to it. -/

import BlueTeam.Detection.Catalog
import BlueTeam.Hashing
import BlueTeam.Services.World

set_option autoImplicit false
set_option relaxedAutoImplicit false

namespace BlueTeam.Rules

open BlueTeam.Python BlueTeam.Lib BlueTeam.Services

inductive RuleStatus
  | draft
  | tested
  | promoted
  | disabled
  deriving DecidableEq, Repr

def RuleStatus.text : RuleStatus → String
  | .draft => "draft"
  | .tested => "tested"
  | .promoted => "promoted"
  | .disabled => "disabled"

/-- The key of `ALLOWED_TRANSITIONS` that a text is, if it is one. -/
def RuleStatus.ofText (text : String) : Option RuleStatus :=
  [RuleStatus.draft, .tested, .promoted, .disabled].find? fun status => status.text = text

/-- `ALLOWED_TRANSITIONS` -/
def allowedTransitions : RuleStatus → List RuleStatus
  | .draft => [.tested, .disabled]
  | .tested => [.promoted, .disabled, .draft]
  | .promoted => [.disabled, .tested]
  | .disabled => [.draft, .tested]

/-- What the catalogue declares of a rule. -/
structure CatalogRule where
  ruleId : String
  version : String
  description : String
  status : String := "tested"
  name : String
  mitreTechniques : List String := []
  execution : Detection.Execution := .realtime
  deriving DecidableEq, Repr

/-- The registry holds its rules in a dictionary under their ids. -/
structure Catalogue where
  rules : List CatalogRule
  distinct : (rules.map CatalogRule.ruleId).Nodup

def CatalogRule.ofMeta (info : Detection.RuleMeta) : CatalogRule where
  ruleId := info.ruleId
  version := info.version
  description := info.description
  name := info.name
  mitreTechniques := info.mitreTechniques
  execution := info.execution

/-- What `build_default_registry` declares; no rule sets a status other than the default. -/
def defaultCatalogue : Catalogue where
  rules := Detection.defaultRegistry.map fun rule => CatalogRule.ofMeta rule.info
  distinct := by
    rw [List.map_map]
    exact Detection.defaultRegistry_ids_nodup

structure RuleRevision where
  id : String
  ruleId : String
  version : String
  status : RuleStatus
  name : String
  checksum : String
  mitreTechniques : List String
  execution : Detection.Execution
  createdAt : DateTime
  createdBy : String
  deriving DecidableEq, Repr

/-- The point of time a revision was created at. -/
def RuleRevision.created (row : RuleRevision) : Int :=
  row.createdAt.asUtc.wall

/-- The revision table, in insertion order. The primary key of a row is a fresh `new_id`, so it
refuses none. -/
structure RuleDb where
  revisions : List RuleRevision := []
  ticks : Ticks := {}

abbrev RuleService (α : Type) := Exec RuleDb Failure α

def drawRule {α : Type} (m : Draw α) : RuleService α :=
  Exec.zoom RuleDb.ticks (fun db t => { db with ticks := t }) .python m

def RuleDb.append (db : RuleDb) (rows : List RuleRevision) : RuleDb :=
  { db with revisions := db.revisions ++ rows }

/-- The revisions of one rule, in insertion order. -/
def RuleDb.history (db : RuleDb) (ruleId : String) : List RuleRevision :=
  db.revisions.filter fun row => row.ruleId = ruleId

def CatalogRule.checksum (rule : CatalogRule) : String :=
  sha256Hex (rule.ruleId ++ ":" ++ rule.version ++ ":" ++ rule.description)

/-- The revision that the catalogue gives a rule. -/
def CatalogRule.revision (rule : CatalogRule) (id : String) (createdAt : DateTime) :
    RuleRevision where
  id := id
  ruleId := rule.ruleId
  version := rule.version
  status := (RuleStatus.ofText rule.status).getD .tested
  name := rule.name
  checksum := rule.checksum
  mitreTechniques := rule.mitreTechniques
  execution := rule.execution
  createdAt := createdAt
  createdBy := "catalog"

@[simp] theorem CatalogRule.revision_ruleId (rule : CatalogRule) (id : String)
    (createdAt : DateTime) : (rule.revision id createdAt).ruleId = rule.ruleId := rfl

/-- The revisions of the rule's declared version. -/
def RuleDb.declared (db : RuleDb) (rule : CatalogRule) : List RuleRevision :=
  db.revisions.filter fun row => row.ruleId = rule.ruleId && row.version = rule.version

/-- One turn of the loop of `sync_catalog_revisions`. -/
def syncRule (rt : Runtime) (created : List RuleRevision) (rule : CatalogRule) :
    RuleService (List RuleRevision) := do
  let existing ← Exec.gets fun db => (RuleDb.declared db rule).head?
  if existing.isSome then pure created
  else do
    let id ← drawRule (newId rt "rlv")
    let createdAt ← drawRule (utcnow rt)
    pure (created ++ [rule.revision id createdAt])

/-- The rows are only added in the loop; the `SELECT` of a later turn does not see them. -/
def syncCatalogRevisions (rt : Runtime) (catalogue : Catalogue) :
    RuleService (List RuleRevision) := do
  let created ← Exec.loop (syncRule rt) [] catalogue.rules
  Exec.modify fun db => db.append created
  pure created

/-- `order_by(created_at.desc())` -/
def newestFirst (rows : List RuleRevision) : List RuleRevision :=
  rows.insertionSort fun a b => b.created ≤ a.created

def RuleDb.listHistory (db : RuleDb) (ruleId : String) : List RuleRevision :=
  newestFirst (db.history ruleId)

def RuleDb.latestRevision (db : RuleDb) (ruleId : String) : Option RuleRevision :=
  (db.listHistory ruleId).head?

/-- The row that `set_status` writes after `current`. -/
def RuleRevision.moved (current : RuleRevision) (id : String) (status : RuleStatus)
    (createdAt : DateTime) (actorId : String) : RuleRevision :=
  { current with id := id, status := status, createdAt := createdAt, createdBy := actorId }

@[simp] theorem RuleRevision.moved_ruleId (current : RuleRevision) (id : String)
    (status : RuleStatus) (createdAt : DateTime) (actorId : String) :
    (current.moved id status createdAt actorId).ruleId = current.ruleId := rfl

def invalidStatus (status : String) : Failure :=
  .python (.valueError ("invalid status " ++ status))

def unknownRule (ruleId : String) : Failure :=
  .python (.valueError ("unknown rule " ++ ruleId))

def cannotMove (current status : RuleStatus) : Failure :=
  .python (.valueError ("cannot move " ++ current.text ++ " -> " ++ status.text))

def promotionBlocked (ruleId : String) : Failure :=
  .blueTeamError "REGRESSION_GATE"
    ("Promotion blocked: no passing replay job covering " ++ ruleId) 409

/-- The latest revision, after a sync of the catalogue if there is none. -/
def currentRevision (rt : Runtime) (catalogue : Catalogue) (ruleId : String) :
    RuleService (Option RuleRevision) := do
  let current ← Exec.gets fun db => db.latestRevision ruleId
  match current with
  | some row => pure (some row)
  | none => do
      let _ ← syncCatalogRevisions rt catalogue
      Exec.gets fun db => db.latestRevision ruleId

def setStatus (rt : Runtime) (catalogue : Catalogue) (ruleId status actorId : String) :
    RuleService RuleRevision :=
  match RuleStatus.ofText status with
  | none => Exec.raise (invalidStatus status)
  | some target => do
      match ← currentRevision rt catalogue ruleId with
      | none => Exec.raise (unknownRule ruleId)
      | some current =>
          if target ∉ allowedTransitions current.status then
            Exec.raise (cannotMove current.status target)
          else do
            let id ← drawRule (newId rt "rlv")
            let createdAt ← drawRule (utcnow rt)
            let row := current.moved id target createdAt actorId
            Exec.modify fun db => db.append [row]
            pure row

/-- `promote`; the gate is what the replay lab answers at the time of the call. -/
def promote (rt : Runtime) (catalogue : Catalogue) (regressionGate : String → Bool)
    (ruleId actorId : String) (bypassRegression : Bool := false) : RuleService RuleRevision :=
  if !bypassRegression && !regressionGate ruleId then Exec.raise (promotionBlocked ruleId)
  else setStatus rt catalogue ruleId "promoted" actorId

end BlueTeam.Rules
