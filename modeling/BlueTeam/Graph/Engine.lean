/- GID: BlueTeam/Graph/Engine
   generality: I
   source: packages/entity-graph/blueteam_graph/engine.py
   digest: Entities and observed relationships from telemetry, with their risk. -/

import BlueTeam.Hashing
import BlueTeam.Schema.Records
import Mathlib.Algebra.Order.Ring.Unbundled.Rat
import Mathlib.Algebra.Ring.Rat

set_option autoImplicit false
set_option relaxedAutoImplicit false

namespace BlueTeam.Graph

open BlueTeam.Python BlueTeam.Schema BlueTeam.Lib

def entityId (rt : Runtime) (tenantId : String) (entityType : EntityType) (key : String) : String :=
  "ent_" ++ takeChars 32
    (sha256Hex (tenantId ++ "|" ++ entityType.text ++ "|" ++ rt.lower key))

def relationshipId (tenantId srcId : String) (relation : RelationType) (dstId : String) : String :=
  "rel_" ++ takeChars 32
    (sha256Hex (tenantId ++ "|" ++ srcId ++ "|" ++ relation.text ++ "|" ++ dstId))

/-- The dicts `entities` and `relationships` under construction. -/
structure Building where
  entities : List GraphEntity := []
  relationships : List GraphRelationship := []

/-- The update of an entity that an event names again. -/
def touch (event : CanonicalEvent) (e : GraphEntity) : Except Exn GraphEntity := do
  let early ← event.timestamp.lt e.firstSeen
  let late ← e.lastSeen.lt event.timestamp
  pure
    { e with
      eventIds := if event.id ∈ e.eventIds then e.eventIds else e.eventIds ++ [event.id]
      firstSeen := if early then event.timestamp else e.firstSeen
      lastSeen := if late then event.timestamp else e.lastSeen }

def upsertIn (event : CanonicalEvent) (fresh : GraphEntity) :
    List GraphEntity → Except Exn (List GraphEntity)
  | [] => .ok [fresh]
  | e :: es =>
      if e.id = fresh.id then (touch event e).map (· :: es)
      else (upsertIn event fresh es).map (e :: ·)

def upsert (rt : Runtime) (tenantId : String) (entityType : EntityType) (key name : String)
    (event : CanonicalEvent) (attrs : List (String × String)) : Exec Building Exn String :=
  let fresh : GraphEntity :=
    { id := entityId rt tenantId entityType key
      tenantId := tenantId
      entityType := entityType
      key := rt.lower key
      displayName := name
      firstSeen := event.timestamp
      lastSeen := event.timestamp
      eventIds := [event.id]
      attributes := attrs.filter fun f => f.2 ≠ "" }
  fun g =>
    match upsertIn event fresh g.entities with
    | .ok entities => (.ok fresh.id, { g with entities := entities })
    | .error e => (.error e, g)

def relateIn (fresh : GraphRelationship) (eventId : String) :
    List GraphRelationship → List GraphRelationship
  | [] => [fresh]
  | r :: rs =>
      if r.id = fresh.id then
        (if eventId ∈ r.eventIds then r else { r with eventIds := r.eventIds ++ [eventId] }) :: rs
      else r :: relateIn fresh eventId rs

def relate (tenantId src : String) (relation : RelationType) (dst eventId : String) :
    Exec Building Exn Unit :=
  let fresh : GraphRelationship :=
    { id := relationshipId tenantId src relation dst
      tenantId := tenantId
      srcId := src
      dstId := dst
      relation := relation
      eventIds := [eventId] }
  Exec.modify fun g => { g with relationships := relateIn fresh eventId g.relationships }

/-- `if src and dst: relate(...)`, for ends that may be missing. -/
def relateGiven (tenantId : String) (src : Option String) (relation : RelationType)
    (dst : Option String) (eventId : String) : Exec Building Exn Unit :=
  match src, dst with
  | some src, some dst => relate tenantId src relation dst eventId
  | _, _ => pure ()

/-- The key of a process: its name and its id. -/
def processKey (p : CanonicalProcess) : String :=
  p.name.getD "" ++ ":" ++ (if p.pid.getD 0 ≠ 0 then toString (p.pid.getD 0) else "na")

def upsertUser (rt : Runtime) (tenantId : String) (event : CanonicalEvent) :
    Exec Building Exn (Option String) :=
  match event.user with
  | some user =>
      if given user.name then
        some <$> upsert rt tenantId .user (user.name.getD "") (user.name.getD "") event
          [("user_id", user.id.getD "")]
      else pure none
  | none => pure none

def upsertHost (rt : Runtime) (tenantId : String) (event : CanonicalEvent) :
    Exec Building Exn (Option String) :=
  match event.host with
  | some host =>
      let hostKey := (firstGiven host.id host.name).getD ""
      if hostKey ≠ "" then
        some <$> upsert rt tenantId .host hostKey (orText host.name hostKey) event
          [("os", host.os.getD "")]
      else pure none
  | none => pure none

def upsertProcess (rt : Runtime) (tenantId : String) (event : CanonicalEvent) :
    Exec Building Exn (Option String) :=
  match event.process with
  | some process =>
      if given process.name then
        some <$> upsert rt tenantId .process (processKey process) (process.name.getD "") event
          [("path", process.path.getD ""), ("command_line", process.commandLine.getD "")]
      else pure none
  | none => pure none

/-- An address of the event, under the role it plays there. -/
def upsertIp (rt : Runtime) (tenantId : String) (event : CanonicalEvent) (ip : Option String)
    (role : String) : Exec Building Exn (Option String) :=
  if given ip then
    some <$> upsert rt tenantId .ip (ip.getD "") (ip.getD "") event [("role", role)]
  else pure none

def addDomain (rt : Runtime) (tenantId : String) (event : CanonicalEvent) :
    Exec Building Exn Unit :=
  if given event.domain then do
    let domain := event.domain.getD ""
    let domainId ← upsert rt tenantId .domain domain domain event []
    let srcId := if given event.srcIp then some (entityId rt tenantId .ip (event.srcIp.getD ""))
      else none
    relateGiven tenantId srcId .queried (some domainId) event.id
  else pure ()

def addCloudResource (rt : Runtime) (tenantId : String) (event : CanonicalEvent) :
    Exec Building Exn Unit :=
  match event.cloudResource with
  | some cloud =>
      let cloudKey := (firstGiven cloud.resourceId cloud.accountId).getD ""
      if cloudKey ≠ "" then do
        let _ ← upsert rt tenantId .cloudResource cloudKey (orText cloud.resourceType cloudKey)
          event [("provider", cloud.provider.getD ""), ("account_id", cloud.accountId.getD "")]
        pure ()
      else pure ()
  | none => pure ()

def addParent (rt : Runtime) (tenantId : String) (event : CanonicalEvent)
    (procId : Option String) : Exec Building Exn Unit :=
  match event.parentProcess with
  | some parent =>
      if procId.isSome ∧ given parent.name then do
        let parentId ← upsert rt tenantId .process (processKey parent) (parent.name.getD "") event []
        relateGiven tenantId procId .childOf (some parentId) event.id
      else pure ()
  | none => pure ()

/-- One turn of the loop of `build_graph`. -/
def addEvent (rt : Runtime) (tenantId : String) (event : CanonicalEvent) :
    Exec Building Exn Unit := do
  let userId ← upsertUser rt tenantId event
  let hostId ← upsertHost rt tenantId event
  let procId ← upsertProcess rt tenantId event
  let srcIp ← upsertIp rt tenantId event event.srcIp "src"
  relateGiven tenantId userId .usedFrom srcIp event.id
  relateGiven tenantId hostId .connectedTo srcIp event.id
  let dstIp ← upsertIp rt tenantId event event.dstIp "dst"
  relateGiven tenantId hostId .connectedTo dstIp event.id
  relateGiven tenantId procId .connectedTo dstIp event.id
  addDomain rt tenantId event
  addCloudResource rt tenantId event
  relateGiven tenantId userId .onHost hostId event.id
  relateGiven tenantId hostId .ran procId event.id
  addParent rt tenantId event procId

def severityPoints : Severity → Rat × String
  | .critical => (40, "40.0")
  | .high => (25, "25.0")
  | .medium => (12, "12.0")
  | .low => (5, "5.0")
  | .informational => (1, "1.0")

def criticalityFactor : Criticality → Rat × String
  | .unknown => (1, "1.0")
  | .low => (4 / 5, "0.8")
  | .medium => (1, "1.0")
  | .high => (5 / 4, "1.25")
  | .crownJewel => (3 / 2, "1.5")

/-- `round(q, 2)`, ties to even -/
def round2 (q : Rat) : Rat :=
  let x := q * 100
  let low := x.floor
  let rest := x - low
  let n := if rest < 1 / 2 then low else if 1 / 2 < rest then low + 1
    else if low % 2 = 0 then low else low + 1
  n / 100

/-- `_finding_touches` -/
def findingTouches (rt : Runtime) (entity : GraphEntity) (finding : Finding) : Bool :=
  let attr (name : String) : String := rt.lower ((finding.attributes.lookup name).getD "")
  entity.eventIds.any (· ∈ finding.eventIds) ||
    match entity.entityType with
    | .user => attr "user" = entity.key
    | .host => attr "host" = entity.key
    | .ip => entity.key = attr "src_ip" || entity.key = attr "dst_ip"
    | .process => attr "process" ≠ "" && hasInfix (attr "process") entity.key
    | _ => false

def riskComponent (finding : Finding) : RiskComponent :=
  { source := finding.id
    kind := if finding.ruleId.startsWith "intel." then .intel else .detection
    points := (severityPoints finding.severity).1
    explanation := finding.ruleId ++ " (" ++ finding.severity.text ++ ") contributed " ++
      (severityPoints finding.severity).2 ++ " points." }

def applyRisk (rt : Runtime) (findings : List Finding) (entity : GraphEntity) : GraphEntity :=
  let touching := findings.filter fun finding =>
    finding.tenantId = entity.tenantId ∧ findingTouches rt entity finding
  let raw := (touching.map fun finding => (severityPoints finding.severity).1).sum
  let factor := criticalityFactor entity.criticality
  let extra : List RiskComponent :=
    if factor.1 = 1 then []
    else
      [{ source := "criticality:" ++ entity.criticality.text
         kind := .criticality
         points := round2 (raw * (factor.1 - 1))
         explanation := "Asset criticality " ++ entity.criticality.text ++ " applies factor " ++
           factor.2 ++ "." }]
  { entity with
    findingIds := touching.map (·.id)
    riskComponents := touching.map riskComponent ++ extra
    riskScore := min 100 (round2 (raw * factor.1)) }

def buildGraph (rt : Runtime) (events : List CanonicalEvent) (findings : List Finding)
    (criticality : List (String × Criticality)) : Except Exn EntityGraph :=
  match events with
  | [] => .ok ⟨(findings.head?.map (·.tenantId)).getD "", [], [], false⟩
  | event :: _ =>
      let tenantId := event.tenantId
      match (Exec.loop (fun _ event => addEvent rt tenantId event) () events) {} with
      | (.error e, _) => .error e
      | (.ok _, built) =>
          let entities := built.entities.map fun entity => applyRisk rt findings
            { entity with criticality := (criticality.lookup entity.id).getD .unknown }
          .ok
            { tenantId := tenantId
              entities := entities.insertionSort fun a b => b.riskScore ≤ a.riskScore
              relationships := built.relationships }

end BlueTeam.Graph
