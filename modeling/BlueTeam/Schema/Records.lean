/- GID: BlueTeam/Schema/Records
   generality: I
   source: packages/schemas/blueteam_schemas/findings.py, storylines.py, graph.py,
     services/api/app/models/telemetry.py, graph.py, ops.py, intel.py
   digest: Findings, storylines and graph entities, and the rows they are stored in. -/

import BlueTeam.Lib.Store
import BlueTeam.Schema.Event

set_option autoImplicit false
set_option relaxedAutoImplicit false

namespace BlueTeam.Schema

open BlueTeam.Python

inductive EvidenceRole
  | trigger
  | supporting
  | context
  deriving DecidableEq, Repr

structure FindingEvidence where
  evidenceId : String
  eventId : Option String := none
  role : EvidenceRole := .supporting
  deriving DecidableEq, Repr

structure Finding where
  id : String
  tenantId : String
  ruleId : String
  ruleVersion : String
  title : String
  description : String
  severity : Severity
  confidence : Rat
  fingerprint : String
  mitreTactics : List String := []
  mitreTechniques : List String := []
  eventIds : List String := []
  evidence : List FindingEvidence := []
  explanation : String
  createdAt : DateTime
  attributes : List (String × String) := []
  deriving DecidableEq, Repr

structure StorylineStage where
  name : String
  ruleIds : List String := []
  eventIds : List String := []
  evidenceIds : List String := []
  timestamp : Option DateTime := none
  deriving DecidableEq, Repr

structure Storyline where
  storylineId : String
  tenantId : String
  title : String
  entities : List (String × List String) := []
  stages : List StorylineStage := []
  confidence : Rat
  evidenceIds : List String := []
  eventIds : List String := []
  mitreTechniques : List String := []
  start : DateTime
  finish : DateTime
  attributes : JsonObject := []
  deriving DecidableEq, Repr

inductive EntityType
  | user
  | host
  | ip
  | domain
  | process
  | cloudResource
  deriving DecidableEq, Repr

def EntityType.text : EntityType → String
  | .user => "user"
  | .host => "host"
  | .ip => "ip"
  | .domain => "domain"
  | .process => "process"
  | .cloudResource => "cloud_resource"

inductive Criticality
  | unknown
  | low
  | medium
  | high
  | crownJewel
  deriving DecidableEq, Repr

def Criticality.text : Criticality → String
  | .unknown => "unknown"
  | .low => "low"
  | .medium => "medium"
  | .high => "high"
  | .crownJewel => "crown_jewel"

inductive RelationType
  | usedFrom
  | onHost
  | ran
  | childOf
  | connectedTo
  | queried
  | owns
  deriving DecidableEq, Repr

def RelationType.text : RelationType → String
  | .usedFrom => "used_from"
  | .onHost => "on_host"
  | .ran => "ran"
  | .childOf => "child_of"
  | .connectedTo => "connected_to"
  | .queried => "queried"
  | .owns => "owns"

inductive RiskKind
  | detection
  | intel
  | criticality
  deriving DecidableEq, Repr

structure RiskComponent where
  source : String
  kind : RiskKind
  points : Rat
  explanation : String
  deriving DecidableEq, Repr

structure GraphEntity where
  id : String
  tenantId : String
  entityType : EntityType
  key : String
  displayName : String
  criticality : Criticality := .unknown
  riskScore : Rat := 0
  riskComponents : List RiskComponent := []
  eventIds : List String := []
  findingIds : List String := []
  firstSeen : DateTime
  lastSeen : DateTime
  attributes : List (String × String) := []
  deriving DecidableEq, Repr

structure GraphRelationship where
  id : String
  tenantId : String
  srcId : String
  dstId : String
  relation : RelationType
  eventIds : List String := []
  manufactured : Bool := false
  deriving DecidableEq, Repr

structure EntityGraph where
  tenantId : String
  entities : List GraphEntity
  relationships : List GraphRelationship
  manufacturedEdges : Bool := false
  deriving DecidableEq, Repr

/-! ### Rows -/

-- A JSON column that holds a dumped model holds the model itself here: `model_validate` reads
-- back what `model_dump` wrote.

structure SecurityEvent where
  id : String
  tenantId : String
  timestamp : DateTime
  ingestedAt : DateTime
  source : String
  sourceType : String
  eventType : String
  category : String
  action : Option String
  outcome : Option Outcome
  srcIp : Option String
  userName : Option String
  idempotencyKey : Option String
  rawHash : String
  payload : CanonicalEvent
  deriving DecidableEq, Repr

structure DeadLetterEvent where
  id : String
  tenantId : String
  reason : String
  rawPayload : JsonObject
  createdAt : DateTime
  deriving DecidableEq, Repr

structure FindingRecord where
  id : String
  tenantId : String
  ruleId : String
  ruleVersion : String
  title : String
  severity : Severity
  confidence : Rat
  fingerprint : String
  explanation : String
  mitreTechniques : List String
  eventIds : List String
  evidenceIds : List String
  payload : Finding
  createdAt : DateTime
  deriving DecidableEq, Repr

inductive AlertStatus
  | «open»
  | promoted
  deriving DecidableEq, Repr

structure Alert where
  id : String
  tenantId : String
  findingId : String
  title : String
  severity : Severity
  status : AlertStatus := .open
  createdAt : DateTime
  deriving DecidableEq, Repr

structure Evidence where
  id : String
  tenantId : String
  incidentId : Option String := none
  source : String
  acquisitionMethod : String
  originalTimestamp : DateTime
  ingestedAt : DateTime
  collectorIdentity : String
  integrityHash : String
  objectUri : Option String := none
  parserVersion : String
  transformationHistory : List Json
  confidenceLevel : Nat
  payload : JsonObject
  «sealed» : Bool
  deriving DecidableEq, Repr

structure IndicatorOfCompromise where
  id : String
  tenantId : String
  indicatorType : String
  value : String
  source : String
  confidence : PyFloat
  ttlHours : Int := 168
  expiresAt : DateTime
  malware : Option String := none
  actor : Option String := none
  campaign : Option String := none
  mitreTechniques : List String := []
  tags : List String := []
  sightings : Int := 0
  lastSeenAt : Option DateTime := none
  provenance : JsonObject := []
  active : Bool := true
  createdAt : DateTime
  createdBy : String
  updatedAt : DateTime
  deriving DecidableEq, Repr

structure Suppression where
  id : String
  tenantId : String
  ruleId : String
  entityKey : String
  entityValue : String
  reason : String
  createdBy : String
  expiresAt : Option DateTime := none
  createdAt : DateTime
  deriving DecidableEq, Repr

structure DetectionException where
  id : String
  tenantId : String
  ruleId : String
  entityKey : String
  entityValue : String
  reason : String
  createdBy : String
  createdAt : DateTime
  deriving DecidableEq, Repr

structure EntityRecord where
  id : String
  tenantId : String
  entityType : EntityType
  key : String
  displayName : String
  criticality : Criticality := .unknown
  riskScore : Rat := 0
  riskComponents : List RiskComponent := []
  eventIds : List String := []
  findingIds : List String := []
  firstSeen : DateTime
  lastSeen : DateTime
  attributes : List (String × String) := []
  deriving DecidableEq, Repr

structure RelationshipRecord where
  id : String
  tenantId : String
  srcId : String
  dstId : String
  relation : RelationType
  eventIds : List String := []
  manufactured : Bool := false
  deriving DecidableEq, Repr

structure StorylineRecord where
  id : String
  tenantId : String
  incidentId : Option String
  title : String
  fingerprint : String
  confidence : Rat
  payload : Storyline
  createdAt : DateTime
  deriving DecidableEq, Repr

inductive IncidentStatus
  | grouped
  | new
  | triaging
  | investigating
  | contained
  | eradicated
  | recovered
  | closed
  deriving DecidableEq, Repr

def IncidentStatus.text : IncidentStatus → String
  | .grouped => "grouped"
  | .new => "new"
  | .triaging => "triaging"
  | .investigating => "investigating"
  | .contained => "contained"
  | .eradicated => "eradicated"
  | .recovered => "recovered"
  | .closed => "closed"

/-- The member of `INCIDENT_STATUSES` that a text is, if it is one. -/
def IncidentStatus.ofText (text : String) : Option IncidentStatus :=
  [IncidentStatus.grouped, .new, .triaging, .investigating, .contained, .eradicated, .recovered,
    .closed].find? fun status => status.text = text

/-- What an incident was made from. -/
inductive IncidentPayload
  | storyline (story : Storyline)
  | alert (alertId findingId : String)
  deriving DecidableEq, Repr

structure IncidentRecord where
  id : String
  tenantId : String
  fingerprint : String
  title : String
  status : IncidentStatus := .grouped
  severity : Severity := .medium
  assigneeUserId : Option String := none
  assigneeEmail : Option String := none
  sourceAlertId : Option String := none
  storylineIds : List String := []
  findingRuleIds : List String := []
  eventIds : List String := []
  evidenceIds : List String := []
  relatedEntityIds : List String := []
  mitreTechniques : List String := []
  notes : List Json := []
  tasks : List Json := []
  timeline : List Json := []
  rootCause : Option String := none
  lessonsLearned : Option String := none
  payload : IncidentPayload
  createdAt : DateTime
  updatedAt : DateTime
  deriving DecidableEq, Repr

inductive Table
  | events
  | deadLetters
  | findings
  | alerts
  | evidence
  | indicators
  | suppressions
  | exceptions
  | entities
  | relationships
  | storylines
  | incidents
  deriving DecidableEq, Repr

abbrev Table.Row : Table → Type
  | .events => SecurityEvent
  | .deadLetters => DeadLetterEvent
  | .findings => FindingRecord
  | .alerts => Alert
  | .evidence => Evidence
  | .indicators => IndicatorOfCompromise
  | .suppressions => Suppression
  | .exceptions => DetectionException
  | .entities => EntityRecord
  | .relationships => RelationshipRecord
  | .storylines => StorylineRecord
  | .incidents => IncidentRecord

def Table.id : {t : Table} → t.Row → String
  | .events, r => SecurityEvent.id r
  | .deadLetters, r => DeadLetterEvent.id r
  | .findings, r => FindingRecord.id r
  | .alerts, r => Alert.id r
  | .evidence, r => Evidence.id r
  | .indicators, r => IndicatorOfCompromise.id r
  | .suppressions, r => Suppression.id r
  | .exceptions, r => DetectionException.id r
  | .entities, r => EntityRecord.id r
  | .relationships, r => RelationshipRecord.id r
  | .storylines, r => StorylineRecord.id r
  | .incidents, r => IncidentRecord.id r

def Table.tenantId : {t : Table} → t.Row → String
  | .events, r => SecurityEvent.tenantId r
  | .deadLetters, r => DeadLetterEvent.tenantId r
  | .findings, r => FindingRecord.tenantId r
  | .alerts, r => Alert.tenantId r
  | .evidence, r => Evidence.tenantId r
  | .indicators, r => IndicatorOfCompromise.tenantId r
  | .suppressions, r => Suppression.tenantId r
  | .exceptions, r => DetectionException.tenantId r
  | .entities, r => EntityRecord.tenantId r
  | .relationships, r => RelationshipRecord.tenantId r
  | .storylines, r => StorylineRecord.tenantId r
  | .incidents, r => IncidentRecord.tenantId r

/-- The columns of the unique constraints, besides the tenant. -/
def Table.unique : {t : Table} → t.Row → Option (List String)
  | .events, r => (SecurityEvent.idempotencyKey r).map fun key => [key]
  | .findings, r => some [FindingRecord.fingerprint r]
  | .indicators, r => some [IndicatorOfCompromise.indicatorType r, IndicatorOfCompromise.value r]
  | .entities, r => some [(EntityRecord.entityType r).text, EntityRecord.key r]
  | .relationships, r => some [RelationshipRecord.srcId r,
      (RelationshipRecord.relation r).text, RelationshipRecord.dstId r]
  | .incidents, r => some [IncidentRecord.fingerprint r]
  | .deadLetters, _ | .alerts, _ | .evidence, _ | .suppressions, _ | .exceptions, _
  | .storylines, _ => none

/-- The tables ingest reads and writes. -/
@[reducible] def schema : Lib.Schema where
  Table := Table
  Row := Table.Row
  key := Table.id
  tenant := Table.tenantId
  unique := Table.unique

end BlueTeam.Schema
