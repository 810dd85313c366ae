/- GID: BlueTeam/Services/Detection
   generality: I
   source: services/api/app/services/detection.py, evidence.py, suppression.py
   digest: Findings are stored once, with an alert and with sealed evidence for their events. -/

import BlueTeam.Detection.Catalog
import BlueTeam.Services.World

set_option autoImplicit false
set_option relaxedAutoImplicit false

namespace BlueTeam.Services

open BlueTeam.Python BlueTeam.Schema BlueTeam.Lib BlueTeam.Detection

/-- `load_window`: the tenant's events by time stamp. The database keeps the wall clock of a time
stamp, and the order is on that. -/
def loadWindow (tenantId : String) : Service (List CanonicalEvent) := do
  let rows ← select .events tenantId fun _ => true
  pure ((rows.insertionSort fun a b => a.timestamp.wall ≤ b.timestamp.wall).map (·.payload))

def sourceOf (eventId : String) : String :=
  "event:" ++ eventId

def custodyStep (action actorId : String) (at_ : DateTime) (more : JsonObject) : Json :=
  .obj ([("action", .str action), ("actor_id", .str actorId), ("timestamp", .str at_.isoformat)]
    ++ more)

def registerEventEvidence (rt : Runtime) (tenantId eventId collectorIdentity : String) :
    Service String := do
  match ← selectOne .evidence tenantId fun r => r.source = sourceOf eventId with
  | some existing => pure existing.id
  | none =>
      match ← selectOne .events tenantId fun r => r.id = eventId with
      | none =>
          Exec.raise (.blueTeamError "EVIDENCE_SOURCE_MISSING"
            ("event " ++ eventId ++ " not found in tenant") 404)
      | some event => do
          let id ← draw (newId rt "evi")
          let ingestedAt ← draw (utcnow rt)
          let acquired ← draw (utcnow rt)
          let hashed ← draw (utcnow rt)
          let sealedAt ← draw (utcnow rt)
          add (t := .evidence)
            { id := id
              tenantId := tenantId
              source := sourceOf eventId
              acquisitionMethod := "ingestion"
              originalTimestamp := event.timestamp
              ingestedAt := ingestedAt
              collectorIdentity := collectorIdentity
              integrityHash := event.rawHash
              parserVersion := "canonical-1.0.0"
              transformationHistory := [.str "normalize.generic", .str "hash", .str "seal"]
              confidenceLevel := 1
              payload :=
                [("event_id", .str eventId), ("raw_hash", .str event.rawHash),
                 ("chain_of_custody", .arr
                   [custodyStep "acquired" collectorIdentity acquired [],
                    custodyStep "hashed" "system" hashed [("integrity_hash", .str event.rawHash)],
                    custodyStep "sealed" "system" sealedAt []])]
              «sealed» := true }
          flush
          pure id

/-- Whether a suppression or exception names the finding's value of its entity. -/
def names (finding : Finding) (entityKey entityValue : String) : Bool :=
  given (finding.attributes.lookup entityKey) ∧
    finding.attributes.lookup entityKey = some entityValue

/-- `row.expires_at and row.expires_at < now` -/
def expired (row : Suppression) (now : DateTime) : Except Exn Bool :=
  match row.expiresAt with
  | none => .ok false
  | some at_ => at_.lt now

def suppressedBy (finding : Finding) (now : DateTime) : List Suppression → Except Exn Bool
  | [] => .ok false
  | row :: rows => do
      let ended ← expired row now
      if !ended && names finding row.entityKey row.entityValue then pure true
      else suppressedBy finding now rows

def isSuppressed (rt : Runtime) (tenantId : String) (finding : Finding) : Service Bool := do
  let now ← draw (utcnow rt)
  let rows ← select .suppressions tenantId fun r => r.ruleId = finding.ruleId
  let suppressed ← compute (suppressedBy finding now rows)
  if suppressed then pure true
  else do
    let exceptions ← select .exceptions tenantId fun r => r.ruleId = finding.ruleId
    pure (exceptions.any fun row => names finding row.entityKey row.entityValue)

def createSuppression (rt : Runtime) (tenantId ruleId entityKey entityValue reason actorId : String)
    (expiresAt : Option DateTime := none) : Service Suppression := do
  let id ← draw (newId rt "sup")
  let createdAt ← draw (utcnow rt)
  let row : Suppression :=
    { id := id
      tenantId := tenantId
      ruleId := ruleId
      entityKey := entityKey
      entityValue := entityValue
      reason := reason
      createdBy := actorId
      expiresAt := expiresAt
      createdAt := createdAt }
  add (t := .suppressions) row
  flush
  pure row

def createException (rt : Runtime)
    (tenantId ruleId entityKey entityValue reason actorId : String) :
    Service DetectionException := do
  let id ← draw (newId rt "exc")
  let createdAt ← draw (utcnow rt)
  let row : DetectionException :=
    { id := id
      tenantId := tenantId
      ruleId := ruleId
      entityKey := entityKey
      entityValue := entityValue
      reason := reason
      createdBy := actorId
      createdAt := createdAt }
  add (t := .exceptions) row
  flush
  pure row

/-- `finding.id.replace("fnd_", "alt_", 1) if finding.id.startswith("fnd_") else finding.id` -/
def alertId (findingId : String) : String :=
  if findingId.startsWith "fnd_" then "alt_" ++ String.ofList (findingId.toList.drop 4)
  else findingId

/-- The evidence ids of a finding's events, registered one by one. -/
def registerAll (rt : Runtime) (tenantId actorId : String) (eventIds : List String) :
    Service (List String) :=
  Exec.loop (fun ids eventId => do
    let id ← registerEventEvidence rt tenantId eventId actorId
    pure (ids ++ [id])) [] eventIds

def findingRecord (tenantId : String) (finding : Finding) (evidenceIds : List String) :
    FindingRecord :=
  { id := finding.id
    tenantId := tenantId
    ruleId := finding.ruleId
    ruleVersion := finding.ruleVersion
    title := finding.title
    severity := finding.severity
    confidence := finding.confidence
    fingerprint := finding.fingerprint
    explanation := finding.explanation
    mitreTechniques := finding.mitreTechniques
    eventIds := finding.eventIds
    evidenceIds := evidenceIds
    payload := finding
    createdAt := finding.createdAt }

def alertOf (tenantId : String) (finding : Finding) : Alert :=
  { id := alertId finding.id
    tenantId := tenantId
    findingId := finding.id
    title := finding.title
    severity := finding.severity
    createdAt := finding.createdAt }

/-- What the loop of `evaluate_and_store_findings` carries: the number created, and the open
fingerprints of the context. -/
structure Created where
  created : Nat := 0
  openFingerprints : List String

def storeFinding (rt : Runtime) (tenantId actorId : String) (acc : Created) (finding : Finding) :
    Service Created := do
  if ← isSuppressed rt tenantId finding then pure acc
  else do
    match ← selectOne .findings tenantId fun r => r.fingerprint = finding.fingerprint with
    | some _ => pure acc
    | none => do
        let evidenceIds ← registerAll rt tenantId actorId finding.eventIds
        add (t := .findings) (findingRecord tenantId finding evidenceIds)
        add (t := .alerts) (alertOf tenantId finding)
        pure { created := acc.created + 1
               openFingerprints := acc.openFingerprints ++ [finding.fingerprint] }

/-- `evaluate_and_store_findings`; the context is returned with the fingerprints added to it. -/
def evaluateAndStoreFindings (rt : Runtime) (tenantId actorId : String)
    (context : DetectionContext) (event : CanonicalEvent) : Service Created := do
  let findings ← draw (evaluateAll rt defaultRegistry event context)
  let acc ← Exec.loop (storeFinding rt tenantId actorId)
    { openFingerprints := context.openFingerprints } findings
  flush
  pure acc

/-- The fingerprints of the tenant's findings. -/
def openFingerprints (tenantId : String) : Service (List String) := do
  let rows ← select .findings tenantId fun _ => true
  pure (rows.map (·.fingerprint))

def evaluateAndStore (rt : Runtime) (tenantId actorId : String) (event : CanonicalEvent) :
    Service Nat := do
  let events ← loadWindow tenantId
  let fps ← openFingerprints tenantId
  let acc ← evaluateAndStoreFindings rt tenantId actorId
    { window := events, openFingerprints := fps } event
  pure acc.created

def runScheduled (rt : Runtime) (tenantId actorId : String) : Service Nat := do
  let events ← loadWindow tenantId
  if events.isEmpty then pure 0
  else do
    let fps ← openFingerprints tenantId
    let acc ← Exec.loop (fun (acc : Created) event => do
      let one ← evaluateAndStoreFindings rt tenantId actorId
        { window := events, openFingerprints := acc.openFingerprints, scheduled := true } event
      pure { created := acc.created + one.created, openFingerprints := one.openFingerprints })
      { openFingerprints := fps } events
    pure acc.created

/-- `list_findings`: latest first. -/
def listFindings (tenantId : String) : Service (List FindingRecord) := do
  let rows ← select .findings tenantId fun _ => true
  pure (rows.insertionSort fun a b => b.createdAt.wall ≤ a.createdAt.wall)

end BlueTeam.Services
