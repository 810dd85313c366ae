/- GID: BlueTeam/Services/Ingestion
   generality: I
   source: services/api/app/services/ingestion.py, intel.py, graph.py, incidents.py, dataplane.py
   digest: A batch of payloads becomes events, dead letters, findings, a graph and incidents. -/

import BlueTeam.Correlation.Engine
import BlueTeam.Graph.Engine
import BlueTeam.Ingest.Enrich
import BlueTeam.Ingest.Normalize
import BlueTeam.Services.Detection

set_option autoImplicit false
set_option relaxedAutoImplicit false

namespace BlueTeam.Services

open BlueTeam.Python BlueTeam.Schema BlueTeam.Lib BlueTeam.Detection BlueTeam.Ingest

/-! ### Indicators -/

/-- `as_utc(row.expires_at) > now` -/
def unexpired (now : DateTime) (row : IndicatorOfCompromise) : Except Exn Bool :=
  now.lt row.expiresAt.asUtc

/-- `list_iocs` without the expired ones, latest update first. -/
def listIocs (rt : Runtime) (tenantId : String) : Service (List IndicatorOfCompromise) := do
  let rows ← select .indicators tenantId fun _ => true
  let now ← draw (utcnow rt)
  let sorted := rows.insertionSort fun a b => b.updatedAt.wall ≤ a.updatedAt.wall
  compute (filterRaising (unexpired now) (sorted.filter (·.active)))

def intelEntry (rt : Runtime) (row : IndicatorOfCompromise) : String × TextMap :=
  (row.value,
    [("rule_id", "intel." ++ row.indicatorType), ("type", row.indicatorType),
     ("confidence", rt.fixed2 row.confidence), ("source", row.source), ("ioc_id", row.id),
     ("malware", row.malware.getD ""), ("actor", row.actor.getD ""),
     ("campaign", row.campaign.getD "")])

def activeIntelMap (rt : Runtime) (tenantId : String) : Service (List (String × TextMap)) := do
  let rows ← listIocs rt tenantId
  pure (overlay [] (rows.map (intelEntry rt)))

/-- The values of an event that may be indicators. -/
def sightingCandidates (event : CanonicalEvent) : List String :=
  (toSet [event.srcIp, event.dstIp, event.domain, event.hash, event.url,
    event.user.bind (·.email)]).filterMap fun c => if given c then c else none

/-- One turn of the loop of `record_sightings`: the ids of the indicators that match. -/
def sight (rt : Runtime) (tenantId : String) (now : DateTime) (matched : List String)
    (candidate : String) : Service (List String) := do
  let value := rt.strip candidate
  let rows ← select .indicators tenantId fun r =>
    (r.value = value || r.value = rt.lower value) && r.active
  let live ← compute (filterRaising (unexpired now) rows)
  update .indicators fun r =>
    if r ∈ live then
      { r with sightings := r.sightings + 1, lastSeenAt := some now, updatedAt := now }
    else r
  pure (matched ++ live.map (·.id))

def recordSightings (rt : Runtime) (tenantId : String) (event : CanonicalEvent) :
    Service (List String) := do
  let now ← draw (utcnow rt)
  let matched ← Exec.loop (sight rt tenantId now) [] (sightingCandidates event)
  if matched.isEmpty then pure matched
  else do
    flush
    pure matched

/-! ### Graph -/

def entityRecord (entity : GraphEntity) : EntityRecord :=
  { id := entity.id
    tenantId := entity.tenantId
    entityType := entity.entityType
    key := entity.key
    displayName := entity.displayName
    criticality := entity.criticality
    riskScore := entity.riskScore
    riskComponents := entity.riskComponents
    eventIds := entity.eventIds
    findingIds := entity.findingIds
    firstSeen := entity.firstSeen
    lastSeen := entity.lastSeen
    attributes := entity.attributes }

def relationshipRecord (rel : GraphRelationship) : RelationshipRecord :=
  { id := rel.id
    tenantId := rel.tenantId
    srcId := rel.srcId
    dstId := rel.dstId
    relation := rel.relation
    eventIds := rel.eventIds }

/-- `_replace` -/
def replaceGraph (tenantId : String) (graph : EntityGraph) : Service Unit := do
  deleteAll .entities tenantId
  deleteAll .relationships tenantId
  flush
  Exec.loop (fun _ entity => add (t := .entities) (entityRecord entity)) () graph.entities
  Exec.loop (fun _ rel => add (t := .relationships) (relationshipRecord rel)) ()
    graph.relationships
  flush

def projectGraph (rt : Runtime) (tenantId : String) (events : List CanonicalEvent) :
    Service Unit := do
  let findings ← select .findings tenantId fun _ => true
  let stored ← select .entities tenantId fun _ => true
  let graph ← compute (Graph.buildGraph rt events (findings.map (·.payload))
    (stored.map fun row => (row.id, row.criticality)))
  replaceGraph tenantId graph

/-! ### Incidents -/

def timelineEvent (rt : Runtime) (kind actorId summary : String) (detail : JsonObject) :
    Draw Json := do
  let id ← newId rt "itl"
  let at_ ← utcnow rt
  pure (.obj [("id", .str id), ("at", .str at_.isoformat), ("kind", .str kind),
    ("actor_id", .str actorId), ("summary", .str summary), ("detail", .obj detail)])

/-- The names of the stages that rest on a rule, and the correlation rule of the storyline. -/
def findingRuleIds (rt : Runtime) (story : Storyline) : List String :=
  let staged := (story.stages.filter fun stage => !stage.ruleIds.isEmpty).map (·.name)
  let rule := ((story.attributes.lookup "correlation_rule_id").getD (.str "")).text rt
  sortedTexts (toSet (staged ++ words rule))

def createIncident (rt : Runtime) (tenantId fingerprint : String) (story : Storyline)
    (now : DateTime) : Service IncidentRecord := do
  let id ← draw (newId rt "inc")
  let confidence : Json := .float (toString story.confidence ++ ".0")
  let created ← draw (timelineEvent rt "created" "correlation"
    "Incident grouped from correlated storyline" [("confidence", confidence)])
  let incident : IncidentRecord :=
    { id := id
      tenantId := tenantId
      fingerprint := fingerprint
      title := story.title
      status := .grouped
      severity := if 4 / 5 ≤ story.confidence then .high else .medium
      findingRuleIds := findingRuleIds rt story
      eventIds := story.eventIds
      evidenceIds := story.evidenceIds
      mitreTechniques := story.mitreTechniques
      timeline := [created]
      payload := .storyline story
      createdAt := now
      updatedAt := now }
  add (t := .incidents) incident
  flush
  pure incident

def storylineRecord (tenantId fingerprint : String) (story : Storyline)
    (incident : IncidentRecord) : StorylineRecord :=
  { id := story.storylineId
    tenantId := tenantId
    incidentId := some incident.id
    title := story.title
    fingerprint := fingerprint
    confidence := story.confidence
    payload := story
    createdAt := story.start }

/-- Link a storyline to its incident. -/
def linkStoryline (story : Storyline) (incident : IncidentRecord) (now : DateTime) :
    Service Unit :=
  update .incidents fun r =>
    if r = incident ∧ story.storylineId ∉ r.storylineIds then
      { r with storylineIds := r.storylineIds ++ [story.storylineId], updatedAt := now }
    else r

/-- The incident a storyline already has: looked up by its id alone. -/
def incidentOf (existing : Option StorylineRecord) : Service (Option IncidentRecord) :=
  match existing.bind (·.incidentId) with
  | some id => if id = "" then pure none else get .incidents id
  | none => pure none

/-- The incident of the fingerprint, created if there is none. -/
def groupedIncident (rt : Runtime) (tenantId fingerprint : String) (story : Storyline)
    (now : DateTime) : Option IncidentRecord → Service IncidentRecord
  | some incident => pure incident
  | none => createIncident rt tenantId fingerprint story now

/-- One turn of the loop of `persist_storylines_and_incidents`. -/
def persistStory (rt : Runtime) (tenantId : String) (story : Storyline) : Service Unit := do
  let fingerprint := Correlation.incidentFingerprint story
  let existing ← selectOne .storylines tenantId fun r => r.fingerprint = fingerprint
  match ← incidentOf existing with
  | some _ => pure ()
  | none => do
      let found ← selectOne .incidents tenantId fun r => r.fingerprint = fingerprint
      let now ← draw (utcnow rt)
      let incident ← groupedIncident rt tenantId fingerprint story now found
      match existing with
      | some _ => pure ()
      | none => do
          add (t := .storylines) (storylineRecord tenantId fingerprint story incident)
          linkStoryline story incident now

def persistStorylinesAndIncidents (rt : Runtime) (tenantId : String) : Service Unit := do
  let events ← loadWindow tenantId
  let findings ← listFindings tenantId
  let stories ← draw (Correlation.correlate rt events (findings.map (·.payload)))
  Exec.loop (fun _ story => persistStory rt tenantId story) () stories
  flush

/-! ### Ingestion -/

def deadLetter (rt : Runtime) (tenantId : String) (payload : JsonObject) (reason : String) :
    Service Unit := do
  let id ← draw (newId rt "dlq")
  let createdAt ← draw (utcnow rt)
  add (t := .deadLetters)
    { id := id
      tenantId := tenantId
      reason := takeChars 200 reason
      rawPayload := payload
      createdAt := createdAt }

/-- The part of the loop inside the `try`. -/
def normalizeAndEnrich (rt : Runtime) (tenantId : String) (payload : JsonObject) :
    Service CanonicalEvent := do
  let event ← draw (normalizePayload rt payload tenantId)
  let tenantIntel ← activeIntelMap rt tenantId
  let enriched := enrichEvent rt (overlay defaultIntel tenantIntel) event
  let _ ← recordSightings rt tenantId enriched
  pure enriched

/-- The stored event with the same idempotency key. -/
def sameKey (tenantId : String) (event : CanonicalEvent) : Service (Option SecurityEvent) :=
  if given event.idempotencyKey then
    selectOne .events tenantId fun r => r.idempotencyKey = event.idempotencyKey
  else pure none

/-- `best_effort_project`: the object store names the raw event if it takes it. -/
def bestEffortProject (rt : Runtime) (event : CanonicalEvent) : Draw CanonicalEvent :=
  match rt.objectUri event.tenantId event.id with
  | none => pure event
  | some uri => do
      let _ ← newId rt "obj"
      pure (event.setAttribute "raw_object_uri" (.str uri))

def securityEvent (tenantId rawHash : String) (event : CanonicalEvent) : SecurityEvent :=
  { id := event.id
    tenantId := tenantId
    timestamp := event.timestamp
    ingestedAt := event.ingestedAt
    source := event.source
    sourceType := event.sourceType
    eventType := event.eventType
    category := event.category
    action := event.action
    outcome := event.outcome
    srcIp := event.srcIp
    userName := eventUser event
    idempotencyKey := event.idempotencyKey
    rawHash := rawHash
    payload := event }

/-- `event.raw_hash or sha256_hex(canonical_json(event.raw_event or payload))` -/
def rawHashOf (event : CanonicalEvent) (payload : JsonObject) : String :=
  orText event.rawHash
    (sha256Hex (canonicalJson (.obj (if event.rawEvent.isEmpty then payload else event.rawEvent))))

/-- An entry of `rejected`. -/
structure Rejection where
  reason : String
  id : Option String := none
  deriving DecidableEq, Repr

structure IngestResult where
  accepted : List String := []
  duplicates : List String := []
  rejected : List Rejection := []
  findingsCreated : Nat := 0
  deriving DecidableEq, Repr

/-- Store an event that is not there yet and run the detections on it. -/
def acceptEvent (rt : Runtime) (tenantId actorId : String) (payload : JsonObject)
    (acc : IngestResult) (event : CanonicalEvent) : Service IngestResult := do
  let rawHash := rawHashOf event payload
  let event ← draw (bestEffortProject rt event)
  add (t := .events) (securityEvent tenantId rawHash event)
  flush
  let created ← evaluateAndStore rt tenantId actorId event
  pure { acc with
    accepted := acc.accepted ++ [event.id], findingsCreated := acc.findingsCreated + created }

/-- What becomes of an event that was normalised. -/
def placeEvent (rt : Runtime) (tenantId actorId : String) (payload : JsonObject)
    (acc : IngestResult) (event : CanonicalEvent) : Service IngestResult := do
  match ← sameKey tenantId event with
  | some existing => pure { acc with duplicates := acc.duplicates ++ [existing.id] }
  | none =>
      match ← get .events event.id with
      | some existing =>
          if existing.tenantId ≠ tenantId then do
            deadLetter rt tenantId payload "event id collision across tenants"
            pure { acc with
              rejected := acc.rejected ++ [⟨"event id collision", some event.id⟩] }
          else pure { acc with duplicates := acc.duplicates ++ [existing.id] }
      | none => acceptEvent rt tenantId actorId payload acc event

/-- One turn of the loop of `ingest_payloads`. -/
def ingestPayload (rt : Runtime) (tenantId actorId : String) (acc : IngestResult)
    (payload : JsonObject) : Service IngestResult := do
  match ← Exec.attempt (normalizeAndEnrich rt tenantId payload) with
  | .ok event => placeEvent rt tenantId actorId payload acc event
  | .error (.python e) =>
      if e.isValueError then do
        deadLetter rt tenantId payload (e.text rt)
        pure { acc with rejected := acc.rejected ++ [⟨e.text rt, none⟩] }
      else Exec.raise (.python e)
  | .error e => Exec.raise e

/-- The part of `ingest_payloads` after its loop. -/
def projectBatch (rt : Runtime) (tenantId : String) (result : IngestResult) : Service Unit :=
  if result.accepted.isEmpty then pure ()
  else do
    let window ← loadWindow tenantId
    projectGraph rt tenantId window
    persistStorylinesAndIncidents rt tenantId

def ingestPayloads (rt : Runtime) (tenantId actorId : String) (payloads : List JsonObject) :
    Service IngestResult := do
  let result ← Exec.loop (ingestPayload rt tenantId actorId) {} payloads
  projectBatch rt tenantId result
  pure result

/-! ### Requests -/

/-- The calls of a tenant, each one request. -/
inductive Call
  | ingest (actorId : String) (payloads : List JsonObject)
  | scheduled (actorId : String)
  | persist

def Call.body (rt : Runtime) (tenantId : String) : Call → Service Unit
  | .ingest actorId payloads => do
      let _ ← ingestPayloads rt tenantId actorId payloads
      pure ()
  | .scheduled actorId => do
      let _ ← runScheduled rt tenantId actorId
      pure ()
  | .persist => persistStorylinesAndIncidents rt tenantId

/-- The committed state after a list of requests, those that failed rolled back. -/
def runCalls (rt : Runtime) (tenantId : String) (w : World) (calls : List Call) : World :=
  calls.foldl (fun w call => (request (call.body rt tenantId) w).2) w

/-! ### Samples -/

def emptyWorld : World :=
  { session := { stored := fun _ => [], pending := [] } }

def canonicalPayload (id category : String) (more : JsonObject) : JsonObject :=
  [("schema_version", .str "1.0.0"), ("id", .str id), ("source", .str "edr"),
   ("source_type", .str "endpoint"), ("event_type", .str "endpoint"), ("category", .str category),
   ("timestamp", .int 1700000000), ("ingested_at", .int 1700000000), ("raw_hash", .str "00"),
   ("host", .obj [("name", .str "h")])] ++ more

/-- PowerShell with an encoded command, started by PowerPoint: two detections. -/
def officePayload : JsonObject :=
  canonicalPayload "evt_1" "process"
    [("process", .obj [("name", .str "powershell.exe"), ("command_line", .str "-enc AA")]),
     ("parent_process", .obj [("name", .str "powerpnt.exe")])]

/-- A connection of the same host: a third one. -/
def beaconPayload : JsonObject :=
  canonicalPayload "evt_2" "network" [("dst_ip", .str "203.0.113.9")]

end BlueTeam.Services
