/- GID: BlueTeam/Api/Intake
   generality: I
   source: services/api/app/api/events.py, connectors.py,
     packages/ingest-adapters/blueteam_ingest/webhook.py
   digest: The endpoints that take events in: as objects, as log lines, from webhooks and from
     Wazuh. -/

import BlueTeam.Api.Center

set_option autoImplicit false
set_option relaxedAutoImplicit false

namespace BlueTeam.Api

open BlueTeam.Python BlueTeam.Schema BlueTeam.Lib BlueTeam.Services BlueTeam.Audit

/-! ### Webhooks -/

/-- `_stamp` -/
def stamp (item : JsonObject) (source : String) (adapter : Json) : JsonObject :=
  let stamped := Json.setDefault (Json.setDefault item "source" (.str source)) "source_type"
    (.str source)
  if adapter.truthy then Json.setDefault stamped "adapter" adapter else stamped

/-- The objects of the list `events`, each stamped. -/
def stampItems (source : String) (adapter : Json) : List Json → Except Exn (List JsonObject)
  | [] => .ok []
  | .obj fields :: items => do
      let rest ← stampItems source adapter items
      pure (stamp fields source adapter :: rest)
  | _ :: _ => .error (.valueError "webhook events must be objects")

/-- A webhook without a list of events is one event, if it says of which kind. -/
def normalizeSingle (payload : JsonObject) (source : String) : Except Exn (List JsonObject) :=
  if (Json.getFirst payload ["schema_version", "event_type", "type"]).truthy then
    .ok [stamp payload source (Json.get payload "adapter")]
  else .error (.valueError "webhook payload must include events[] or a single event object")

def normalizeWebhook (payload : JsonObject) (source : String) : Except Exn (List JsonObject) :=
  match payload.lookup "events" with
  | some (.arr items) => stampItems source (Json.get payload "adapter") items
  | _ => normalizeSingle payload source

structure WebhookRequest where
  source : String := "webhook"
  adapter : Option String := none
  events : Option (List JsonObject) := none
  payload : Option JsonObject := none

/-- `body.payload or {"events": body.events or []}`, with the adapter of the body. -/
def WebhookRequest.raw (body : WebhookRequest) : JsonObject :=
  let given := body.payload.getD []
  let raw := if given.isEmpty then [("events", .arr ((body.events.getD []).map .obj))] else given
  if Python.given body.adapter then Json.setKey raw "adapter" (Json.ofOption body.adapter) else raw

/-! ### Endpoints -/

/-- `Field(min_length=1, max_length=1000)` -/
def batchLength {α : Type} (items : List α) : Endpoint Unit :=
  if 1 ≤ items.length ∧ items.length ≤ 1000 then pure () else Exec.raise .requestValidation

def countsJson (result : IngestResult) : JsonObject :=
  [("accepted", .int result.accepted.length), ("rejected", .int result.rejected.length)]

section

variable (rt : Runtime) (actor : TenantActor)

/-- What the endpoints do with their payloads. -/
def takeIn (payloads : List JsonObject) (entry : IngestResult → AuditEntry) :
    Endpoint IngestResult := do
  let result ← service (ingestPayloads rt actor.tenantId actor.userId payloads)
  writeAudit rt (entry result)
  pure result

/-- `ingest` -/
def ingestEvents (events : List JsonObject) : Endpoint IngestResult := do
  batchLength events
  takeIn rt actor events fun result =>
    { actor.entry "events.ingest" "security_event" with afterState := some (countsJson result) }

def ingestSyslog (lines : List String) : Endpoint IngestResult := do
  batchLength lines
  let payloads : List JsonObject :=
    lines.map fun line => [("adapter", .str "syslog"), ("syslog_raw", .str line)]
  takeIn rt actor payloads fun result =>
    { actor.entry "events.ingest.syslog" "security_event" with
      afterState := some (countsJson result) }

def ingestWebhook (body : WebhookRequest) : Endpoint IngestResult := do
  let payloads ← service (compute (normalizeWebhook body.raw body.source))
  takeIn rt actor payloads fun result =>
    { actor.entry "events.ingest.webhook" "security_event" with
      afterState := some (countsJson result) }

def wazuhIngest (alerts : List JsonObject) : Endpoint IngestResult :=
  takeIn rt actor (alerts.map fun alert => Json.setKey alert "adapter" (.str "wazuh")) fun result =>
    { actor.entry "connector.wazuh.ingest" "connector" with
      actorType := "user"
      targetId := some "wazuh"
      afterState := some [("accepted", .int result.accepted.length)] }

end

end BlueTeam.Api
