/- GID: BlueTeam/Api/Intel
   generality: I
   source: services/api/app/api/intel.py, services/api/app/services/intel.py
   digest: The endpoints of the indicators. -/

import BlueTeam.Api.Center
import BlueTeam.Services.Expiry

set_option autoImplicit false
set_option relaxedAutoImplicit false

namespace BlueTeam.Api

open BlueTeam.Python BlueTeam.Schema BlueTeam.Lib BlueTeam.Services BlueTeam.Audit

structure IocBody where
  indicatorType : String
  value : String
  source : String
  confidence : PyFloat := .finite (7 / 10)
  ttlHours : Int := 168
  malware : Option String := none
  actor : Option String := none
  campaign : Option String := none
  mitreTechniques : List String := []
  tags : List String := []
  provenance : JsonObject := []

/-- `serialize_ioc` -/
structure IocReply where
  id : String
  indicatorType : String
  value : String
  source : String
  confidence : PyFloat
  ttlHours : Int
  expiresAt : String
  expired : Bool
  active : Bool
  malware : Option String
  actor : Option String
  campaign : Option String
  mitreTechniques : List String
  tags : List String
  sightings : Int
  lastSeenAt : Option String
  provenance : JsonObject
  createdAt : String
  createdBy : String
  updatedAt : String

section

variable (rt : Runtime) (actor : TenantActor)

def serializeIoc (row : IndicatorOfCompromise) : Endpoint IocReply := do
  let now ← service (draw (utcnow rt))
  let expired ← service (compute (stale now row))
  pure
    { id := row.id
      indicatorType := row.indicatorType
      value := row.value
      source := row.source
      confidence := row.confidence
      ttlHours := row.ttlHours
      expiresAt := row.expiresAt.asUtc.isoformat
      expired := expired
      active := row.active && !expired
      malware := row.malware
      actor := row.actor
      campaign := row.campaign
      mitreTechniques := row.mitreTechniques
      tags := row.tags
      sightings := row.sightings
      lastSeenAt := row.lastSeenAt.map fun seen => seen.asUtc.isoformat
      provenance := row.provenance
      createdAt := row.createdAt.asUtc.isoformat
      createdBy := row.createdBy
      updatedAt := row.updatedAt.asUtc.isoformat }

/-- The audit entries of the indicators: their actor counts as a user. -/
def iocEntry (action : String) : AuditEntry :=
  { actor.entry action "ioc" with actorType := "user" }

/-- `get_iocs`: reading the list lets what is over expire. -/
def getIocs (includeExpired : Bool) : Endpoint (List IocReply) := do
  let _ ← service (expireStale rt actor.tenantId)
  let rows ← service (if includeExpired then listAllIocs actor.tenantId
    else listIocs rt actor.tenantId)
  Exec.loop (fun replies row => do
    let reply ← serializeIoc rt row
    pure (replies ++ [reply])) [] rows

def IocBody.request (body : IocBody) : IocRequest where
  indicatorType := body.indicatorType
  value := body.value
  source := body.source
  confidence := body.confidence
  ttlHours := body.ttlHours
  actorId := actor.userId
  malware := body.malware
  actor := body.actor
  campaign := body.campaign
  mitreTechniques := some body.mitreTechniques
  tags := some body.tags
  provenance := some body.provenance

def createIoc (body : IocBody) : Endpoint IocReply := do
  let row ← service (upsertIoc rt actor.tenantId (body.request actor))
  writeAudit rt
    { iocEntry actor "intel.ioc_upsert" with
      targetId := some row.id
      afterState := some [("type", .str row.indicatorType), ("value", .str row.value),
        ("source", .str row.source)] }
  serializeIoc rt row

def readIoc (iocId : String) : Endpoint IocReply := do
  let row ← service (Services.getIoc actor.tenantId iocId)
  serializeIoc rt row

/-- `deactivate` -/
def deactivate (iocId : String) : Endpoint IocReply := do
  let found ← service (Services.getIoc actor.tenantId iocId)
  let row ← service (deactivateIoc rt found actor.userId)
  writeAudit rt { iocEntry actor "intel.ioc_deactivate" with targetId := some row.id }
  serializeIoc rt row

/-- `expire` -/
def expireIocs : Endpoint Nat := do
  let count ← service (expireStale rt actor.tenantId)
  writeAudit rt
    { iocEntry actor "intel.expire" with afterState := some [("expired", .int count)] }
  pure count

end

end BlueTeam.Api
