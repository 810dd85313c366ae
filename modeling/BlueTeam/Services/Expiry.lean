/- GID: BlueTeam/Services/Expiry
   generality: I
   source: services/api/app/services/intel.py
   digest: How indicators end: an analyst withdraws them, or their time is over. -/

import BlueTeam.Services.Indicators

set_option autoImplicit false
set_option relaxedAutoImplicit false

namespace BlueTeam.Services

open BlueTeam.Python BlueTeam.Schema BlueTeam.Lib BlueTeam.Lib.Exec BlueTeam.Detection

def getIoc (tenantId iocId : String) : Service IndicatorOfCompromise := do
  match ← selectOne .indicators tenantId fun r => r.id = iocId with
  | none => Exec.raise (.blueTeamError "NOT_FOUND" "IOC not found" 404)
  | some row => pure row

/-- What `deactivate_ioc` makes of a row. -/
def deactivated (actorId : String) (updatedAt deactivatedAt : DateTime)
    (r : IndicatorOfCompromise) : IndicatorOfCompromise :=
  { r with
    active := false
    updatedAt := updatedAt
    provenance := Json.setKey (Json.setKey r.provenance "deactivated_by" (.str actorId))
      "deactivated_at" (.str deactivatedAt.isoformat) }

def deactivateIoc (rt : Runtime) (row : IndicatorOfCompromise) (actorId : String) :
    Service IndicatorOfCompromise := do
  let updatedAt ← draw (utcnow rt)
  let deactivatedAt ← draw (utcnow rt)
  update .indicators fun r =>
    if r.id = row.id then deactivated actorId updatedAt deactivatedAt r else r
  flush
  pure (deactivated actorId updatedAt deactivatedAt row)

/-- What `expire_stale` makes of a row. -/
def expiredRow (now : DateTime) (r : IndicatorOfCompromise) : IndicatorOfCompromise :=
  { r with
    active := false
    provenance := Json.setKey r.provenance "expired_at" (.str now.isoformat)
    updatedAt := now }

/-- `as_utc(row.expires_at) <= now` -/
def stale (now : DateTime) (row : IndicatorOfCompromise) : Except Exn Bool :=
  (unexpired now row).map (!·)

def expireStale (rt : Runtime) (tenantId : String) : Service Nat := do
  let now ← draw (utcnow rt)
  let rows ← select .indicators tenantId fun r => r.active
  let expiredRows ← compute (filterRaising (stale now) rows)
  update .indicators fun r => if expiredRows.contains r then expiredRow now r else r
  if expiredRows.isEmpty then pure expiredRows.length
  else do
    flush
    pure expiredRows.length

/-- `list_iocs` with the expired ones, latest update first. -/
def listAllIocs (tenantId : String) : Service (List IndicatorOfCompromise) := do
  let rows ← select .indicators tenantId fun _ => true
  pure (rows.insertionSort fun a b => b.updatedAt.wall ≤ a.updatedAt.wall)

end BlueTeam.Services
