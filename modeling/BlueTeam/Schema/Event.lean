/- GID: BlueTeam/Schema/Event
   generality: I
   source: packages/schemas/blueteam_schemas/events.py
   digest: The canonical event and its validation: every source maps here before detection. -/

import BlueTeam.Python.Runtime

set_option autoImplicit false
set_option relaxedAutoImplicit false

namespace BlueTeam.Schema

open BlueTeam.Python

inductive Severity
  | informational
  | low
  | medium
  | high
  | critical
  deriving DecidableEq, Repr, Inhabited

def Severity.text : Severity → String
  | .informational => "informational"
  | .low => "low"
  | .medium => "medium"
  | .high => "high"
  | .critical => "critical"

inductive Outcome
  | success
  | failure
  | unknown
  deriving DecidableEq, Repr, Inhabited

def Outcome.text : Outcome → String
  | .success => "success"
  | .failure => "failure"
  | .unknown => "unknown"

structure CanonicalUser where
  name : Option String := none
  id : Option String := none
  email : Option String := none
  domain : Option String := none
  deriving DecidableEq, Repr, Inhabited

structure CanonicalHost where
  name : Option String := none
  id : Option String := none
  os : Option String := none
  ip : Option String := none
  deriving DecidableEq, Repr, Inhabited

structure CanonicalProcess where
  name : Option String := none
  pid : Option Int := none
  commandLine : Option String := none
  hash : Option String := none
  path : Option String := none
  deriving DecidableEq, Repr, Inhabited

structure CanonicalFile where
  name : Option String := none
  path : Option String := none
  hashMd5 : Option String := none
  hashSha1 : Option String := none
  hashSha256 : Option String := none
  size : Option Int := none
  deriving DecidableEq, Repr, Inhabited

structure CanonicalIdentity where
  id : Option String := none
  type : Option String := none
  provider : Option String := none
  deriving DecidableEq, Repr, Inhabited

structure CanonicalCloudResource where
  provider : Option String := none
  accountId : Option String := none
  resourceId : Option String := none
  resourceType : Option String := none
  region : Option String := none
  deriving DecidableEq, Repr, Inhabited

structure CanonicalEvent where
  id : String
  tenantId : String
  timestamp : DateTime
  ingestedAt : DateTime
  source : String
  sourceType : String
  eventType : String
  category : String
  user : Option CanonicalUser := none
  host : Option CanonicalHost := none
  process : Option CanonicalProcess := none
  parentProcess : Option CanonicalProcess := none
  srcIp : Option String := none
  dstIp : Option String := none
  srcPort : Option Int := none
  dstPort : Option Int := none
  protocol : Option String := none
  domain : Option String := none
  url : Option String := none
  file : Option CanonicalFile := none
  hash : Option String := none
  identity : Option CanonicalIdentity := none
  cloudResource : Option CanonicalCloudResource := none
  action : Option String := none
  outcome : Option Outcome := none
  severity : Severity := .informational
  confidence : PyFloat := .finite 1
  riskScore : PyFloat := .finite 0
  rawEvent : JsonObject := []
  schemaVersion : String := "1.0.0"
  attributes : JsonObject := []
  idempotencyKey : Option String := none
  correlationId : Option String := none
  traceId : Option String := none
  rawHash : Option String := none
  deriving DecidableEq, Repr

/-- `event.attributes[key] = value` -/
def CanonicalEvent.setAttribute (event : CanonicalEvent) (key : String) (value : Json) :
    CanonicalEvent :=
  { event with attributes := Json.setKey event.attributes key value }

/-- A keyword argument of a model: JSON from a payload, or a value an adapter has built. -/
inductive Arg
  | json (v : Json)
  | datetime (d : DateTime)
  | user (u : CanonicalUser)
  | host (h : CanonicalHost)
  | process (p : CanonicalProcess)
  | file (f : CanonicalFile)

/-- The JSON a refused argument is reported with. -/
def Arg.input : Arg → Option Json
  | .json v => some v
  | _ => none

abbrev Kwargs := List (String × Arg)

/-- The keyword arguments of `model_validate(fields)`. -/
def Kwargs.ofObject (fields : JsonObject) : Kwargs :=
  fields.map fun f => (f.1, .json f.2)

/-- A validated field; pydantic goes on after an error and reports all of them. -/
structure Field (α : Type) where
  value : α
  errors : List (String × Option Json)

namespace Field

variable {α : Type}

/-- A check of the argument found at a location. -/
abbrev Check (α : Type) := String → Arg → Field α

def good (v : α) : Field α :=
  ⟨v, []⟩

def bad [Inhabited α] (loc : String) (a : Arg) : Field α :=
  ⟨default, [(loc, a.input)]⟩

def ofOption [Inhabited α] (loc : String) (a : Arg) : Option α → Field α
  | some v => good v
  | none => bad loc a

/-- `name: T` -/
def required [Inhabited α] (kw : Kwargs) (check : Check α) (loc name : String) : Field α :=
  match kw.lookup name with
  | some a => check (loc ++ name) a
  | none => ⟨default, [(loc ++ name, none)]⟩

/-- `name: T | None = None` -/
def optional (kw : Kwargs) (check : Check α) (loc name : String) : Field (Option α) :=
  match kw.lookup name with
  | none | some (.json .null) => good none
  | some a => ⟨some (check (loc ++ name) a).value, (check (loc ++ name) a).errors⟩

/-- `name: T = v` -/
def withDefault (kw : Kwargs) (check : Check α) (v : α) (loc name : String) : Field α :=
  match kw.lookup name with
  | none => good v
  | some a => check (loc ++ name) a

/-- Construction of a model: it raises when a field was refused. -/
def construct (model : String) (f : Field α) : Except Exn α :=
  if f.errors.isEmpty then .ok f.value else .error (.validationError model f.errors)

def str : Check String := fun loc a =>
  ofOption loc a (match a with
    | .json (.str s) => some s
    | _ => none)

def int (rt : Runtime) : Check Int := fun loc a =>
  ofOption loc a (match a with
    | .json v => rt.validInt v
    | _ => none)

def datetime (rt : Runtime) : Check DateTime := fun loc a =>
  ofOption loc a (match a with
    | .datetime d => some d
    | .json v => rt.validDatetime v
    | _ => none)

def dict : Check JsonObject := fun loc a =>
  ofOption loc a (match a with
    | .json (.obj fields) => some fields
    | _ => none)

def literal [Inhabited α] (values : List α) (text : α → String) : Check α := fun loc a =>
  ofOption loc a (match a with
    | .json (.str s) => values.find? fun v => text v = s
    | _ => none)

def severityLiteral : Check Severity :=
  literal [.informational, .low, .medium, .high, .critical] Severity.text

def outcomeLiteral : Check Outcome :=
  literal [.success, .failure, .unknown] Outcome.text

/-- A float that passes `_bounded`. -/
def bounded (rt : Runtime) : Check PyFloat := fun loc a =>
  ofOption loc a (match a with
    | .json v => (rt.validFloat v).filter fun x => !x.outsidePercent
    | _ => none)

/-- A text that passes `_tenant_required`. -/
def tenantRequired : Check String := fun loc a =>
  ofOption loc a (match a with
    | .json (.str s) => if s.startsWith "ten_" then some s else none
    | _ => none)

/-- A nested model: an instance as it is, a dict by the model's own fields. -/
def nested [Inhabited α] (instance? : Arg → Option α) (fields : Kwargs → String → Field α) :
    Check α := fun loc a =>
  match instance? a, a with
  | some v, _ => good v
  | none, .json (.obj o) => fields (.ofObject o) (loc ++ ".")
  | none, a => bad loc a

end Field

open BlueTeam.Schema.Field

def CanonicalUser.fields (kw : Kwargs) (loc : String) : Field CanonicalUser :=
  let name := optional kw str loc "name"
  let id := optional kw str loc "id"
  let email := optional kw str loc "email"
  let domain := optional kw str loc "domain"
  { value := ⟨name.value, id.value, email.value, domain.value⟩
    errors := name.errors ++ id.errors ++ email.errors ++ domain.errors }

def CanonicalHost.fields (kw : Kwargs) (loc : String) : Field CanonicalHost :=
  let name := optional kw str loc "name"
  let id := optional kw str loc "id"
  let os := optional kw str loc "os"
  let ip := optional kw str loc "ip"
  { value := ⟨name.value, id.value, os.value, ip.value⟩
    errors := name.errors ++ id.errors ++ os.errors ++ ip.errors }

def CanonicalProcess.fields (rt : Runtime) (kw : Kwargs) (loc : String) : Field CanonicalProcess :=
  let name := optional kw str loc "name"
  let pid := optional kw (int rt) loc "pid"
  let commandLine := optional kw str loc "command_line"
  let hash := optional kw str loc "hash"
  let path := optional kw str loc "path"
  { value := ⟨name.value, pid.value, commandLine.value, hash.value, path.value⟩
    errors := name.errors ++ pid.errors ++ commandLine.errors ++ hash.errors ++ path.errors }

def CanonicalFile.fields (rt : Runtime) (kw : Kwargs) (loc : String) : Field CanonicalFile :=
  let name := optional kw str loc "name"
  let path := optional kw str loc "path"
  let hashMd5 := optional kw str loc "hash_md5"
  let hashSha1 := optional kw str loc "hash_sha1"
  let hashSha256 := optional kw str loc "hash_sha256"
  let size := optional kw (int rt) loc "size"
  { value := ⟨name.value, path.value, hashMd5.value, hashSha1.value, hashSha256.value, size.value⟩
    errors := name.errors ++ path.errors ++ hashMd5.errors ++ hashSha1.errors ++
      hashSha256.errors ++ size.errors }

def CanonicalIdentity.fields (kw : Kwargs) (loc : String) : Field CanonicalIdentity :=
  let id := optional kw str loc "id"
  let type := optional kw str loc "type"
  let provider := optional kw str loc "provider"
  { value := ⟨id.value, type.value, provider.value⟩
    errors := id.errors ++ type.errors ++ provider.errors }

def CanonicalCloudResource.fields (kw : Kwargs) (loc : String) : Field CanonicalCloudResource :=
  let provider := optional kw str loc "provider"
  let accountId := optional kw str loc "account_id"
  let resourceId := optional kw str loc "resource_id"
  let resourceType := optional kw str loc "resource_type"
  let region := optional kw str loc "region"
  { value := ⟨provider.value, accountId.value, resourceId.value, resourceType.value, region.value⟩
    errors := provider.errors ++ accountId.errors ++ resourceId.errors ++ resourceType.errors ++
      region.errors }

def Arg.asUser : Arg → Option CanonicalUser
  | .user u => some u
  | _ => none

def Arg.asHost : Arg → Option CanonicalHost
  | .host h => some h
  | _ => none

def Arg.asProcess : Arg → Option CanonicalProcess
  | .process p => some p
  | _ => none

def Arg.asFile : Arg → Option CanonicalFile
  | .file f => some f
  | _ => none

def CanonicalEvent.fields (rt : Runtime) (kw : Kwargs) : Field CanonicalEvent :=
  let processCheck : Check CanonicalProcess := nested Arg.asProcess (CanonicalProcess.fields rt)
  let id := required kw str "" "id"
  let tenantId := required kw tenantRequired "" "tenant_id"
  let timestamp := required kw (datetime rt) "" "timestamp"
  let ingestedAt := required kw (datetime rt) "" "ingested_at"
  let source := required kw str "" "source"
  let sourceType := required kw str "" "source_type"
  let eventType := required kw str "" "event_type"
  let category := required kw str "" "category"
  let user := optional kw (nested Arg.asUser CanonicalUser.fields) "" "user"
  let host := optional kw (nested Arg.asHost CanonicalHost.fields) "" "host"
  let process := optional kw processCheck "" "process"
  let parentProcess := optional kw processCheck "" "parent_process"
  let srcIp := optional kw str "" "src_ip"
  let dstIp := optional kw str "" "dst_ip"
  let srcPort := optional kw (int rt) "" "src_port"
  let dstPort := optional kw (int rt) "" "dst_port"
  let protocol := optional kw str "" "protocol"
  let domain := optional kw str "" "domain"
  let url := optional kw str "" "url"
  let file := optional kw (nested Arg.asFile (CanonicalFile.fields rt)) "" "file"
  let hash := optional kw str "" "hash"
  let identity := optional kw (nested (fun _ => none) CanonicalIdentity.fields) "" "identity"
  let cloudResource :=
    optional kw (nested (fun _ => none) CanonicalCloudResource.fields) "" "cloud_resource"
  let action := optional kw str "" "action"
  let outcome := optional kw outcomeLiteral "" "outcome"
  let severity := withDefault kw severityLiteral .informational "" "severity"
  let confidence := withDefault kw (bounded rt) (.finite 1) "" "confidence"
  let riskScore := withDefault kw (bounded rt) (.finite 0) "" "risk_score"
  let rawEvent := withDefault kw dict [] "" "raw_event"
  let schemaVersion := withDefault kw str "1.0.0" "" "schema_version"
  let attributes := withDefault kw dict [] "" "attributes"
  let idempotencyKey := optional kw str "" "idempotency_key"
  let correlationId := optional kw str "" "correlation_id"
  let traceId := optional kw str "" "trace_id"
  let rawHash := optional kw str "" "raw_hash"
  { value :=
      { id := id.value, tenantId := tenantId.value, timestamp := timestamp.value
        ingestedAt := ingestedAt.value, source := source.value, sourceType := sourceType.value
        eventType := eventType.value, category := category.value, user := user.value
        host := host.value, process := process.value, parentProcess := parentProcess.value
        srcIp := srcIp.value, dstIp := dstIp.value, srcPort := srcPort.value
        dstPort := dstPort.value, protocol := protocol.value, domain := domain.value
        url := url.value, file := file.value, hash := hash.value, identity := identity.value
        cloudResource := cloudResource.value, action := action.value, outcome := outcome.value
        severity := severity.value, confidence := confidence.value, riskScore := riskScore.value
        rawEvent := rawEvent.value, schemaVersion := schemaVersion.value
        attributes := attributes.value, idempotencyKey := idempotencyKey.value
        correlationId := correlationId.value, traceId := traceId.value, rawHash := rawHash.value }
    errors := id.errors ++ tenantId.errors ++ timestamp.errors ++ ingestedAt.errors ++
      source.errors ++ sourceType.errors ++ eventType.errors ++ category.errors ++ user.errors ++
      host.errors ++ process.errors ++ parentProcess.errors ++ srcIp.errors ++ dstIp.errors ++
      srcPort.errors ++ dstPort.errors ++ protocol.errors ++ domain.errors ++ url.errors ++
      file.errors ++ hash.errors ++ identity.errors ++ cloudResource.errors ++ action.errors ++
      outcome.errors ++ severity.errors ++ confidence.errors ++ riskScore.errors ++
      rawEvent.errors ++ schemaVersion.errors ++ attributes.errors ++ idempotencyKey.errors ++
      correlationId.errors ++ traceId.errors ++ rawHash.errors }

def CanonicalUser.new (kw : Kwargs) : Except Exn CanonicalUser :=
  construct "CanonicalUser" (CanonicalUser.fields kw "")

def CanonicalHost.new (kw : Kwargs) : Except Exn CanonicalHost :=
  construct "CanonicalHost" (CanonicalHost.fields kw "")

def CanonicalProcess.new (rt : Runtime) (kw : Kwargs) : Except Exn CanonicalProcess :=
  construct "CanonicalProcess" (CanonicalProcess.fields rt kw "")

def CanonicalFile.new (rt : Runtime) (kw : Kwargs) : Except Exn CanonicalFile :=
  construct "CanonicalFile" (CanonicalFile.fields rt kw "")

def CanonicalEvent.new (rt : Runtime) (kw : Kwargs) : Except Exn CanonicalEvent :=
  construct "CanonicalEvent" (CanonicalEvent.fields rt kw)

def CanonicalEvent.modelValidate (rt : Runtime) (fields : JsonObject) : Except Exn CanonicalEvent :=
  CanonicalEvent.new rt (.ofObject fields)

end BlueTeam.Schema
