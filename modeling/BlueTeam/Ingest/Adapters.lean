/- GID: BlueTeam/Ingest/Adapters
   generality: I
   source: packages/network-adapters/blueteam_network/normalize.py,
     packages/endpoint-adapters/blueteam_endpoint/normalize.py,
     packages/ingest-adapters/blueteam_ingest/syslog.py
   digest: Zeek, Suricata, Sysmon, Wazuh, osquery, Linux audit and syslog to canonical events. -/

import BlueTeam.Hashing
import BlueTeam.Schema.Event

set_option autoImplicit false
set_option relaxedAutoImplicit false

namespace BlueTeam.Ingest

open BlueTeam.Python BlueTeam.Schema BlueTeam.Lib

/-- The `raw_hash` of an adapter. -/
def rawDigest (raw : JsonObject) : String :=
  sha256Hex (canonicalJson (.obj raw))

/-- `int(v) if v else None` -/
def intIfGiven (rt : Runtime) (v : Json) : Except Exn Json :=
  if v.truthy then (v.toInt rt).map .int else .ok .null

/-- `value or {}`, used as a dict -/
def dictOr (v : Json) : Except Exn JsonObject :=
  (Json.orElse v (.obj [])).asDict

/-- `str(value).replace("Z", "+00:00")` read by `fromisoformat`, naive texts as UTC. -/
def isoTimestamp (rt : Runtime) (v : Json) : Except Exn DateTime :=
  ((rt.fromisoformat (replaceZ (v.text rt))).mapError .valueError).map DateTime.assumeUtc

/-- `str(given or new_id("evt"))` -/
def eventIdFrom (rt : Runtime) (given : Json) : Draw String :=
  if given.truthy then pure (given.text rt) else newId rt "evt"

/-- `_ts(given or utcnow())` -/
def timestampFrom (rt : Runtime) (given : Json) (read : Json → Except Exn DateTime) :
    Draw DateTime :=
  if given.truthy then Exec.lift (read given) else utcnow rt

namespace Network

def zeekSources : List String := ["conn", "dns", "http", "ssl", "tls", "files", "notice"]

def suricataSources : List String := ["alert", "flow", "dns", "http", "tls", "fileinfo"]

/-- `_ts` -/
def timestampOf (rt : Runtime) (v : Json) : Except Exn DateTime :=
  match v with
  | .int _ | .float _ | .bool _ => rt.fromtimestamp v
  | v => isoTimestamp rt v

/-- Ids without the prefix of events are replaced. -/
def prefixedId (rt : Runtime) (claimed : String) : Draw String :=
  if claimed.startsWith "evt_" then pure claimed else newId rt "evt"

/-- `_event` -/
def event (rt : Runtime) (tenantId source sourceType eventType category : String)
    (raw : JsonObject) (fields : Kwargs) : Draw CanonicalEvent := do
  let claimed ← eventIdFrom rt (Json.getFirst raw ["uid", "flow_id", "id"])
  let eventId ← prefixedId rt claimed
  let timestamp ← timestampFrom rt (Json.getFirst raw ["ts", "timestamp"]) (timestampOf rt)
  let ingestedAt ← utcnow rt
  Exec.lift (CanonicalEvent.new rt
    ([("id", .json (.str eventId)), ("tenant_id", .json (.str tenantId)),
      ("timestamp", .datetime timestamp), ("ingested_at", .datetime ingestedAt),
      ("source", .json (.str source)), ("source_type", .json (.str sourceType)),
      ("event_type", .json (.str eventType)), ("category", .json (.str category)),
      ("schema_version", .json (.str "1.0.0")), ("raw_event", .json (.obj raw)),
      ("raw_hash", .json (.str (rawDigest raw)))] ++ fields))

def zeekCategory : String → String
  | "conn" => "network"
  | "dns" => "dns"
  | "http" => "http"
  | "ssl" => "tls"
  | "tls" => "tls"
  | "files" => "file"
  | _ => "notice"

/-- `CanonicalHost(ip=src) if src else None` -/
def hostOfIp (src : Json) : Except Exn Arg :=
  if src.truthy then (CanonicalHost.new [("ip", .json src)]).map .host else .ok (.json .null)

/-- The file of a `files` log, and the raw event with its hash beside it. -/
def zeekFile (rt : Runtime) (kind : String) (raw : JsonObject) : Except Exn (Arg × JsonObject) :=
  if kind = "files" then
    (CanonicalFile.new rt [("path", .json (Json.get raw "filename")),
      ("hash_sha256", .json (Json.get raw "sha256")), ("hash_md5", .json (Json.get raw "md5"))]).map
      fun file => (.file file, Json.setKey raw "file_hash" (Json.getFirst raw ["sha256", "md5"]))
  else .ok (.json .null, raw)

/-- The fields `normalize_zeek` hands to `_event`, with the raw event they belong to. -/
def zeekFields (rt : Runtime) (kind : String) (raw : JsonObject) :
    Except Exn (JsonObject × Kwargs) := do
  let idObj := match Json.get raw "id" with
    | .obj fields => fields
    | _ => []
  let pick (name : String) : Json :=
    Json.orElse (Json.getFirst raw ["id." ++ name, name]) (Json.get idObj name)
  let src := pick "orig_h"
  let dst := pick "resp_h"
  let sport := pick "orig_p"
  let dport := pick "resp_p"
  let proto := Json.getFirst raw ["proto", "protocol"]
  let (file, raw) ← zeekFile rt kind raw
  let srcPort ← intIfGiven rt sport
  let dstPort ← intIfGiven rt dport
  let host ← hostOfIp src
  let failed ← (Json.get raw "rcode_name").inSet ["NXDOMAIN", "SERVFAIL"]
  let shown (keys : List String) : Json :=
    .str ((Json.orElse (Json.getFirst raw keys) (.str "")).text rt)
  pure (raw,
    [("src_ip", .json src), ("dst_ip", .json dst), ("src_port", .json srcPort),
     ("dst_port", .json dstPort),
     ("protocol", .json (if proto.truthy then .str (proto.text rt) else .null)),
     ("domain", .json (Json.getFirst raw ["query", "server_name", "host"])),
     ("url", .json (Json.get raw "uri")), ("file", file), ("host", host),
     ("action", .json (Json.orElse (Json.getFirst raw ["note", "method"]) (.str kind))),
     ("outcome", .json (.str (if failed then "failure" else "success"))),
     ("attributes", .json (.obj
       [("zeek_uid", shown ["uid"]), ("bytes_out", shown ["orig_bytes", "request_body_len"]),
        ("bytes_in", shown ["resp_bytes", "response_body_len"]),
        ("raw_reference", .str (rawDigest raw))]))])

def normalizeZeek (rt : Runtime) (raw : JsonObject) (tenantId : String) : Draw CanonicalEvent := do
  let name ← Exec.lift (Json.orElse (Json.getFirst raw ["_path", "log_type"]) (.str "conn")).asText
  let kind := rt.lower name
  if kind ∉ zeekSources then
    Exec.raise (.valueError s!"unsupported Zeek log type {kind}")
  else do
    let (raw, fields) ← Exec.lift (zeekFields rt kind raw)
    event rt tenantId ("zeek." ++ kind) "zeek" kind (zeekCategory kind) raw fields

/-- `(raw.get(name) or {}).get(key)` -/
def nestedGet (raw : JsonObject) (name key : String) : Except Exn Json :=
  (dictOr (Json.get raw name)).map fun fields => Json.get fields key

/-- `a or b` where `b` may raise -/
def orElseM (a : Except Exn Json) (b : Except Exn Json) : Except Exn Json := do
  let v ← a
  if v.truthy then pure v else b

def suricataSeverity (level : Int) : Severity :=
  if level = 1 then .high else if level = 2 then .medium else .low

def suricataFile (rt : Runtime) (kind : String) (fileinfo : Json) : Except Exn Arg :=
  if kind = "fileinfo" ∨ fileinfo.truthy then do
    let info ← fileinfo.asDict
    let file ← CanonicalFile.new rt [("path", .json (Json.get info "filename")),
      ("size", .json (Json.get info "size")), ("hash_sha256", .json (Json.get info "sha256")),
      ("hash_md5", .json (Json.get info "md5"))]
    pure (.file file)
  else pure (.json .null)

/-- The fields `normalize_suricata` hands to `_event`. -/
def suricataFields (rt : Runtime) (kind : String) (raw : JsonObject) : Except Exn Kwargs := do
  let src := Json.get raw "src_ip"
  let alert ← dictOr (Json.get raw "alert")
  let level ← (Json.orElse (Json.get alert "severity") (.int 3)).toInt rt
  let file ← suricataFile rt kind (Json.orElse (Json.get raw "fileinfo") (.obj []))
  let domain ← orElseM (nestedGet raw "dns" "rrname")
    (orElseM (nestedGet raw "tls" "sni") (nestedGet raw "http" "hostname"))
  let url ← nestedGet raw "http" "url"
  let host ← hostOfIp src
  let shown (fields : JsonObject) (key : String) : Json :=
    .str ((Json.orElse (Json.get fields key) (.str "")).text rt)
  pure
    [("src_ip", .json src), ("dst_ip", .json (Json.get raw "dest_ip")),
     ("src_port", .json (Json.get raw "src_port")), ("dst_port", .json (Json.get raw "dest_port")),
     ("protocol", .json (Json.get raw "proto")), ("domain", .json domain), ("url", .json url),
     ("file", file), ("host", host),
     ("action", .json (Json.orElse (Json.get alert "signature") (.str kind))),
     ("severity", .json (.str
       (if kind = "alert" then suricataSeverity level else .informational).text)),
     ("confidence", .json (.int (if kind = "alert" then 70 else 100))),
     ("attributes", .json (.obj
       [("suricata_flow_id", shown raw "flow_id"), ("signature", shown alert "signature"),
        ("signature_id", shown alert "signature_id"), ("category", shown alert "category"),
        ("confirmed_compromise", .str "false"), ("raw_reference", .str (rawDigest raw))]))]

def suricataCategory (kind : String) : String :=
  if kind = "alert" then "alert" else if kind = "flow" then "network" else kind

def normalizeSuricata (rt : Runtime) (raw : JsonObject) (tenantId : String) :
    Draw CanonicalEvent := do
  let kind := rt.lower ((Json.orElse (Json.get raw "event_type") (.str "")).text rt)
  if kind ∉ suricataSources then
    Exec.raise (.valueError s!"unsupported Suricata event_type {kind}")
  else do
    let fields ← Exec.lift (suricataFields rt kind raw)
    event rt tenantId ("suricata." ++ kind) "suricata" kind (suricataCategory kind) raw fields

end Network

namespace Endpoint

/-- `_canonical` -/
def canonical (rt : Runtime) (tenantId source eventType category : String) (raw : JsonObject)
    (fields : Kwargs) : Draw CanonicalEvent := do
  let eventId ← eventIdFrom rt (Json.get raw "id")
  let timestamp ← timestampFrom rt (Json.getFirst raw ["UtcTime", "timestamp", "TimeCreated"])
    (isoTimestamp rt)
  let ingestedAt ← utcnow rt
  Exec.lift (CanonicalEvent.new rt
    ([("id", .json (.str eventId)), ("tenant_id", .json (.str tenantId)),
      ("timestamp", .datetime timestamp), ("ingested_at", .datetime ingestedAt),
      ("source", .json (.str source)), ("source_type", .json (.str "endpoint")),
      ("event_type", .json (.str eventType)), ("category", .json (.str category)),
      ("schema_version", .json (.str "1.0.0")), ("raw_event", .json (.obj raw)),
      ("raw_hash", .json (.str (rawDigest raw)))] ++ fields))

/-- `_basename` -/
def basename (path : Json) : Except Exn Json :=
  if path.truthy then
    path.asText.map fun text =>
      let slashed := text.toList.map fun c => if c = '\\' then '/' else c
      .str (String.ofList (slashed.reverse.takeWhile (· ≠ '/')).reverse)
  else .ok .null

/-- `str(value or "")` -/
def shown (rt : Runtime) (v : Json) : Json :=
  .str ((Json.orElse v (.str "")).text rt)

def sysmonKind (eventId : Int) : String × String :=
  if eventId = 1 then ("process_creation", "process")
  else if eventId = 5 then ("process_termination", "process")
  else if eventId = 11 then ("file_creation", "file")
  else if eventId = 13 then ("registry", "registry")
  else if eventId = 3 then ("network", "network")
  else if eventId = 7 then ("module_load", "module")
  else ("process_creation", "process")

/-- The fields `normalize_sysmon` hands to `_canonical`. -/
def sysmonFields (rt : Runtime) (eventId : Int) (eventType : String) (raw : JsonObject) :
    Except Exn Kwargs := do
  let parentPid ← intIfGiven rt (Json.get raw "ParentProcessId")
  let parent ← CanonicalProcess.new rt
    [("name", .json (Json.getFirst raw ["ParentImage", "parent_image"])),
     ("pid", .json parentPid), ("command_line", .json (Json.get raw "ParentCommandLine")),
     ("path", .json (Json.get raw "ParentImage"))]
  let name ← basename (Json.getFirst raw ["Image", "process_name"])
  let pid ← intIfGiven rt (Json.get raw "ProcessId")
  let process ← CanonicalProcess.new rt
    [("name", .json name), ("pid", .json pid),
     ("command_line", .json (Json.getFirst raw ["CommandLine", "command_line"])),
     ("path", .json (Json.get raw "Image")),
     ("hash", .json (Json.getFirst raw ["Hashes", "hash"]))]
  let user ← CanonicalUser.new [("name", .json (Json.getFirst raw ["User", "user"]))]
  let host ← CanonicalHost.new [("name", .json (Json.getFirst raw ["Computer", "hostname"])),
    ("id", .json (Json.get raw "host_id"))]
  let file ← CanonicalFile.new rt
    [("path", .json (Json.getFirst raw ["TargetFilename", "Image"])),
     ("hash_sha256", .json (Json.get raw "sha256"))]
  let hasParent : Bool := given parent.name || (parent.pid.getD 0 ≠ 0)
  pure
    [("process", .process process),
     ("parent_process", if hasParent then .process parent else .json .null),
     ("user", .user user), ("host", .host host),
     ("src_ip", .json (Json.getFirst raw ["SourceIp", "src_ip"])),
     ("dst_ip", .json (Json.getFirst raw ["DestinationIp", "dst_ip"])),
     ("src_port", .json (Json.get raw "SourcePort")),
     ("dst_port", .json (Json.get raw "DestinationPort")),
     ("protocol", .json (Json.get raw "Protocol")), ("file", .file file),
     ("action", .json (.str eventType)),
     ("attributes", .json (.obj
       [("sysmon_event_id", .str (toString eventId)),
        ("parent_pid", shown rt (Json.get raw "ParentProcessId")),
        ("pid", shown rt (Json.get raw "ProcessId")), ("raw_reference", .str (rawDigest raw))]))]

def normalizeSysmon (rt : Runtime) (raw : JsonObject) (tenantId : String) :
    Draw CanonicalEvent := do
  let eventId ← Exec.lift
    ((Json.orElse (Json.getFirst raw ["EventID", "event_id"]) (.int 0)).toInt rt)
  let (eventType, category) := sysmonKind eventId
  let fields ← Exec.lift (sysmonFields rt eventId eventType raw)
  canonical rt tenantId "sysmon" eventType category raw fields

/-- `data.get("user") or raw.get("agent", {}).get("name")`: a null agent is not replaced here. -/
def wazuhUser (data raw : JsonObject) : Except Exn Json :=
  if (Json.get data "user").truthy then .ok (Json.get data "user")
  else ((raw.lookup "agent").getD (.obj [])).asDict.map fun agent => Json.get agent "name"

/-- The event type, the category and the fields `normalize_wazuh` hands to `_canonical`. -/
def wazuhFields (rt : Runtime) (raw : JsonObject) : Except Exn (String × String × Kwargs) := do
  let data ← (Json.orElse (Json.get raw "data") (.obj raw)).asDict
  let eventType := (Json.orElse (Json.get data "event_type") (.str "process_creation")).text rt
  let category := (Json.orElse (Json.get data "category") (.str "process")).text rt
  let process ← CanonicalProcess.new rt [("name", .json (Json.get data "process_name")),
    ("command_line", .json (Json.get data "command_line")), ("path", .json (Json.get data "image"))]
  let parent ← CanonicalProcess.new rt [("name", .json (Json.get data "parent_name"))]
  let userName ← wazuhUser data raw
  let user ← CanonicalUser.new [("name", .json userName)]
  let agent ← dictOr (Json.get raw "agent")
  let host ← CanonicalHost.new [("name", .json (Json.get agent "name")),
    ("id", .json (Json.get agent "id"))]
  let rule ← dictOr (Json.get raw "rule")
  let level ← (Json.orElse (Json.get rule "level") (.int 0)).toInt rt
  pure (eventType, category,
    [("process", .process process), ("parent_process", .process parent), ("user", .user user),
     ("host", .host host),
     ("action", .json (.str
       ((Json.orElse (Json.get rule "description") (.str "wazuh")).text rt))),
     ("severity", .json (.str (if 10 ≤ level then Severity.high else .medium).text)),
     ("attributes", .json (.obj
       [("wazuh_rule_id", shown rt (Json.get rule "id")),
        ("raw_reference", .str (rawDigest raw))]))])

def normalizeWazuh (rt : Runtime) (raw : JsonObject) (tenantId : String) :
    Draw CanonicalEvent := do
  let (eventType, category, fields) ← Exec.lift (wazuhFields rt raw)
  canonical rt tenantId "wazuh" eventType category raw fields

def osqueryType : String → String
  | "processes" => "process_creation"
  | "process_events" => "process_creation"
  | "socket_events" => "network"
  | "file_events" => "file_creation"
  | "scheduled_tasks" => "scheduled_task"
  | "startup_items" => "service"
  | "logged_in_users" => "authentication"
  | _ => "process_creation"

def osqueryCategory (eventType : String) : String :=
  if eventType = "authentication" then "authentication"
  else if eventType = "scheduled_task" then "persistence"
  else if eventType = "network" then "network"
  else if hasInfix "file" eventType then "file"
  else "process"

/-- The fields `normalize_osquery` hands to `_canonical`. -/
def osqueryFields (rt : Runtime) (name : String) (raw : JsonObject) : Except Exn Kwargs := do
  let columns ← (Json.orElse (Json.get raw "columns") (.obj raw)).asDict
  let pid ← intIfGiven rt (Json.get columns "pid")
  let process ← CanonicalProcess.new rt
    [("name", .json (Json.getFirst columns ["name", "path"])),
     ("path", .json (Json.get columns "path")), ("pid", .json pid)]
  let parentPid ← intIfGiven rt (Json.get columns "parent")
  let parent ← CanonicalProcess.new rt [("pid", .json parentPid)]
  let user ← CanonicalUser.new [("name", .json (Json.getFirst columns ["username", "user"]))]
  let host ← CanonicalHost.new [("name", .json (Json.getFirst raw ["hostIdentifier", "hostname"]))]
  pure
    [("process", .process process), ("parent_process", .process parent), ("user", .user user),
     ("host", .host host), ("action", .json (.str name)),
     ("attributes", .json (.obj
       [("osquery_name", .str name), ("raw_reference", .str (rawDigest raw))]))]

def normalizeOsquery (rt : Runtime) (raw : JsonObject) (tenantId : String) :
    Draw CanonicalEvent := do
  let name := (Json.orElse (Json.getFirst raw ["name", "table"]) (.str "processes")).text rt
  let fields ← Exec.lift (osqueryFields rt name raw)
  canonical rt tenantId "osquery" (osqueryType name) (osqueryCategory (osqueryType name)) raw fields

def auditKind : String → String × String
  | "execve" => ("process_creation", "process")
  | "syscall" => ("process_creation", "process")
  | "user_login" => ("authentication", "authentication")
  | "user_auth" => ("authentication", "authentication")
  | "service_start" => ("service", "persistence")
  | "user_acct" => ("privilege", "identity")
  | _ => ("process_creation", "process")

/-- The fields `normalize_linux_audit` hands to `_canonical`. -/
def linuxAuditFields (rt : Runtime) (eventType : String) (raw : JsonObject) :
    Except Exn Kwargs := do
  let pid ← intIfGiven rt (Json.get raw "pid")
  let process ← CanonicalProcess.new rt [("name", .json (Json.getFirst raw ["exe", "comm"])),
    ("command_line", .json (Json.getFirst raw ["cmdline", "a0"])), ("pid", .json pid)]
  let parentPid ← intIfGiven rt (Json.get raw "ppid")
  let parent ← CanonicalProcess.new rt [("pid", .json parentPid)]
  let user ← CanonicalUser.new [("name", .json (Json.getFirst raw ["uid", "acct"]))]
  let host ← CanonicalHost.new [("name", .json (Json.getFirst raw ["host", "node"]))]
  let res := rt.lower ((Json.orElse (Json.get raw "res") (.str "success")).text rt)
  pure
    [("process", .process process), ("parent_process", .process parent), ("user", .user user),
     ("host", .host host), ("action", .json (.str eventType)),
     ("outcome", .json (.str (if res ∈ ["success", "yes"] then "success" else "failure"))),
     ("attributes", .json (.obj
       [("audit_type", .str eventType), ("raw_reference", .str (rawDigest raw))]))]

def normalizeLinuxAudit (rt : Runtime) (raw : JsonObject) (tenantId : String) :
    Draw CanonicalEvent := do
  let eventType := rt.lower
    ((Json.orElse (Json.getFirst raw ["type", "event_type"]) (.str "SYSCALL")).text rt)
  let fields ← Exec.lift (linuxAuditFields rt eventType raw)
  canonical rt tenantId "linux-audit" (auditKind eventType).1 (auditKind eventType).2 raw fields

def normalizeEndpoint (rt : Runtime) (raw : JsonObject) (tenantId : String) :
    Draw CanonicalEvent :=
  let source := rt.lower
    ((Json.orElse (Json.getFirst raw ["source", "encoder"]) (.str "sysmon")).text rt)
  if source = "wazuh" then normalizeWazuh rt raw tenantId
  else if source = "osquery" then normalizeOsquery rt raw tenantId
  else if source ∈ ["audit", "linux-audit", "auditd"] then normalizeLinuxAudit rt raw tenantId
  else normalizeSysmon rt raw tenantId

end Endpoint

end BlueTeam.Ingest
