/- GID: BlueTeam/Ingest/Normalize
   generality: I
   source: packages/ingest-adapters/blueteam_ingest/router.py, syslog.py,
     services/api/app/services/normalizer.py
   digest: Raw payloads are routed to the adapter of their source and become canonical events. -/

import BlueTeam.Ingest.Adapters

set_option autoImplicit false
set_option relaxedAutoImplicit false

namespace BlueTeam.Ingest

open BlueTeam.Python BlueTeam.Schema BlueTeam.Lib

namespace Syslog

def rfc5424 : String :=
  "^<(?P<pri>\\d+)>(?P<version>\\d+)\\s+(?P<ts>\\S+)\\s+(?P<host>\\S+)\\s+(?P<app>\\S+)\\s+" ++
    "(?P<proc>\\S+)\\s+(?P<msgid>\\S+)\\s+(?P<rest>.*)$"

def rfc3164 : String :=
  "^<(?P<pri>\\d+)>(?P<ts>[A-Z][a-z]\x7b2\x7d\\s+\\d\x7b1,2\x7d\\s+" ++
    "\\d\x7b2\x7d:\\d\x7b2\x7d:\\d\x7b2\x7d)\\s+(?P<host>\\S+)\\s+(?P<rest>.*)$"

def ipPattern : String :=
  "\\b(?:\\d\x7b1,3\x7d\\.)\x7b3\x7d\\d\x7b1,3\x7d\\b"

/-- What the header of a line gives. -/
structure Header where
  parsed : List (String × String)
  timestamp : DateTime
  host : String
  app : String
  message : String

/-- `_ts`: unlike the other adapters it leaves a naive time stamp naive. -/
def timestampOf (rt : Runtime) (value : String) : Draw DateTime :=
  if value ∈ ["-", ""] then utcnow rt
  else Exec.lift ((rt.fromisoformat (replaceZ value)).mapError .valueError)

/-- The message of an RFC 5424 line, without its structured data. -/
def messageOf (rt : Runtime) (rest : String) : String :=
  if rest.startsWith "- " then String.ofList (rest.toList.drop 2)
  else if rest.startsWith "[" then
    rt.strip (String.ofList (if ']' ∈ rest.toList then (rest.toList.dropWhile (· ≠ ']')).drop 1
      else rest.toList))
  else rest

def header (rt : Runtime) (text : String) : Draw Header :=
  match rt.reMatch rfc5424 text with
  | some groups => do
      let part (name : String) : String := (groups.lookup name).getD ""
      let timestamp ← timestampOf rt (part "ts")
      pure ⟨groups, timestamp, part "host", part "app", messageOf rt (part "rest")⟩
  | none =>
      match rt.reMatch rfc3164 text with
      | some groups => do
          let part (name : String) : String := (groups.lookup name).getD ""
          let timestamp ← utcnow rt
          pure ⟨groups, timestamp, part "host", "syslog", part "rest"⟩
      | none => do
          let timestamp ← utcnow rt
          pure ⟨[("raw", text)], timestamp, "unknown", "syslog", text⟩

def parseSyslogLine (rt : Runtime) (line tenantId : String) : Draw CanonicalEvent :=
  let text := rt.strip line
  if text = "" then Exec.raise (.valueError "empty syslog line")
  else do
    let h ← header rt text
    let user := (rt.reSearch "(?:user|account|for)\\s+([A-Za-z0-9_.-]+)" h.message).bind
      fun groups => groups.head?
    let ips := rt.reFindall ipPattern h.message
    let failed := (rt.reSearch "fail|denied|invalid|refused" h.message).isSome
    let auth := (rt.reSearch "password|login|auth|sshd" h.message).isSome
    let eventId ← newId rt "evt"
    let ingestedAt ← utcnow rt
    let host : CanonicalHost :=
      { name := if h.host ∈ ["-", "unknown"] then none else some h.host }
    Exec.lift (CanonicalEvent.new rt
      [("id", .json (.str eventId)), ("tenant_id", .json (.str tenantId)),
       ("timestamp", .datetime h.timestamp), ("ingested_at", .datetime ingestedAt),
       ("source", .json (.str "syslog")),
       ("source_type", .json (.str (orText (some h.app) "syslog"))),
       ("event_type", .json (.str "syslog")),
       ("category", .json (.str (if auth then "authentication" else "log"))),
       ("user", match user with
         | some name => .user { name := some name }
         | none => .json .null),
       ("host", .host host), ("src_ip", .json (Json.ofOption ips[0]?)),
       ("dst_ip", .json (Json.ofOption ips[1]?)), ("action", .json (.str "log")),
       ("outcome", .json (.str (if failed then "failure" else "success"))),
       ("raw_event", .json (.obj (Json.merge [("syslog_raw", .str text), ("message", .str h.message)]
         ((h.parsed.filter fun f => f.1 ≠ "rest").map fun f => (f.1, .str f.2))))),
       ("attributes", .json (.obj
         [("adapter", .str "syslog"), ("message", .str (takeChars 400 h.message))]))])

end Syslog

namespace Generic

/-- `payload[a][b]...` along a dotted key, while every part is there. -/
def path (v : Json) : List String → Option Json
  | [] => some v
  | part :: parts =>
      match v with
      | .obj fields => (fields.lookup part).bind fun w => path w parts
      | _ => none

/-- `value not in (None, "")` -/
def present (v : Json) : Bool :=
  v ≠ .null ∧ v ≠ .str ""

/-- `_first`, with every key split at its dots. -/
def first (payload : JsonObject) (keys : List (List String)) : Json :=
  (keys.findSome? fun key => (path (.obj payload) key).filter present).getD .null

def timestampOf (rt : Runtime) (payload : JsonObject) : Draw DateTime :=
  match first payload [["timestamp"], ["time"], ["@timestamp"], ["event_time"]] with
  | .str text => Exec.lift ((rt.fromisoformat (replaceZ text)).mapError .valueError)
  | _ => utcnow rt

def normalizeGeneric (rt : Runtime) (payload : JsonObject) (tenantId : String) :
    Draw CanonicalEvent :=
  if (Json.get payload "schema_version").truthy ∧ (Json.get payload "id").truthy ∧
      (Json.get payload "tenant_id").truthy then do
    let event ← Exec.lift (CanonicalEvent.modelValidate rt payload)
    if event.tenantId ≠ tenantId then
      Exec.raise (.valueError "event tenant_id does not match request tenant")
    else pure event
  else do
    let text (keys : List (List String)) (default : String) : Json :=
      .str ((Json.orElse (first payload keys) (.str default)).text rt)
    let timestamp ← timestampOf rt payload
    let userName := first payload [["user"], ["username"], ["user", "name"], ["account"]]
    let eventId ← eventIdFrom rt (first payload [["id"], ["event_id"]])
    let ingestedAt ← utcnow rt
    Exec.lift (CanonicalEvent.new rt
      [("id", .json (.str eventId)), ("tenant_id", .json (.str tenantId)),
       ("timestamp", .datetime timestamp), ("ingested_at", .datetime ingestedAt),
       ("source", .json (text [["source"], ["vendor"]] "generic-json")),
       ("source_type", .json (text [["source_type"], ["product"]] "unknown")),
       ("event_type", .json (text [["event_type"], ["type"]] "unknown")),
       ("category", .json (text [["category"]] "unknown")),
       ("user", if userName.truthy then .user { name := some (userName.text rt) } else .json .null),
       ("src_ip", .json (first payload [["src_ip"], ["source_ip"], ["client_ip"],
         ["source", "ip"]])),
       ("dst_ip", .json (first payload [["dst_ip"], ["destination_ip"], ["destination", "ip"]])),
       ("action", .json (first payload [["action"]])),
       ("outcome", .json (first payload [["outcome"], ["result"]])),
       ("raw_event", .json (.obj payload)),
       ("attributes", .json (.obj ((payload.filter fun f => f.1 ∈ ["group", "role", "member"]).map
         fun f => (f.1, .str (f.2.text rt)))))])

end Generic

/-- The payloads that already are canonical events. -/
def isCanonical (payload : JsonObject) : Bool :=
  (Json.get payload "schema_version").truthy && (Json.get payload "id").truthy &&
    (Json.get payload "source").truthy && (Json.get payload "source_type").truthy

def adapterOf (rt : Runtime) (payload : JsonObject) : String :=
  rt.lower ((Json.orElse (Json.get payload "adapter") (.str "")).text rt)

def normalizePayload (rt : Runtime) (payload : JsonObject) (tenantId : String) :
    Draw CanonicalEvent :=
  let adapter := adapterOf rt payload
  if isCanonical payload then
    Exec.lift (CanonicalEvent.modelValidate rt (Json.setKey payload "tenant_id" (.str tenantId)))
  else if (Json.get payload "syslog_raw").truthy ∨ adapter = "syslog" then
    let raw := Json.orElse (Json.getFirst payload ["syslog_raw", "message"]) (.str "")
    Syslog.parseSyslogLine rt (raw.text rt) tenantId
  else if adapter = "zeek" ∨ (Json.get payload "_path").truthy then
    Network.normalizeZeek rt payload tenantId
  else if adapter = "suricata" then Network.normalizeSuricata rt payload tenantId
  else if adapter ∈ ["sysmon", "wazuh", "osquery", "linux-audit", "audit", "auditd"] then
    Endpoint.normalizeEndpoint rt (Json.setDefault payload "source" (.str adapter)) tenantId
  else Generic.normalizeGeneric rt payload tenantId

end BlueTeam.Ingest
