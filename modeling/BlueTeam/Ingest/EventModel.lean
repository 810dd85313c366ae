/- GID: BlueTeam/Ingest/EventModel
   generality: I
   source: security-languages/rust/event-model/src/lib.rs
   digest: The sensors' own reading of Zeek and Suricata records, in Rust. -/

import BlueTeam.Json
import Mathlib.Algebra.Group.Int.Defs
import Mathlib.Algebra.Group.Nat.Defs

set_option autoImplicit false
set_option relaxedAutoImplicit false

namespace BlueTeam.Ingest.EventModel

structure CanonicalEvent where
  id : String
  tenantId : String
  timestamp : String
  ingestedAt : String
  source : String
  sourceType : String
  eventType : String
  category : String
  schemaVersion : String
  srcIp : Option String
  dstIp : Option String
  srcPort : Option UInt16
  dstPort : Option UInt16
  protocol : Option String
  domain : Option String
  rawEvent : Json
  deriving DecidableEq

/-! ### `serde_json::Value` -/

/-- `value.get(key)`: a key that holds null is there. -/
def get (value : Json) (key : String) : Option Json :=
  match value with
  | .obj fields => fields.lookup key
  | _ => none

/-- `value.pointer("/name/key")` -/
def pointer (value : Json) (name key : String) : Option Json :=
  (get value name).bind fun inner => get inner key

def asStr : Json → Option String
  | .str text => some text
  | _ => none

/-- Numbers from 2 ^ 64 on are read as floats. -/
def asU64 : Json → Option UInt64
  | .int i => if 0 ≤ i ∧ i < 2 ^ 64 then some (UInt64.ofNat i.toNat) else none
  | _ => none

/-- `u16::try_from(value).ok()` -/
def tryU16 (value : UInt64) : Option UInt16 :=
  if value.toNat < 2 ^ 16 then some value.toUInt16 else none

/-! ### Records -/

def requireTenant (tenantId : String) : Except String Unit :=
  if tenantId.startsWith "ten_" then .ok ()
  else .error "tenant_id must use ten_ prefix"

def nestedIp (raw : Json) (dotted nestedKey : String) : Option String :=
  match (get raw dotted).bind asStr with
  | some value => some value
  | none => (pointer raw "id" nestedKey).bind asStr

def nestedPort (raw : Json) (dotted nestedKey : String) : Option UInt16 :=
  match (get raw dotted).bind asU64 with
  | some value => tryU16 value
  | none => ((pointer raw "id" nestedKey).bind asU64).bind tryU16

def epoch : String := "1970-01-01T00:00:00Z"

def zeekKind (raw : Json) : String :=
  ((get raw "_path" <|> get raw "log_type").bind asStr).getD "conn"

def zeekCategory : String → String
  | "dns" => "dns"
  | "http" => "http"
  | "ssl" | "tls" => "tls"
  | "files" => "file"
  | "notice" => "notice"
  | _ => "network"

def fromZeekJson (tenantId : String) (raw : Json) : Except String CanonicalEvent := do
  requireTenant tenantId
  let kind := zeekKind raw
  let timestamp := ((get raw "ts").bind asStr).getD epoch
  pure
    { id := "evt_rust_" ++ ((get raw "uid").bind asStr).getD "zeek"
      tenantId := tenantId
      timestamp := timestamp
      ingestedAt := timestamp
      source := "zeek." ++ kind
      sourceType := "zeek"
      eventType := kind
      category := zeekCategory kind
      schemaVersion := "1.0.0"
      srcIp := nestedIp raw "id.orig_h" "orig_h"
      dstIp := nestedIp raw "id.resp_h" "resp_h"
      srcPort := nestedPort raw "id.orig_p" "orig_p"
      dstPort := nestedPort raw "id.resp_p" "resp_p"
      protocol := (get raw "proto").bind asStr
      domain := (get raw "query" <|> get raw "host" <|> get raw "server_name").bind asStr
      rawEvent := raw }

def suricataCategory (kind : String) : String :=
  if kind = "alert" then "alert" else if kind = "flow" then "network" else kind

/-- `display` is the text of a value, as `to_string` of `serde_json` writes it. -/
def fromSuricataEve (display : Json → String) (tenantId : String) (raw : Json) :
    Except String CanonicalEvent := do
  requireTenant tenantId
  match (get raw "event_type").bind asStr with
  | none => throw "event_type required"
  | some kind =>
      let timestamp := ((get raw "timestamp").bind asStr).getD epoch
      let domain :=
        pointer raw "tls" "sni" <|> pointer raw "http" "hostname" <|> pointer raw "dns" "rrname"
      pure
        { id := "evt_rust_" ++ ((get raw "flow_id").map display).getD "eve"
          tenantId := tenantId
          timestamp := timestamp
          ingestedAt := timestamp
          source := "suricata." ++ kind
          sourceType := "suricata"
          eventType := kind
          category := suricataCategory kind
          schemaVersion := "1.0.0"
          srcIp := (get raw "src_ip").bind asStr
          dstIp := (get raw "dest_ip").bind asStr
          srcPort := ((get raw "src_port").bind asU64).bind tryU16
          dstPort := ((get raw "dest_port").bind asU64).bind tryU16
          protocol := (get raw "proto").bind asStr
          domain := domain.bind asStr
          rawEvent := raw }

end BlueTeam.Ingest.EventModel
