/- GID: BlueTeam/Ingest/Dumped
   generality: I
   source: packages/schemas/blueteam_schemas/events.py,
     services/api/app/services/normalizer.py,
     packages/ingest-adapters/blueteam_ingest/router.py
   digest: A canonical event that is sent again as JSON: what the canonical and the generic route
     make of it. -/

import BlueTeam.Ingest.Agreement

set_option autoImplicit false
set_option relaxedAutoImplicit false

namespace BlueTeam.Schema

open BlueTeam.Python

/-! ### `model_dump(mode="json")` -/

def dumpModel {α : Type} (dump : α → JsonObject) : Option α → Json
  | some a => .obj (dump a)
  | none => .null

def dumpInt : Option Int → Json
  | some i => .int i
  | none => .null

def CanonicalUser.dump (u : CanonicalUser) : JsonObject :=
  [("name", Json.ofOption u.name), ("id", Json.ofOption u.id), ("email", Json.ofOption u.email),
    ("domain", Json.ofOption u.domain)]

def CanonicalHost.dump (h : CanonicalHost) : JsonObject :=
  [("name", Json.ofOption h.name), ("id", Json.ofOption h.id), ("os", Json.ofOption h.os),
    ("ip", Json.ofOption h.ip)]

def CanonicalProcess.dump (p : CanonicalProcess) : JsonObject :=
  [("name", Json.ofOption p.name), ("pid", dumpInt p.pid),
    ("command_line", Json.ofOption p.commandLine), ("hash", Json.ofOption p.hash),
    ("path", Json.ofOption p.path)]

def CanonicalFile.dump (f : CanonicalFile) : JsonObject :=
  [("name", Json.ofOption f.name), ("path", Json.ofOption f.path),
    ("hash_md5", Json.ofOption f.hashMd5), ("hash_sha1", Json.ofOption f.hashSha1),
    ("hash_sha256", Json.ofOption f.hashSha256), ("size", dumpInt f.size)]

def CanonicalIdentity.dump (i : CanonicalIdentity) : JsonObject :=
  [("id", Json.ofOption i.id), ("type", Json.ofOption i.type),
    ("provider", Json.ofOption i.provider)]

def CanonicalCloudResource.dump (c : CanonicalCloudResource) : JsonObject :=
  [("provider", Json.ofOption c.provider), ("account_id", Json.ofOption c.accountId),
    ("resource_id", Json.ofOption c.resourceId), ("resource_type", Json.ofOption c.resourceType),
    ("region", Json.ofOption c.region)]

/-- `jsonTime` and `jsonFloat` are how pydantic writes a time stamp and a float. -/
def CanonicalEvent.dump (jsonTime : DateTime → String) (jsonFloat : PyFloat → String)
    (event : CanonicalEvent) : JsonObject :=
  [("id", .str event.id), ("tenant_id", .str event.tenantId),
    ("timestamp", .str (jsonTime event.timestamp)),
    ("ingested_at", .str (jsonTime event.ingestedAt)), ("source", .str event.source),
    ("source_type", .str event.sourceType), ("event_type", .str event.eventType),
    ("category", .str event.category), ("user", dumpModel CanonicalUser.dump event.user),
    ("host", dumpModel CanonicalHost.dump event.host),
    ("process", dumpModel CanonicalProcess.dump event.process),
    ("parent_process", dumpModel CanonicalProcess.dump event.parentProcess),
    ("src_ip", Json.ofOption event.srcIp), ("dst_ip", Json.ofOption event.dstIp),
    ("src_port", dumpInt event.srcPort), ("dst_port", dumpInt event.dstPort),
    ("protocol", Json.ofOption event.protocol), ("domain", Json.ofOption event.domain),
    ("url", Json.ofOption event.url), ("file", dumpModel CanonicalFile.dump event.file),
    ("hash", Json.ofOption event.hash),
    ("identity", dumpModel CanonicalIdentity.dump event.identity),
    ("cloud_resource", dumpModel CanonicalCloudResource.dump event.cloudResource),
    ("action", Json.ofOption event.action),
    ("outcome", Json.ofOption (event.outcome.map Outcome.text)),
    ("severity", .str event.severity.text), ("confidence", .float (jsonFloat event.confidence)),
    ("risk_score", .float (jsonFloat event.riskScore)), ("raw_event", .obj event.rawEvent),
    ("schema_version", .str event.schemaVersion), ("attributes", .obj event.attributes),
    ("idempotency_key", Json.ofOption event.idempotencyKey),
    ("correlation_id", Json.ofOption event.correlationId),
    ("trace_id", Json.ofOption event.traceId), ("raw_hash", Json.ofOption event.rawHash)]

/-- pydantic reads back what it has written of this event, and so does `fromisoformat`. -/
structure ReadsBack (rt : Runtime) (jsonTime : DateTime → String) (jsonFloat : PyFloat → String)
    (event : CanonicalEvent) : Prop where
  timestamp : rt.validDatetime (.str (jsonTime event.timestamp)) = some event.timestamp
  ingestedAt : rt.validDatetime (.str (jsonTime event.ingestedAt)) = some event.ingestedAt
  iso : rt.fromisoformat (replaceZ (jsonTime event.timestamp)) = .ok event.timestamp
  written : jsonTime event.timestamp ≠ ""
  confidence : rt.validFloat (.float (jsonFloat event.confidence)) = some event.confidence
  riskScore : rt.validFloat (.float (jsonFloat event.riskScore)) = some event.riskScore
  int : ∀ i, rt.validInt (.int i) = some i

/-- What the schema checks of an event besides the types of its fields. -/
structure Checked (event : CanonicalEvent) : Prop where
  tenant : event.tenantId.startsWith "ten_" = true
  confidence : event.confidence.outsidePercent = false
  riskScore : event.riskScore.outsidePercent = false

/-! ### What was dumped validates again -/

namespace Field

variable {kw : Kwargs} {rt : Runtime} {loc name : String}

theorem required_good {α : Type} [Inhabited α] {check : Check α} {a : Arg} {v : α}
    (hlookup : kw.lookup name = some a) (hcheck : check (loc ++ name) a = good v) :
    required kw check loc name = good v := by
  unfold required
  rw [hlookup]
  exact hcheck

theorem withDefault_good {α : Type} {check : Check α} {a : Arg} {v d : α}
    (hlookup : kw.lookup name = some a) (hcheck : check (loc ++ name) a = good v) :
    withDefault kw check d loc name = good v := by
  unfold withDefault
  rw [hlookup]
  exact hcheck

theorem withDefault_absent {α : Type} {check : Check α} {d : α} (hlookup : kw.lookup name = none) :
    withDefault kw check d loc name = good d := by
  unfold withDefault
  rw [hlookup]

theorem optional_absent {α : Type} {check : Check α} (hlookup : kw.lookup name = none) :
    optional kw check loc name = good none := by
  unfold optional
  rw [hlookup]

theorem optional_good {α : Type} {check : Check α} {a : Arg} {v : α}
    (hlookup : kw.lookup name = some a) (hnull : a ≠ .json .null)
    (hcheck : check (loc ++ name) a = good v) : optional kw check loc name = good (some v) := by
  unfold optional
  split
  · rename_i hnone
    rw [hlookup] at hnone
    cases hnone
  · rename_i hjson
    rw [hlookup] at hjson
    exact absurd (Option.some.inj hjson) hnull
  · rename_i a' _ ha'
    rw [hlookup] at ha'
    obtain rfl := Option.some.inj ha'
    rw [hcheck]
    rfl

theorem optional_text_good {text : Option String}
    (hlookup : kw.lookup name = some (.json (Json.ofOption text))) :
    optional kw str loc name = good text := by
  cases text with
  | none =>
    unfold optional
    rw [hlookup]
    rfl
  | some s => exact optional_good hlookup nofun rfl

theorem optional_int_good (hint : ∀ i, rt.validInt (.int i) = some i) {n : Option Int}
    (hlookup : kw.lookup name = some (.json (dumpInt n))) :
    optional kw (int rt) loc name = good n := by
  cases n with
  | none =>
    unfold optional
    rw [hlookup]
    rfl
  | some i =>
    refine optional_good hlookup nofun ?_
    show ofOption _ _ (rt.validInt (.int i)) = good i
    rw [hint]
    rfl

theorem optional_outcome_good {outcome : Option Outcome}
    (hlookup : kw.lookup name = some (.json (Json.ofOption (outcome.map Outcome.text)))) :
    optional kw outcomeLiteral loc name = good outcome := by
  cases outcome with
  | none =>
    unfold optional
    rw [hlookup]
    rfl
  | some o =>
    refine optional_good hlookup nofun ?_
    cases o <;> rfl

theorem optional_model_good {α : Type} [Inhabited α] {instance? : Arg → Option α}
    {fields : Kwargs → String → Field α} {dump : α → JsonObject} {a : Option α}
    (hjson : ∀ v, instance? (.json v) = none)
    (hfields : ∀ v loc, fields (.ofObject (dump v)) loc = good v)
    (hlookup : kw.lookup name = some (.json (dumpModel dump a))) :
    optional kw (nested instance? fields) loc name = good a := by
  cases a with
  | none =>
    unfold optional
    rw [hlookup]
    rfl
  | some v =>
    refine optional_good hlookup nofun ?_
    simp only [nested, dumpModel, hjson, hfields]

theorem bounded_good {x : PyFloat} {text : String}
    (hread : rt.validFloat (.float text) = some x) (hbound : x.outsidePercent = false) :
    bounded rt loc (.json (.float text)) = good x := by
  simp [bounded, hread, Option.filter, hbound, ofOption]

theorem datetime_good {d : DateTime} {text : String}
    (hread : rt.validDatetime (.str text) = some d) :
    datetime rt loc (.json (.str text)) = good d := by
  simp [datetime, hread, ofOption]

theorem tenant_good {tenantId : String} (h : tenantId.startsWith "ten_" = true) :
    tenantRequired loc (.json (.str tenantId)) = good tenantId := by
  simp only [tenantRequired, h, if_true, ofOption]

theorem severity_good (s : Severity) : severityLiteral loc (.json (.str s.text)) = good s := by
  cases s <;> rfl

end Field

open BlueTeam.Schema.Field

theorem CanonicalUser.fields_dump (u : CanonicalUser) (loc : String) :
    CanonicalUser.fields (.ofObject u.dump) loc = good u := by
  have hname : optional (.ofObject u.dump) str loc "name" = good u.name := optional_text_good rfl
  have hid : optional (.ofObject u.dump) str loc "id" = good u.id := optional_text_good rfl
  have hemail : optional (.ofObject u.dump) str loc "email" = good u.email := optional_text_good rfl
  have hdomain : optional (.ofObject u.dump) str loc "domain" = good u.domain :=
    optional_text_good rfl
  simp only [CanonicalUser.fields, hname, hid, hemail, hdomain]
  rfl

theorem CanonicalHost.fields_dump (h : CanonicalHost) (loc : String) :
    CanonicalHost.fields (.ofObject h.dump) loc = good h := by
  have hname : optional (.ofObject h.dump) str loc "name" = good h.name := optional_text_good rfl
  have hid : optional (.ofObject h.dump) str loc "id" = good h.id := optional_text_good rfl
  have hos : optional (.ofObject h.dump) str loc "os" = good h.os := optional_text_good rfl
  have hip : optional (.ofObject h.dump) str loc "ip" = good h.ip := optional_text_good rfl
  simp only [CanonicalHost.fields, hname, hid, hos, hip]
  rfl

theorem CanonicalProcess.fields_dump {rt : Runtime} (hint : ∀ i, rt.validInt (.int i) = some i)
    (p : CanonicalProcess) (loc : String) :
    CanonicalProcess.fields rt (.ofObject p.dump) loc = good p := by
  have hname : optional (.ofObject p.dump) str loc "name" = good p.name := optional_text_good rfl
  have hpid : optional (.ofObject p.dump) (int rt) loc "pid" = good p.pid :=
    optional_int_good hint rfl
  have hcommandLine : optional (.ofObject p.dump) str loc "command_line" = good p.commandLine :=
    optional_text_good rfl
  have hhash : optional (.ofObject p.dump) str loc "hash" = good p.hash := optional_text_good rfl
  have hpath : optional (.ofObject p.dump) str loc "path" = good p.path := optional_text_good rfl
  simp only [CanonicalProcess.fields, hname, hpid, hcommandLine, hhash, hpath]
  rfl

theorem CanonicalFile.fields_dump {rt : Runtime} (hint : ∀ i, rt.validInt (.int i) = some i)
    (f : CanonicalFile) (loc : String) :
    CanonicalFile.fields rt (.ofObject f.dump) loc = good f := by
  have hname : optional (.ofObject f.dump) str loc "name" = good f.name := optional_text_good rfl
  have hpath : optional (.ofObject f.dump) str loc "path" = good f.path := optional_text_good rfl
  have hhashMd5 : optional (.ofObject f.dump) str loc "hash_md5" = good f.hashMd5 :=
    optional_text_good rfl
  have hhashSha1 : optional (.ofObject f.dump) str loc "hash_sha1" = good f.hashSha1 :=
    optional_text_good rfl
  have hhashSha256 : optional (.ofObject f.dump) str loc "hash_sha256" = good f.hashSha256 :=
    optional_text_good rfl
  have hsize : optional (.ofObject f.dump) (int rt) loc "size" = good f.size :=
    optional_int_good hint rfl
  simp only [CanonicalFile.fields, hname, hpath, hhashMd5, hhashSha1, hhashSha256, hsize]
  rfl

theorem CanonicalIdentity.fields_dump (i : CanonicalIdentity) (loc : String) :
    CanonicalIdentity.fields (.ofObject i.dump) loc = good i := by
  have hid : optional (.ofObject i.dump) str loc "id" = good i.id := optional_text_good rfl
  have htype : optional (.ofObject i.dump) str loc "type" = good i.type := optional_text_good rfl
  have hprovider : optional (.ofObject i.dump) str loc "provider" = good i.provider :=
    optional_text_good rfl
  simp only [CanonicalIdentity.fields, hid, htype, hprovider]
  rfl

theorem CanonicalCloudResource.fields_dump (c : CanonicalCloudResource) (loc : String) :
    CanonicalCloudResource.fields (.ofObject c.dump) loc = good c := by
  have hprovider : optional (.ofObject c.dump) str loc "provider" = good c.provider :=
    optional_text_good rfl
  have haccountId : optional (.ofObject c.dump) str loc "account_id" = good c.accountId :=
    optional_text_good rfl
  have hresourceId : optional (.ofObject c.dump) str loc "resource_id" = good c.resourceId :=
    optional_text_good rfl
  have hresourceType : optional (.ofObject c.dump) str loc "resource_type" = good c.resourceType :=
    optional_text_good rfl
  have hregion : optional (.ofObject c.dump) str loc "region" = good c.region :=
    optional_text_good rfl
  simp only [CanonicalCloudResource.fields, hprovider, haccountId, hresourceId, hresourceType,
    hregion]
  rfl

/-- Every field of the event is what its check makes of the arguments. -/
structure Supplied (rt : Runtime) (kw : Kwargs) (event : CanonicalEvent) : Prop where
  id : required kw str "" "id" = good event.id
  tenantId : required kw tenantRequired "" "tenant_id" = good event.tenantId
  timestamp : required kw (datetime rt) "" "timestamp" = good event.timestamp
  ingestedAt : required kw (datetime rt) "" "ingested_at" = good event.ingestedAt
  source : required kw str "" "source" = good event.source
  sourceType : required kw str "" "source_type" = good event.sourceType
  eventType : required kw str "" "event_type" = good event.eventType
  category : required kw str "" "category" = good event.category
  user : optional kw (nested Arg.asUser CanonicalUser.fields) "" "user" = good event.user
  host : optional kw (nested Arg.asHost CanonicalHost.fields) "" "host" = good event.host
  process : optional kw (nested Arg.asProcess (CanonicalProcess.fields rt)) "" "process" =
    good event.process
  parentProcess :
    optional kw (nested Arg.asProcess (CanonicalProcess.fields rt)) "" "parent_process" =
      good event.parentProcess
  srcIp : optional kw str "" "src_ip" = good event.srcIp
  dstIp : optional kw str "" "dst_ip" = good event.dstIp
  srcPort : optional kw (int rt) "" "src_port" = good event.srcPort
  dstPort : optional kw (int rt) "" "dst_port" = good event.dstPort
  protocol : optional kw str "" "protocol" = good event.protocol
  domain : optional kw str "" "domain" = good event.domain
  url : optional kw str "" "url" = good event.url
  file : optional kw (nested Arg.asFile (CanonicalFile.fields rt)) "" "file" = good event.file
  hash : optional kw str "" "hash" = good event.hash
  identity : optional kw (nested (fun _ => none) CanonicalIdentity.fields) "" "identity" =
    good event.identity
  cloudResource :
    optional kw (nested (fun _ => none) CanonicalCloudResource.fields) "" "cloud_resource" =
      good event.cloudResource
  action : optional kw str "" "action" = good event.action
  outcome : optional kw outcomeLiteral "" "outcome" = good event.outcome
  severity : withDefault kw severityLiteral .informational "" "severity" = good event.severity
  confidence : withDefault kw (bounded rt) (.finite 1) "" "confidence" = good event.confidence
  riskScore : withDefault kw (bounded rt) (.finite 0) "" "risk_score" = good event.riskScore
  rawEvent : withDefault kw dict [] "" "raw_event" = good event.rawEvent
  schemaVersion : withDefault kw str "1.0.0" "" "schema_version" = good event.schemaVersion
  attributes : withDefault kw dict [] "" "attributes" = good event.attributes
  idempotencyKey : optional kw str "" "idempotency_key" = good event.idempotencyKey
  correlationId : optional kw str "" "correlation_id" = good event.correlationId
  traceId : optional kw str "" "trace_id" = good event.traceId
  rawHash : optional kw str "" "raw_hash" = good event.rawHash

theorem CanonicalEvent.new_of_supplied {rt : Runtime} {kw : Kwargs} {event : CanonicalEvent}
    (h : Supplied rt kw event) : CanonicalEvent.new rt kw = .ok event := by
  have hfields : CanonicalEvent.fields rt kw = good event := by
    simp only [CanonicalEvent.fields, h.id, h.tenantId, h.timestamp, h.ingestedAt, h.source,
      h.sourceType, h.eventType, h.category, h.user, h.host, h.process, h.parentProcess, h.srcIp,
      h.dstIp, h.srcPort, h.dstPort, h.protocol, h.domain, h.url, h.file, h.hash, h.identity,
      h.cloudResource, h.action, h.outcome, h.severity, h.confidence, h.riskScore, h.rawEvent,
      h.schemaVersion, h.attributes, h.idempotencyKey, h.correlationId, h.traceId, h.rawHash, good,
      List.append_nil]
  unfold CanonicalEvent.new construct
  rw [hfields]
  rfl

/-- An event is read back from its dump. -/
theorem CanonicalEvent.modelValidate_dump {rt : Runtime} {jsonTime : DateTime → String}
    {jsonFloat : PyFloat → String} {event : CanonicalEvent}
    (hread : ReadsBack rt jsonTime jsonFloat event) (hchecked : Checked event) :
    CanonicalEvent.modelValidate rt (event.dump jsonTime jsonFloat) = .ok event := by
  refine CanonicalEvent.new_of_supplied ?_
  constructor
  · exact required_good rfl rfl
  · exact required_good rfl (tenant_good hchecked.tenant)
  · exact required_good rfl (datetime_good hread.timestamp)
  · exact required_good rfl (datetime_good hread.ingestedAt)
  · exact required_good rfl rfl
  · exact required_good rfl rfl
  · exact required_good rfl rfl
  · exact required_good rfl rfl
  · exact optional_model_good (fun _ => rfl) CanonicalUser.fields_dump rfl
  · exact optional_model_good (fun _ => rfl) CanonicalHost.fields_dump rfl
  · exact optional_model_good (fun _ => rfl) (CanonicalProcess.fields_dump hread.int) rfl
  · exact optional_model_good (fun _ => rfl) (CanonicalProcess.fields_dump hread.int) rfl
  · exact optional_text_good rfl
  · exact optional_text_good rfl
  · exact optional_int_good hread.int rfl
  · exact optional_int_good hread.int rfl
  · exact optional_text_good rfl
  · exact optional_text_good rfl
  · exact optional_text_good rfl
  · exact optional_model_good (fun _ => rfl) (CanonicalFile.fields_dump hread.int) rfl
  · exact optional_text_good rfl
  · exact optional_model_good (fun _ => rfl) CanonicalIdentity.fields_dump rfl
  · exact optional_model_good (fun _ => rfl) CanonicalCloudResource.fields_dump rfl
  · exact optional_text_good rfl
  · exact optional_outcome_good rfl
  · exact withDefault_good rfl (severity_good _)
  · exact withDefault_good rfl (bounded_good hread.confidence hchecked.confidence)
  · exact withDefault_good rfl (bounded_good hread.riskScore hchecked.riskScore)
  · exact withDefault_good rfl rfl
  · exact withDefault_good rfl rfl
  · exact withDefault_good rfl rfl
  · exact optional_text_good rfl
  · exact optional_text_good rfl
  · exact optional_text_good rfl
  · exact optional_text_good rfl

end BlueTeam.Schema

namespace BlueTeam.Ingest

open BlueTeam.Python BlueTeam.Schema BlueTeam.Lib BlueTeam.Lib.Exec

/-- The same JSON without the two fields that mark a canonical event. -/
def genericForm (payload : JsonObject) : JsonObject :=
  payload.filter fun f => f.1 ∉ ["schema_version", "tenant_id"]

/-- None of the texts that the generic route looks up is empty. -/
structure Filled (event : CanonicalEvent) : Prop where
  id : event.id ≠ ""
  source : event.source ≠ ""
  sourceType : event.sourceType ≠ ""
  eventType : event.eventType ≠ ""
  category : event.category ≠ ""
  srcIp : event.srcIp ≠ some ""
  dstIp : event.dstIp ≠ some ""
  action : event.action ≠ some ""
  schemaVersion : event.schemaVersion ≠ ""

structure AgreeOn (a b : CanonicalEvent) : Prop where
  id : a.id = b.id
  timestamp : a.timestamp = b.timestamp
  source : a.source = b.source
  sourceType : a.sourceType = b.sourceType
  eventType : a.eventType = b.eventType
  category : a.category = b.category
  user : a.user = b.user
  srcIp : a.srcIp = b.srcIp
  dstIp : a.dstIp = b.dstIp
  action : a.action = b.action
  outcome : a.outcome = b.outcome

/-! ### Lookups -/

theorem lookup_filter_key (p : String → Bool) (fields : JsonObject) (key : String) :
    (fields.filter fun f => p f.1).lookup key =
      if p key = true then fields.lookup key else none := by
  induction fields with
  | nil => simp
  | cons field fields ih =>
    rw [List.filter_cons, List.lookup_cons]
    by_cases hkey : key = field.1
    · subst hkey
      split
      · rename_i hp
        rw [List.lookup_cons, beq_self_eq_true]
      · rename_i hp
        rw [ih, if_neg hp]
    · have hne : (key == field.1) = false := beq_false_of_ne hkey
      rw [hne]
      split
      · rw [List.lookup_cons, hne, ih]
      · exact ih

theorem lookup_genericForm {payload : JsonObject} {key : String}
    (h : key ∉ ["schema_version", "tenant_id"]) :
    (genericForm payload).lookup key = payload.lookup key := by
  refine (lookup_filter_key (fun k => decide (k ∉ ["schema_version", "tenant_id"])) payload
    key).trans ?_
  rw [if_pos (decide_eq_true h)]

theorem get_genericForm_dropped {payload : JsonObject} {key : String}
    (h : key ∈ ["schema_version", "tenant_id"]) : Json.get (genericForm payload) key = .null := by
  have hlookup : (genericForm payload).lookup key = none := by
    refine (lookup_filter_key (fun k => decide (k ∉ ["schema_version", "tenant_id"])) payload
      key).trans ?_
    rw [if_neg (by simpa only [decide_eq_true_eq, not_not] using h)]
  unfold Json.get
  rw [hlookup]
  rfl

section

variable {payload : JsonObject} {key : String} {keys : List (List String)}

theorem first_of_present {v : Json} (hlookup : payload.lookup key = some v)
    (hpresent : Generic.present v = true) : Generic.first payload ([key] :: keys) = v := by
  have hpath : Generic.path (.obj payload) [key] = some v := by
    simp [Generic.path, hlookup]
  unfold Generic.first
  rw [List.findSome?_cons, hpath, Option.filter_some, if_pos hpresent]
  rfl

theorem first_of_missing {path : List String}
    (h : (Generic.path (.obj payload) path).filter Generic.present = none) :
    Generic.first payload (path :: keys) = Generic.first payload keys := by
  unfold Generic.first
  rw [List.findSome?_cons, h]

theorem first_of_texts {text : Option String}
    (hlookup : payload.lookup key = some (Json.ofOption text)) (hempty : text ≠ some "")
    (hrest : Generic.first payload keys = .null) :
    Generic.first payload ([key] :: keys) = Json.ofOption text := by
  cases text with
  | none =>
    refine (first_of_missing ?_).trans hrest
    simp [Generic.path, hlookup, Json.ofOption, Generic.present]
  | some s =>
    refine first_of_present hlookup ?_
    have hs : s ≠ "" := fun h => hempty (congrArg some h)
    simp [Generic.present, Json.ofOption, hs]

end

section

variable {rt : Runtime} {jsonTime : DateTime → String} {jsonFloat : PyFloat → String}
  {event : CanonicalEvent} {tenantId : String}

theorem canonical_route (hread : ReadsBack rt jsonTime jsonFloat event) (hchecked : Checked event)
    (hfilled : Filled event) (htenant : tenantId.startsWith "ten_" = true) (t : Ticks) :
    normalizePayload rt (event.dump jsonTime jsonFloat) tenantId t =
      (.ok { event with tenantId := tenantId }, t) := by
  have hcanonical : isCanonical (event.dump jsonTime jsonFloat) = true := by
    unfold isCanonical
    rw [Bool.and_eq_true, Bool.and_eq_true, Bool.and_eq_true]
    exact ⟨⟨⟨truthy_str.mpr hfilled.schemaVersion, truthy_str.mpr hfilled.id⟩,
      truthy_str.mpr hfilled.source⟩, truthy_str.mpr hfilled.sourceType⟩
  have hstamped : Json.setKey (event.dump jsonTime jsonFloat) "tenant_id" (.str tenantId) =
      CanonicalEvent.dump jsonTime jsonFloat { event with tenantId := tenantId } := rfl
  have hvalid : CanonicalEvent.modelValidate rt
      (CanonicalEvent.dump jsonTime jsonFloat { event with tenantId := tenantId }) =
        .ok { event with tenantId := tenantId } := by
    refine CanonicalEvent.modelValidate_dump ?_ ?_
    · exact ⟨hread.timestamp, hread.ingestedAt, hread.iso, hread.written, hread.confidence,
        hread.riskScore, hread.int⟩
    · exact ⟨htenant, hchecked.confidence, hchecked.riskScore⟩
  unfold normalizePayload
  simp only [hcanonical, if_true, hstamped, hvalid]
  rfl

/-- What the generic route makes of the event: the user's name is the text of the whole user. -/
def genericEvent (rt : Runtime) (tenantId : String) (ingestedAt : DateTime) (raw : JsonObject)
    (event : CanonicalEvent) : CanonicalEvent where
  id := event.id
  tenantId := tenantId
  timestamp := event.timestamp
  ingestedAt := ingestedAt
  source := event.source
  sourceType := event.sourceType
  eventType := event.eventType
  category := event.category
  user := event.user.map fun u => { name := some (rt.repr (.obj u.dump)) }
  srcIp := event.srcIp
  dstIp := event.dstIp
  action := event.action
  outcome := event.outcome
  rawEvent := raw

/-- What the generic route finds in a payload. -/
structure Found (payload : JsonObject) (event : CanonicalEvent) (time : String) : Prop where
  version : Json.get payload "schema_version" = .null
  id : Generic.first payload [["id"], ["event_id"]] = .str event.id
  timestamp : Generic.first payload [["timestamp"], ["time"], ["@timestamp"], ["event_time"]] =
    .str time
  source : Generic.first payload [["source"], ["vendor"]] = .str event.source
  sourceType : Generic.first payload [["source_type"], ["product"]] = .str event.sourceType
  eventType : Generic.first payload [["event_type"], ["type"]] = .str event.eventType
  category : Generic.first payload [["category"]] = .str event.category
  user : Generic.first payload [["user"], ["username"], ["user", "name"], ["account"]] =
    dumpModel CanonicalUser.dump event.user
  srcIp : Generic.first payload [["src_ip"], ["source_ip"], ["client_ip"], ["source", "ip"]] =
    Json.ofOption event.srcIp
  dstIp : Generic.first payload [["dst_ip"], ["destination_ip"], ["destination", "ip"]] =
    Json.ofOption event.dstIp
  action : Generic.first payload [["action"]] = Json.ofOption event.action
  outcome : Generic.first payload [["outcome"], ["result"]] =
    Json.ofOption (event.outcome.map Outcome.text)
  attributes : (payload.filter fun f => f.1 ∈ ["group", "role", "member"]) = []

theorem found_genericForm (hfilled : Filled event) (htime : jsonTime event.timestamp ≠ "") :
    Found (genericForm (event.dump jsonTime jsonFloat)) event (jsonTime event.timestamp) := by
  have hattributes : ((genericForm (event.dump jsonTime jsonFloat)).filter
      fun f => f.1 ∈ ["group", "role", "member"]) = [] := rfl
  have hversion := @get_genericForm_dropped (event.dump jsonTime jsonFloat) "schema_version"
    (by decide)
  have hget : ∀ key, key ∉ ["schema_version", "tenant_id"] →
      (genericForm (event.dump jsonTime jsonFloat)).lookup key =
        (event.dump jsonTime jsonFloat).lookup key :=
    fun key hkey => lookup_genericForm hkey
  generalize genericForm (event.dump jsonTime jsonFloat) = payload at hattributes hversion hget
  have htext : ∀ {key : String} {keys : List (List String)} {s : String},
      payload.lookup key = some (.str s) → s ≠ "" →
        Generic.first payload ([key] :: keys) = .str s :=
    fun hlookup hs => first_of_present hlookup (by simp [Generic.present, hs])
  have hmissing : ∀ {key : String} {keys : List (List String)}, payload.lookup key = none →
      Generic.first payload ([key] :: keys) = Generic.first payload keys :=
    fun hlookup => first_of_missing (by simp [Generic.path, hlookup])
  constructor
  · exact hversion
  · exact htext (hget _ (by decide)) hfilled.id
  · exact htext (hget _ (by decide)) htime
  · exact htext (hget _ (by decide)) hfilled.source
  · exact htext (hget _ (by decide)) hfilled.sourceType
  · exact htext (hget _ (by decide)) hfilled.eventType
  · exact htext (hget _ (by decide)) hfilled.category
  · have hlookup : payload.lookup "user" = some (dumpModel CanonicalUser.dump event.user) :=
      hget _ (by decide)
    revert hlookup
    cases event.user with
    | some u => exact fun hlookup => first_of_present hlookup rfl
    | none =>
      -- a dotted key goes through the user, which is null
      intro hlookup
      rw [first_of_missing (by simp [Generic.path, hlookup, dumpModel, Generic.present]),
        hmissing (hget _ (by decide)),
        first_of_missing (by simp [Generic.path, hlookup, dumpModel]),
        hmissing (hget _ (by decide))]
      rfl
  · have hlookup : payload.lookup "source" = some (.str event.source) := hget _ (by decide)
    refine first_of_texts (hget _ (by decide)) hfilled.srcIp ?_
    rw [hmissing (hget _ (by decide)), hmissing (hget _ (by decide))]
    exact first_of_missing (by simp [Generic.path, hlookup])
  · have hlookup : payload.lookup "destination" = none := hget _ (by decide)
    refine first_of_texts (hget _ (by decide)) hfilled.dstIp ?_
    rw [hmissing (hget _ (by decide))]
    exact first_of_missing (by simp [Generic.path, hlookup])
  · exact first_of_texts (hget _ (by decide)) hfilled.action rfl
  · refine first_of_texts (hget _ (by decide)) ?_ (hmissing (hget _ (by decide)))
    rcases event.outcome with _ | ⟨_ | _ | _⟩ <;> decide
  · exact hattributes

/-- The user argument of the generic route. -/
def userArg (rt : Runtime) (found : Json) : Arg :=
  if found.truthy then .user { name := some (found.text rt) } else .json .null

theorem optional_userArg {kw : Kwargs} (user : Option CanonicalUser)
    (hlookup : kw.lookup "user" = some (userArg rt (dumpModel CanonicalUser.dump user))) :
    Field.optional kw (Field.nested Arg.asUser CanonicalUser.fields) "" "user" =
      Field.good (user.map fun u => { name := some (rt.repr (.obj u.dump)) }) := by
  cases user with
  | none =>
    unfold Field.optional
    rw [hlookup]
    rfl
  | some u => exact Field.optional_good hlookup nofun rfl

theorem new_genericEvent (htenant : tenantId.startsWith "ten_" = true) (ingestedAt : DateTime)
    (raw : JsonObject) :
    CanonicalEvent.new rt
      [("id", .json (.str event.id)), ("tenant_id", .json (.str tenantId)),
       ("timestamp", .datetime event.timestamp), ("ingested_at", .datetime ingestedAt),
       ("source", .json (.str event.source)), ("source_type", .json (.str event.sourceType)),
       ("event_type", .json (.str event.eventType)), ("category", .json (.str event.category)),
       ("user", userArg rt (dumpModel CanonicalUser.dump event.user)),
       ("src_ip", .json (Json.ofOption event.srcIp)),
       ("dst_ip", .json (Json.ofOption event.dstIp)),
       ("action", .json (Json.ofOption event.action)),
       ("outcome", .json (Json.ofOption (event.outcome.map Outcome.text))),
       ("raw_event", .json (.obj raw)), ("attributes", .json (.obj []))] =
      .ok (genericEvent rt tenantId ingestedAt raw event) := by
  refine CanonicalEvent.new_of_supplied ?_
  constructor
  case id | source | sourceType | eventType | category => exact Field.required_good rfl rfl
  case tenantId => exact Field.required_good rfl (Field.tenant_good htenant)
  case timestamp | ingestedAt => exact Field.required_good rfl rfl
  case user => exact optional_userArg _ rfl
  case srcIp | dstIp | action => exact Field.optional_text_good rfl
  case outcome => exact Field.optional_outcome_good rfl
  case rawEvent | attributes => exact Field.withDefault_good rfl rfl
  case severity | confidence | riskScore | schemaVersion => exact Field.withDefault_absent rfl
  all_goals exact Field.optional_absent rfl

/-- What is found is the event, but the user is named by the text of the whole object. -/
theorem normalizeGeneric_of_found {payload : JsonObject} {time : String} {stamp : DateTime}
    (h : Found payload event time) (hfilled : Filled event)
    (htenant : tenantId.startsWith "ten_" = true)
    (hiso : rt.fromisoformat (replaceZ time) = .ok stamp) (hstamp : event.timestamp = stamp)
    (t : Ticks) :
    (Generic.normalizeGeneric rt payload tenantId t).1 =
      .ok (genericEvent rt tenantId (rt.now t.readings) payload event) := by
  have hstampRun : Generic.timestampOf rt payload t = (.ok event.timestamp, t) := by
    unfold Generic.timestampOf
    rw [h.timestamp]
    simp only [hiso, hstamp]
    rfl
  have hidRun : eventIdFrom rt (.str event.id) t = (.ok event.id, t) := by
    unfold eventIdFrom
    rw [if_pos (truthy_str.mpr hfilled.id)]
    rfl
  have htext : ∀ {s : String} (d : String), s ≠ "" →
      (Json.orElse (.str s) (.str d)).text rt = s := by
    intro s d hs
    rw [orElse_of_truthy _ (truthy_str.mpr hs)]
    rfl
  unfold Generic.normalizeGeneric
  rw [if_neg (by rw [h.version]; exact fun hall => Bool.noConfusion hall.1)]
  simp only [bind_run, hstampRun, andThen, h.id, hidRun, utcnow, h.source, h.sourceType,
    h.eventType, h.category, h.user, h.srcIp, h.dstIp, h.action, h.outcome, h.attributes,
    htext _ hfilled.source, htext _ hfilled.sourceType, htext _ hfilled.eventType,
    htext _ hfilled.category, lift, List.map_nil]
  have hnew := @new_genericEvent rt event tenantId htenant (rt.now t.readings) payload
  unfold userArg at hnew
  exact hnew

theorem adapterOf_dump (hlower : rt.lower "" = "") :
    adapterOf rt (genericForm (event.dump jsonTime jsonFloat)) = "" := by
  unfold adapterOf Json.get
  rw [lookup_genericForm (by decide)]
  exact hlower

theorem generic_route (hread : ReadsBack rt jsonTime jsonFloat event) (hfilled : Filled event)
    (htenant : tenantId.startsWith "ten_" = true) (hlower : rt.lower "" = "") (t : Ticks) :
    (normalizePayload rt (genericForm (event.dump jsonTime jsonFloat)) tenantId t).1 =
      .ok (genericEvent rt tenantId (rt.now t.readings)
        (genericForm (event.dump jsonTime jsonFloat)) event) := by
  have hcanonical : isCanonical (genericForm (event.dump jsonTime jsonFloat)) = false := by
    unfold isCanonical
    rw [get_genericForm_dropped (by decide)]
    rfl
  have habsent : ∀ key ∈ ["syslog_raw", "_path"],
      (Json.get (genericForm (event.dump jsonTime jsonFloat)) key).truthy = false := by
    intro key hkey
    unfold Json.get
    rcases List.mem_pair.mp hkey with rfl | rfl
    · rw [lookup_genericForm (by decide)]
      rfl
    · rw [lookup_genericForm (by decide)]
      rfl
  have hfound : Found (genericForm (event.dump jsonTime jsonFloat)) event
      (jsonTime event.timestamp) := found_genericForm hfilled hread.written
  have hgeneric := normalizeGeneric_of_found hfound hfilled htenant hread.iso rfl t
  rw [← hgeneric]
  unfold normalizePayload
  rw [hcanonical, habsent _ (by decide), habsent _ (by decide), adapterOf_dump hlower]
  rfl

end

/-- Both routes take the event, and make the same of all its fields. -/
def RoutesAgree (rt : Runtime) (payload : JsonObject) (tenantId : String) (t t' : Ticks) : Prop :=
  ∃ a b, (normalizePayload rt payload tenantId t).1 = .ok a ∧
    (normalizePayload rt (genericForm payload) tenantId t').1 = .ok b ∧ AgreeOn a b

/-- `str` of a dict is longer than each text in it. -/
def WritesTexts (rt : Runtime) : Prop :=
  ∀ fields key text, (key, .str text) ∈ fields → text.length < (rt.repr (.obj fields)).length

/-- The routes agree on the events without a user: the generic one names a user by the text of the
whole object. -/
theorem routes_agree_iff (rt : Runtime) (jsonTime : DateTime → String)
    (jsonFloat : PyFloat → String) (hlower : rt.lower "" = "") (hrepr : WritesTexts rt)
    (event : CanonicalEvent) (hread : ReadsBack rt jsonTime jsonFloat event)
    (hchecked : Checked event) (hfilled : Filled event) (tenantId : String)
    (htenant : tenantId.startsWith "ten_" = true) (t t' : Ticks) :
    RoutesAgree rt (event.dump jsonTime jsonFloat) tenantId t t' ↔ event.user = none := by
  have hcanonical := canonical_route hread hchecked hfilled htenant t
  have hgeneric := generic_route hread hfilled htenant hlower t'
  constructor
  · rintro ⟨a, b, ha, hb, hagree⟩
    obtain rfl := Except.ok.inj ((congrArg Prod.fst hcanonical).symm.trans ha)
    obtain rfl := Except.ok.inj (hgeneric.symm.trans hb)
    have huser : event.user = event.user.map fun u => { name := some (rt.repr (.obj u.dump)) } :=
      hagree.user
    cases hu : event.user with
    | none => rfl
    | some u =>
      rw [hu] at huser
      have hname : u.name = some (rt.repr (.obj u.dump)) :=
        congrArg CanonicalUser.name (Option.some.inj huser)
      -- the name would be in the text that it is equal to
      have hmem : ("name", Json.str (rt.repr (.obj u.dump))) ∈ u.dump := by
        have hfirst : ("name", Json.ofOption u.name) ∈ u.dump := List.mem_cons_self
        rwa [hname] at hfirst
      exact absurd (hrepr _ _ _ hmem) (Nat.lt_irrefl _)
  · intro huser
    refine ⟨_, _, congrArg Prod.fst hcanonical, hgeneric, ?_⟩
    refine ⟨rfl, rfl, rfl, rfl, rfl, rfl, ?_, rfl, rfl, rfl, rfl⟩
    show event.user = event.user.map _
    rw [huser]
    rfl

/-! ### Samples -/

def reprScalar : Json → String
  | .str text => "'" ++ text ++ "'"
  | _ => "None"

def reprFields : JsonObject → String
  | [] => ""
  | [field] => "'" ++ field.1 ++ "': " ++ reprScalar field.2
  | field :: fields => "'" ++ field.1 ++ "': " ++ reprScalar field.2 ++ ", " ++ reprFields fields

theorem length_reprFields {fields : JsonObject} {key text : String}
    (h : (key, .str text) ∈ fields) : text.length < (reprFields fields).length := by
  have hscalar : ∀ field : String × Json, field = (key, .str text) →
      text.length < (reprScalar field.2).length := by
    rintro field rfl
    show text.length < ("'" ++ text ++ "'").length
    rw [String.length_append, String.length_append, show "'".length = 1 from rfl]
    omega
  induction fields using reprFields.induct with
  | case1 => cases h
  | case2 field =>
    have hlength := hscalar field (List.mem_singleton.mp h).symm
    simp only [reprFields, String.length_append]
    omega
  | case3 field fields hne ih =>
    simp only [reprFields, String.length_append]
    rcases List.mem_cons.mp h with hfield | hrest
    · have hlength := hscalar field hfield.symm
      omega
    · have hlength := ih hrest
      omega

/-- A time and a runtime that reads its text; objects are flat, without anything but texts and
nulls. -/
def resentAt : DateTime := ⟨63835597000000000, some 0⟩

def resendTime (_ : DateTime) : String := "2023-11-14T22:16:40Z"

def resendFloat (x : PyFloat) : String :=
  if x = .finite 1 then "1.0" else "0.0"

def resendRuntime : Runtime :=
  { sampleRuntime with
    repr := fun v => match v with
      | .obj fields => "\x7b" ++ reprFields fields ++ "\x7d"
      | _ => ""
    fromisoformat := fun text =>
      if text = "2023-11-14T22:16:40+00:00" then .ok resentAt
      else .error ("Invalid isoformat string: " ++ text)
    validDatetime := fun v => if v = .str "2023-11-14T22:16:40Z" then some resentAt else none
    validFloat := fun v =>
      if v = .float "1.0" then some (.finite 1) else if v = .float "0.0" then some (.finite 0)
      else none }

def resentEvent (user : Option CanonicalUser) : CanonicalEvent where
  id := "evt_1"
  tenantId := "ten_a"
  timestamp := resentAt
  ingestedAt := resentAt
  source := "idp"
  sourceType := "identity"
  eventType := "login"
  category := "authentication"
  user := user
  srcIp := some "10.0.0.8"
  dstIp := some "10.0.0.9"
  action := some "login"
  outcome := some .failure

theorem readsBack_resentEvent (user : Option CanonicalUser) :
    ReadsBack resendRuntime resendTime resendFloat (resentEvent user) where
  timestamp := (by decide :
    resendRuntime.validDatetime (.str (resendTime resentAt)) = some resentAt)
  ingestedAt := (by decide :
    resendRuntime.validDatetime (.str (resendTime resentAt)) = some resentAt)
  iso := (by decide : resendRuntime.fromisoformat (replaceZ (resendTime resentAt)) = .ok resentAt)
  written := (by decide : resendTime resentAt ≠ "")
  confidence := (by decide :
    resendRuntime.validFloat (.float (resendFloat (.finite 1))) = some (.finite 1))
  riskScore := (by decide :
    resendRuntime.validFloat (.float (resendFloat (.finite 0))) = some (.finite 0))
  int _ := rfl

theorem routes_agree_iff_userless :
    RoutesAgree resendRuntime ((resentEvent none).dump resendTime resendFloat) "ten_a" {} {} := by
  have hrepr : WritesTexts resendRuntime := by
    intro fields key text h
    have hlength := length_reprFields h
    show text.length < ("\x7b" ++ reprFields fields ++ "\x7d").length
    rw [String.length_append, String.length_append]
    omega
  exact (routes_agree_iff resendRuntime resendTime resendFloat (by decide) hrepr (resentEvent none)
    (readsBack_resentEvent none) ⟨by decide +kernel, by decide, by decide⟩
    ⟨by decide, by decide, by decide, by decide, by decide, by decide, by decide, by decide,
      by decide⟩ "ten_a" (by decide +kernel) {} {}).mpr rfl

/-- The generic route calls alice by the text of her whole record. -/
theorem routes_disagree :
    (∃ a, (normalizePayload resendRuntime ((resentEvent (some { name := some "alice" })).dump
        resendTime resendFloat) "ten_a" {}).1 = .ok a ∧
      a.user.bind (·.name) = some "alice") ∧
    (∃ b, (normalizePayload resendRuntime (genericForm
        ((resentEvent (some { name := some "alice" })).dump resendTime resendFloat)) "ten_a" {}).1 =
          .ok b ∧
      b.user.bind (·.name) =
        some "\x7b'name': 'alice', 'id': None, 'email': None, 'domain': None\x7d") ∧
    ¬ RoutesAgree resendRuntime ((resentEvent (some { name := some "alice" })).dump resendTime
      resendFloat) "ten_a" {} {} := by
  have hread := readsBack_resentEvent (some { name := some "alice" })
  have hfilled : Filled (resentEvent (some { name := some "alice" })) :=
    ⟨by decide, by decide, by decide, by decide, by decide, by decide, by decide, by decide,
      by decide⟩
  have hcanonical := canonical_route hread ⟨by decide +kernel, by decide, by decide⟩ hfilled
    (show "ten_a".startsWith "ten_" = true by decide +kernel) {}
  have hgeneric := generic_route hread hfilled
    (show "ten_a".startsWith "ten_" = true by decide +kernel) (by decide) {}
  refine ⟨⟨_, congrArg Prod.fst hcanonical, rfl⟩, ⟨_, hgeneric, by decide⟩, ?_⟩
  rintro ⟨a, b, ha, hb, hagree⟩
  obtain rfl := Except.ok.inj ((congrArg Prod.fst hcanonical).symm.trans ha)
  obtain rfl := Except.ok.inj (hgeneric.symm.trans hb)
  exact absurd hagree.user (by decide)

end BlueTeam.Ingest
