/- GID: BlueTeam/Ingest/Routes
   generality: I
   source: packages/ingest-adapters/blueteam_ingest/router.py, and the adapters behind it
   digest: What each route of the router takes over from a payload: its id, its idempotency key and
     its time stamp. -/

import BlueTeam.Ingest.Normalize

set_option autoImplicit false
set_option relaxedAutoImplicit false

namespace BlueTeam.Ingest

open BlueTeam.Python BlueTeam.Schema BlueTeam.Lib BlueTeam.Lib.Exec

/-! ### Lookups -/

theorem lookup_map_eq {α β : Type} (f : α → β) (fields : List (String × α)) (key : String) :
    (fields.map fun a => (a.1, f a.2)).lookup key = (fields.lookup key).map f := by
  induction fields with
  | nil => rfl
  | cons field fields ih =>
      rw [List.map_cons, List.lookup_cons, List.lookup_cons, ih]
      split <;> rfl

theorem lookup_ofObject (fields : JsonObject) (key : String) :
    (Kwargs.ofObject fields).lookup key = (fields.lookup key).map .json :=
  lookup_map_eq Arg.json fields key

theorem lookup_append_of_ne {fields : JsonObject} {key other : String} (h : key ≠ other)
    (value : Json) : (fields ++ [(other, value)]).lookup key = fields.lookup key := by
  have hne : (key == other) = false := beq_false_of_ne h
  rw [List.lookup_append, List.lookup_cons, hne]
  exact Option.or_none

theorem lookup_setKey_of_ne {fields : JsonObject} {key other : String} (h : key ≠ other)
    (value : Json) : (Json.setKey fields other value).lookup key = fields.lookup key := by
  have hne : (key == other) = false := beq_false_of_ne h
  unfold Json.setKey
  split
  · clear * - hne h
    induction fields with
    | nil => rfl
    | cons field fields ih =>
        rw [List.map_cons, List.lookup_cons, List.lookup_cons, ih]
        by_cases hfield : field.1 = other
        · simp [hfield, hne]
        · simp [hfield]
  · exact lookup_append_of_ne h value

theorem lookup_setKey_self (fields : JsonObject) (key : String) (value : Json) :
    (Json.setKey fields key value).lookup key = some value := by
  unfold Json.setKey
  split
  · rename_i hkey
    induction fields with
    | nil => cases hkey
    | cons field fields ih =>
        rw [List.map_cons, List.lookup_cons]
        by_cases hfield : field.1 = key
        · simp [hfield]
        · have hne : (key == field.1) = false := beq_false_of_ne (Ne.symm hfield)
          rw [List.lookup_cons, hne] at hkey
          simp only [hfield, if_false, hne]
          exact ih hkey
  · rename_i hkey
    have hnone : fields.lookup key = none := Option.not_isSome_iff_eq_none.mp hkey
    rw [List.lookup_append, hnone]
    simp

theorem get_setKey_of_ne {fields : JsonObject} {key other : String} (h : key ≠ other)
    (value : Json) : Json.get (Json.setKey fields other value) key = Json.get fields key := by
  unfold Json.get
  rw [lookup_setKey_of_ne h]

theorem get_setDefault_of_ne {fields : JsonObject} {key other : String} (h : key ≠ other)
    (value : Json) : Json.get (Json.setDefault fields other value) key = Json.get fields key := by
  unfold Json.get Json.setDefault
  split
  · rfl
  · rw [lookup_append_of_ne h]

/-! ### What a constructed event takes from its arguments -/

/-- The argument a time stamp is read from. -/
def IsStamp (rt : Runtime) (d : DateTime) : Arg → Prop
  | .datetime d' => d' = d
  | .json v => rt.validDatetime v = some d
  | _ => False

/-- The text an optional field gets. -/
def textArg : Option Arg → Option String
  | some (.json (.str s)) => some s
  | _ => none

structure Constructed (rt : Runtime) (kw : Kwargs) (event : CanonicalEvent) : Prop where
  id : kw.lookup "id" = some (.json (.str event.id))
  tenantId : kw.lookup "tenant_id" = some (.json (.str event.tenantId))
  timestamp : ∃ a, kw.lookup "timestamp" = some a ∧ IsStamp rt event.timestamp a
  idempotencyKey : event.idempotencyKey = textArg (kw.lookup "idempotency_key")

theorem str_of_errors_nil {loc : String} {a : Arg} (h : (Field.str loc a).errors = []) :
    a = .json (.str (Field.str loc a).value) := by
  revert h
  unfold Field.str
  split
  · intro _
    rfl
  · intro h
    cases h

theorem tenant_of_errors_nil {loc : String} {a : Arg}
    (h : (Field.tenantRequired loc a).errors = []) :
    a = .json (.str (Field.tenantRequired loc a).value) := by
  revert h
  unfold Field.tenantRequired
  split
  · split_ifs
    · intro _
      rfl
    · intro h
      cases h
  · intro h
    cases h

theorem datetime_of_errors_nil {rt : Runtime} {loc : String} {a : Arg}
    (h : (Field.datetime rt loc a).errors = []) :
    IsStamp rt (Field.datetime rt loc a).value a := by
  revert h
  unfold Field.datetime
  split
  · intro _
    rfl
  · rename_i v
    intro h
    cases hv : rt.validDatetime v with
    | none =>
        rw [hv] at h
        cases h
    | some d => exact hv
  · intro h
    cases h

theorem required_of_errors_nil {α : Type} [Inhabited α] {kw : Kwargs} {check : Field.Check α}
    {loc name : String} (h : (Field.required kw check loc name).errors = []) :
    ∃ a, kw.lookup name = some a ∧ (check (loc ++ name) a).errors = [] ∧
      (Field.required kw check loc name).value = (check (loc ++ name) a).value := by
  unfold Field.required at h ⊢
  cases hkw : kw.lookup name with
  | none =>
      rw [hkw] at h
      cases h
  | some a =>
      rw [hkw] at h
      exact ⟨a, rfl, h, rfl⟩

theorem optional_of_errors_nil {kw : Kwargs} {loc name : String}
    (h : (Field.optional kw Field.str loc name).errors = []) :
    (Field.optional kw Field.str loc name).value = textArg (kw.lookup name) := by
  unfold Field.optional at h ⊢
  split
  · rename_i hkw
    rw [hkw]
    rfl
  · rename_i hkw
    rw [hkw]
    rfl
  · rename_i a hnull hkw
    simp only [hkw] at h
    have htext := str_of_errors_nil h
    rw [hkw, htext]
    rfl

theorem constructed_of_new {rt : Runtime} {kw : Kwargs} {event : CanonicalEvent}
    (h : CanonicalEvent.new rt kw = .ok event) : Constructed rt kw event := by
  unfold CanonicalEvent.new Field.construct at h
  split at h
  · rename_i herrors
    obtain rfl := Except.ok.inj h
    rw [List.isEmpty_iff] at herrors
    simp only [CanonicalEvent.fields, List.append_eq_nil_iff] at herrors
    obtain ⟨id, hid, hstr, hidValue⟩ := required_of_errors_nil
      (show (Field.required kw Field.str "" "id").errors = [] by simp only [herrors])
    obtain ⟨tenant, htenant, hten, htenantValue⟩ := required_of_errors_nil
      (show (Field.required kw Field.tenantRequired "" "tenant_id").errors = [] by
        simp only [herrors])
    obtain ⟨stamp, hstamp, hread, hstampValue⟩ := required_of_errors_nil
      (show (Field.required kw (Field.datetime rt) "" "timestamp").errors = [] by
        simp only [herrors])
    refine ⟨?_, ?_, ⟨stamp, hstamp, ?_⟩, ?_⟩
    · rw [hid, str_of_errors_nil hstr]
      exact congrArg (fun s => some (Arg.json (.str s))) hidValue.symm
    · rw [htenant, tenant_of_errors_nil hten]
      exact congrArg (fun s => some (Arg.json (.str s))) htenantValue.symm
    · show IsStamp rt (Field.required kw (Field.datetime rt) "" "timestamp").value stamp
      rw [hstampValue]
      exact datetime_of_errors_nil hread
    · exact optional_of_errors_nil (show
        (Field.optional kw Field.str "" "idempotency_key").errors = [] by simp only [herrors])
  · cases h

/-! ### What the routes take over -/

/-- The payloads that `normalize_generic` hands on as they are. -/
def isPassthrough (payload : JsonObject) : Bool :=
  (Json.get payload "schema_version").truthy && (Json.get payload "id").truthy &&
    (Json.get payload "tenant_id").truthy

/-- The sources of `normalize_endpoint`. -/
def endpointAdapters : List String :=
  ["sysmon", "wazuh", "osquery", "linux-audit", "audit", "auditd"]

/-- The routes of `normalize_payload`. -/
inductive Route
  | canonical
  | syslog
  | network
  | endpoint
  | passthrough
  | generic
  deriving DecidableEq, Repr

def routeOf (rt : Runtime) (payload : JsonObject) : Route :=
  let adapter := adapterOf rt payload
  if isCanonical payload then .canonical
  else if (Json.get payload "syslog_raw").truthy ∨ adapter = "syslog" then .syslog
  else if adapter = "zeek" ∨ (Json.get payload "_path").truthy then .network
  else if adapter = "suricata" then .network
  else if adapter ∈ endpointAdapters then .endpoint
  else if isPassthrough payload then .passthrough
  else .generic

/-- A field that is used as the id of an event, if it is not empty. -/
def idFrom (rt : Runtime) (given : Json) : Option String :=
  if given.truthy then some (given.text rt) else none

/-- The id that the route takes from the payload; without one, it makes up a new id. -/
def carriedId (rt : Runtime) (payload : JsonObject) : Option String :=
  match routeOf rt payload with
  | .canonical | .endpoint | .passthrough => idFrom rt (Json.get payload "id")
  | .syslog => none
  | .network =>
      (idFrom rt (Json.getFirst payload ["uid", "flow_id", "id"])).filter (·.startsWith "evt_")
  | .generic => idFrom rt (Generic.first payload [["id"], ["event_id"]])

/-- The idempotency key that the route takes from the payload: only events that are validated as
they are keep it. -/
def carriedKey (rt : Runtime) (payload : JsonObject) : Option String :=
  match routeOf rt payload with
  | .canonical | .passthrough => textArg ((payload.lookup "idempotency_key").map .json)
  | _ => none

/-- The time stamp in the header of a syslog line. -/
def lineStamp (rt : Runtime) (text : String) : Option DateTime :=
  match rt.reMatch Syslog.rfc5424 text with
  | some groups =>
      let value := (groups.lookup "ts").getD ""
      if value ∈ ["-", ""] then none else (rt.fromisoformat (replaceZ value)).toOption
  | none => none

/-- The time stamp among the fields that `normalize_generic` knows. -/
def genericStamp (rt : Runtime) (payload : JsonObject) : Option DateTime :=
  match Generic.first payload [["timestamp"], ["time"], ["@timestamp"], ["event_time"]] with
  | .str text => (rt.fromisoformat (replaceZ text)).toOption
  | _ => none

/-- The line of a syslog payload. -/
def syslogLine (rt : Runtime) (payload : JsonObject) : String :=
  rt.strip ((Json.orElse (Json.getFirst payload ["syslog_raw", "message"]) (.str "")).text rt)

/-- The time stamp that the route takes from the payload as it is, with or without an offset. -/
def carriedTimestamp (rt : Runtime) (payload : JsonObject) : Option DateTime :=
  match routeOf rt payload with
  | .canonical | .passthrough => rt.validDatetime (Json.get payload "timestamp")
  | .syslog => lineStamp rt (syslogLine rt payload)
  | .network | .endpoint => none
  | .generic => genericStamp rt payload

/-- `datetime.fromtimestamp(value, tz=UTC)` is aware. -/
def AwareEpochs (rt : Runtime) : Prop :=
  ∀ v d, rt.fromtimestamp v = .ok d → d.offset.isSome = true

/-- The id is the one that was carried, or else a new one. -/
def IdFrom (rt : Runtime) (id : String) : Option String → Prop
  | some carried => id = carried
  | none => ∃ n, id = "evt" ++ "_" ++ rt.uuid4 n

/-- The time stamp is the one that was carried, or else an aware one. -/
def StampFrom (rt : Runtime) (stamp : DateTime) : Option DateTime → Prop
  | some carried => stamp = carried
  | none => rt.AwareClock → AwareEpochs rt → stamp.offset.isSome = true

/-- What an event has of its payload. -/
structure Carried (rt : Runtime) (payload : JsonObject) (event : CanonicalEvent) : Prop where
  id : IdFrom rt event.id (carriedId rt payload)
  idempotencyKey : event.idempotencyKey = carriedKey rt payload
  timestamp : StampFrom rt event.timestamp (carriedTimestamp rt payload)

/-! ### The adapters -/

section

variable {rt : Runtime} {tenantId : String} {event : CanonicalEvent} {t t' : Ticks}

theorem idFrom_of_newId {id : String} (h : newId rt "evt" t = (.ok id, t')) : IdFrom rt id none :=
  ⟨t.uuids, (Except.ok.inj (Prod.mk.inj h).1).symm⟩

theorem idFrom_of_eventIdFrom {given : Json} {id : String}
    (h : eventIdFrom rt given t = (.ok id, t')) : IdFrom rt id (idFrom rt given) := by
  unfold eventIdFrom at h
  unfold idFrom
  split at h
  · rename_i hgiven
    rw [if_pos hgiven]
    exact (Except.ok.inj (Prod.mk.inj h).1).symm
  · rename_i hgiven
    rw [if_neg hgiven]
    exact idFrom_of_newId h

theorem idFrom_of_prefixedId {claimed id : String} {carried : Option String}
    (hclaimed : IdFrom rt claimed carried)
    (h : Network.prefixedId rt claimed t = (.ok id, t')) :
    IdFrom rt id (carried.filter (·.startsWith "evt_")) := by
  unfold Network.prefixedId at h
  split at h
  · rename_i hprefix
    obtain rfl := Except.ok.inj (Prod.mk.inj h).1
    cases carried with
    | none => exact hclaimed
    | some carried =>
        obtain rfl : claimed = carried := hclaimed
        simp only [Option.filter, hprefix]
        exact rfl
  · rename_i hprefix
    have hnew := idFrom_of_newId h
    cases carried with
    | none => exact hnew
    | some carried =>
        obtain rfl : claimed = carried := hclaimed
        simp only [Option.filter, hprefix]
        exact hnew

theorem aware_of_utcnow {d : DateTime} (h : utcnow rt t = (.ok d, t')) (hclock : rt.AwareClock) :
    d.offset.isSome = true := by
  obtain rfl := Except.ok.inj (Prod.mk.inj h).1
  rw [hclock]
  rfl

theorem aware_of_timestampFrom {given : Json} {read : Json → Except Exn DateTime} {d : DateTime}
    (h : timestampFrom rt given read t = (.ok d, t')) (hclock : rt.AwareClock)
    (hread : ∀ v d, read v = .ok d → d.offset.isSome = true) : d.offset.isSome = true := by
  unfold timestampFrom at h
  split at h
  · exact hread given d (Prod.mk.inj h).1
  · exact aware_of_utcnow h hclock

theorem aware_of_isoTimestamp {v : Json} {d : DateTime} (h : isoTimestamp rt v = .ok d) :
    d.offset.isSome = true := by
  obtain ⟨parsed, -, rfl⟩ := except_of_map h
  rfl

theorem aware_of_network {v : Json} {d : DateTime} (hepochs : AwareEpochs rt)
    (h : Network.timestampOf rt v = .ok d) : d.offset.isSome = true := by
  unfold Network.timestampOf at h
  split at h
  · exact hepochs _ d h
  · exact hepochs _ d h
  · exact hepochs _ d h
  · exact aware_of_isoTimestamp h

/-- Arguments that do not set the idempotency key. -/
def Unkeyed (fields : Kwargs) : Prop :=
  fields.lookup "idempotency_key" = none

/-- An event that an adapter built, with the id and the time stamp it found in the raw event. -/
structure Adapted (rt : Runtime) (carried : Option String) (read : Option DateTime)
    (event : CanonicalEvent) : Prop where
  id : IdFrom rt event.id carried
  idempotencyKey : event.idempotencyKey = none
  timestamp : StampFrom rt event.timestamp read

theorem adapted_of_constructed {carried : Option String} {read : Option DateTime} {kw : Kwargs}
    {id : String} {stamp : DateTime} (h : CanonicalEvent.new rt kw = .ok event)
    (hid : kw.lookup "id" = some (.json (.str id)))
    (hstamp : kw.lookup "timestamp" = some (.datetime stamp)) (hkey : Unkeyed kw)
    (hfrom : IdFrom rt id carried) (haware : StampFrom rt stamp read) :
    Adapted rt carried read event := by
  have hnew := constructed_of_new h
  obtain ⟨a, ha, hread⟩ := hnew.timestamp
  rw [hstamp] at ha
  obtain rfl := Option.some.inj ha
  have heq := hnew.id
  rw [hid] at heq
  refine ⟨?_, ?_, ?_⟩
  · injection heq with heq
    injection heq with heq
    injection heq with heq
    rw [← heq]
    exact hfrom
  · rw [hnew.idempotencyKey, hkey]
    rfl
  · rw [← show stamp = event.timestamp from hread]
    exact haware

theorem adapted_of_event {source sourceType eventType category : String} {raw : JsonObject}
    {fields : Kwargs} (hfields : Unkeyed fields)
    (h : Network.event rt tenantId source sourceType eventType category raw fields t =
      (.ok event, t')) :
    Adapted rt ((idFrom rt (Json.getFirst raw ["uid", "flow_id", "id"])).filter
      (·.startsWith "evt_")) none event := by
  obtain ⟨claimed, t₁, hclaimed, h⟩ := ok_of_bind h
  obtain ⟨id, t₂, hid, h⟩ := ok_of_bind h
  obtain ⟨stamp, t₃, hstamp, h⟩ := ok_of_bind h
  obtain ⟨ingestedAt, t₄, -, h⟩ := ok_of_bind h
  refine adapted_of_constructed (Prod.mk.inj h).1 rfl rfl ?_
    (idFrom_of_prefixedId (idFrom_of_eventIdFrom hclaimed) hid) ?_
  · show List.lookup _ (_ ++ fields) = none
    rw [List.lookup_append, hfields]
    rfl
  · intro hclock hepochs
    exact aware_of_timestampFrom hstamp hclock fun _ _ => aware_of_network hepochs

theorem adapted_of_canonical {source eventType category : String} {raw : JsonObject}
    {fields : Kwargs} (hfields : Unkeyed fields)
    (h : Endpoint.canonical rt tenantId source eventType category raw fields t = (.ok event, t')) :
    Adapted rt (idFrom rt (Json.get raw "id")) none event := by
  obtain ⟨id, t₁, hid, h⟩ := ok_of_bind h
  obtain ⟨stamp, t₂, hstamp, h⟩ := ok_of_bind h
  obtain ⟨ingestedAt, t₃, -, h⟩ := ok_of_bind h
  refine adapted_of_constructed (Prod.mk.inj h).1 rfl rfl ?_ (idFrom_of_eventIdFrom hid) ?_
  · show List.lookup _ (_ ++ fields) = none
    rw [List.lookup_append, hfields]
    rfl
  · intro hclock _
    exact aware_of_timestampFrom hstamp hclock fun _ _ => aware_of_isoTimestamp

/-- A `files` log gets a field more, and no other one changes. -/
theorem zeekFile_get {kind : String} {raw raw' : JsonObject} {file : Arg}
    (h : Network.zeekFile rt kind raw = .ok (file, raw')) {key : String} (hkey : key ≠ "file_hash") :
    Json.get raw' key = Json.get raw key := by
  unfold Network.zeekFile at h
  split at h
  · obtain ⟨_, -, heq⟩ := except_of_map h
    obtain ⟨-, rfl⟩ := Prod.mk.inj heq
    exact get_setKey_of_ne hkey _
  · obtain ⟨-, rfl⟩ := Prod.mk.inj (Except.ok.inj h)
    rfl

theorem zeekFields_spec {kind : String} {raw raw' : JsonObject} {fields : Kwargs}
    (h : Network.zeekFields rt kind raw = .ok (raw', fields)) :
    Unkeyed fields ∧ ∀ key, key ≠ "file_hash" → Json.get raw' key = Json.get raw key := by
  obtain ⟨⟨file, raw₁⟩, hfile, h⟩ := except_of_bind h
  obtain ⟨srcPort, -, h⟩ := except_of_bind h
  obtain ⟨dstPort, -, h⟩ := except_of_bind h
  obtain ⟨host, -, h⟩ := except_of_bind h
  obtain ⟨failed, -, h⟩ := except_of_bind h
  obtain ⟨rfl, rfl⟩ := Prod.mk.inj (Except.ok.inj h)
  exact ⟨rfl, fun _ hkey => zeekFile_get hfile hkey⟩

theorem suricataFields_unkeyed {kind : String} {raw : JsonObject} {fields : Kwargs}
    (h : Network.suricataFields rt kind raw = .ok fields) : Unkeyed fields := by
  obtain ⟨alert, -, h⟩ := except_of_bind h
  obtain ⟨level, -, h⟩ := except_of_bind h
  obtain ⟨file, -, h⟩ := except_of_bind h
  obtain ⟨domain, -, h⟩ := except_of_bind h
  obtain ⟨url, -, h⟩ := except_of_bind h
  obtain ⟨host, -, h⟩ := except_of_bind h
  obtain rfl := Except.ok.inj h
  rfl

theorem sysmonFields_unkeyed {eventId : Int} {eventType : String} {raw : JsonObject}
    {fields : Kwargs} (h : Endpoint.sysmonFields rt eventId eventType raw = .ok fields) :
    Unkeyed fields := by
  obtain ⟨parentPid, -, h⟩ := except_of_bind h
  obtain ⟨parent, -, h⟩ := except_of_bind h
  obtain ⟨name, -, h⟩ := except_of_bind h
  obtain ⟨pid, -, h⟩ := except_of_bind h
  obtain ⟨process, -, h⟩ := except_of_bind h
  obtain ⟨user, -, h⟩ := except_of_bind h
  obtain ⟨host, -, h⟩ := except_of_bind h
  obtain ⟨file, -, h⟩ := except_of_bind h
  obtain rfl := Except.ok.inj h
  rfl

theorem wazuhFields_unkeyed {raw : JsonObject} {eventType category : String} {fields : Kwargs}
    (h : Endpoint.wazuhFields rt raw = .ok (eventType, category, fields)) : Unkeyed fields := by
  obtain ⟨data, -, h⟩ := except_of_bind h
  obtain ⟨process, -, h⟩ := except_of_bind h
  obtain ⟨parent, -, h⟩ := except_of_bind h
  obtain ⟨userName, -, h⟩ := except_of_bind h
  obtain ⟨user, -, h⟩ := except_of_bind h
  obtain ⟨agent, -, h⟩ := except_of_bind h
  obtain ⟨host, -, h⟩ := except_of_bind h
  obtain ⟨rule, -, h⟩ := except_of_bind h
  obtain ⟨level, -, h⟩ := except_of_bind h
  obtain ⟨-, -, rfl⟩ := Prod.mk.inj (Except.ok.inj h)
  rfl

theorem osqueryFields_unkeyed {name : String} {raw : JsonObject} {fields : Kwargs}
    (h : Endpoint.osqueryFields rt name raw = .ok fields) : Unkeyed fields := by
  obtain ⟨columns, -, h⟩ := except_of_bind h
  obtain ⟨pid, -, h⟩ := except_of_bind h
  obtain ⟨process, -, h⟩ := except_of_bind h
  obtain ⟨parentPid, -, h⟩ := except_of_bind h
  obtain ⟨parent, -, h⟩ := except_of_bind h
  obtain ⟨user, -, h⟩ := except_of_bind h
  obtain ⟨host, -, h⟩ := except_of_bind h
  obtain rfl := Except.ok.inj h
  rfl

theorem linuxAuditFields_unkeyed {eventType : String} {raw : JsonObject} {fields : Kwargs}
    (h : Endpoint.linuxAuditFields rt eventType raw = .ok fields) : Unkeyed fields := by
  obtain ⟨pid, -, h⟩ := except_of_bind h
  obtain ⟨process, -, h⟩ := except_of_bind h
  obtain ⟨parentPid, -, h⟩ := except_of_bind h
  obtain ⟨parent, -, h⟩ := except_of_bind h
  obtain ⟨user, -, h⟩ := except_of_bind h
  obtain ⟨host, -, h⟩ := except_of_bind h
  obtain rfl := Except.ok.inj h
  rfl

theorem normalizeZeek_adapted {raw : JsonObject}
    (h : Network.normalizeZeek rt raw tenantId t = (.ok event, t')) :
    Adapted rt ((idFrom rt (Json.getFirst raw ["uid", "flow_id", "id"])).filter
      (·.startsWith "evt_")) none event := by
  obtain ⟨name, t₁, -, h⟩ := ok_of_bind h
  dsimp only at h
  split at h
  · cases h
  · obtain ⟨⟨raw', fields⟩, t₂, hfields, h⟩ := ok_of_bind h
    obtain ⟨hunkeyed, hget⟩ := zeekFields_spec (Prod.mk.inj hfields).1
    have hadapted := adapted_of_event hunkeyed h
    have hids : Json.getFirst raw' ["uid", "flow_id", "id"] =
        Json.getFirst raw ["uid", "flow_id", "id"] := by
      simp only [Json.getFirst, hget _ (show "uid" ≠ "file_hash" by decide),
        hget _ (show "flow_id" ≠ "file_hash" by decide),
        hget _ (show "id" ≠ "file_hash" by decide)]
    rw [hids] at hadapted
    exact hadapted

theorem normalizeSuricata_adapted {raw : JsonObject}
    (h : Network.normalizeSuricata rt raw tenantId t = (.ok event, t')) :
    Adapted rt ((idFrom rt (Json.getFirst raw ["uid", "flow_id", "id"])).filter
      (·.startsWith "evt_")) none event := by
  unfold Network.normalizeSuricata at h
  split at h
  · cases h
  · obtain ⟨fields, t₁, hfields, h⟩ := ok_of_bind h
    exact adapted_of_event (suricataFields_unkeyed (Prod.mk.inj hfields).1) h

theorem normalizeEndpoint_adapted {raw : JsonObject}
    (h : Endpoint.normalizeEndpoint rt raw tenantId t = (.ok event, t')) :
    Adapted rt (idFrom rt (Json.get raw "id")) none event := by
  unfold Endpoint.normalizeEndpoint at h
  split_ifs at h
  · obtain ⟨⟨eventType, category, fields⟩, t₁, hfields, h⟩ := ok_of_bind h
    exact adapted_of_canonical (wazuhFields_unkeyed (Prod.mk.inj hfields).1) h
  · obtain ⟨fields, t₁, hfields, h⟩ := ok_of_bind h
    exact adapted_of_canonical (osqueryFields_unkeyed (Prod.mk.inj hfields).1) h
  · obtain ⟨fields, t₁, hfields, h⟩ := ok_of_bind h
    exact adapted_of_canonical (linuxAuditFields_unkeyed (Prod.mk.inj hfields).1) h
  · obtain ⟨eventId, t₁, -, h⟩ := ok_of_bind h
    obtain ⟨fields, t₂, hfields, h⟩ := ok_of_bind h
    exact adapted_of_canonical (sysmonFields_unkeyed (Prod.mk.inj hfields).1) h

theorem stampFrom_of_header {text : String} {header : Syslog.Header}
    (h : Syslog.header rt text t = (.ok header, t')) :
    StampFrom rt header.timestamp (lineStamp rt text) := by
  unfold Syslog.header at h
  unfold lineStamp
  cases hmatch : rt.reMatch Syslog.rfc5424 text with
  | some groups =>
      simp only [hmatch] at h ⊢
      obtain ⟨stamp, t₁, hstamp, h⟩ := ok_of_bind h
      obtain rfl := Except.ok.inj (Prod.mk.inj h).1
      unfold Syslog.timestampOf at hstamp
      split at hstamp
      · rename_i hnone
        rw [if_pos hnone]
        exact fun hclock _ => aware_of_utcnow hstamp hclock
      · rename_i hsome
        rw [if_neg hsome]
        have hparsed := (Prod.mk.inj hstamp).1
        cases hiso : rt.fromisoformat (replaceZ ((groups.lookup "ts").getD "")) with
        | error e =>
            rw [hiso] at hparsed
            cases hparsed
        | ok d =>
            rw [hiso] at hparsed
            exact (Except.ok.inj hparsed).symm
  | none =>
      simp only [hmatch] at h ⊢
      intro hclock _
      generalize rt.reMatch Syslog.rfc3164 text = groups at h
      rcases groups with _ | groups <;>
      · obtain ⟨stamp, t₁, hstamp, h⟩ := ok_of_bind h
        obtain rfl := Except.ok.inj (Prod.mk.inj h).1
        exact aware_of_utcnow hstamp hclock

theorem parseSyslogLine_adapted {line : String}
    (h : Syslog.parseSyslogLine rt line tenantId t = (.ok event, t')) :
    Adapted rt none (lineStamp rt (rt.strip line)) event := by
  unfold Syslog.parseSyslogLine at h
  dsimp only at h
  split at h
  · cases h
  · obtain ⟨header, t₁, hheader, h⟩ := ok_of_bind h
    obtain ⟨id, t₂, hid, h⟩ := ok_of_bind h
    obtain ⟨ingestedAt, t₃, -, h⟩ := ok_of_bind h
    exact adapted_of_constructed (Prod.mk.inj h).1 rfl rfl rfl (idFrom_of_newId hid)
      (stampFrom_of_header hheader)

theorem stampFrom_of_generic {payload : JsonObject} {stamp : DateTime}
    (h : Generic.timestampOf rt payload t = (.ok stamp, t')) :
    StampFrom rt stamp (genericStamp rt payload) := by
  unfold Generic.timestampOf at h
  unfold genericStamp
  generalize Generic.first payload _ = v at h ⊢
  cases v with
  | str text =>
      have hparsed := (Prod.mk.inj h).1
      dsimp only at hparsed ⊢
      cases hiso : rt.fromisoformat (replaceZ text) with
      | error e =>
          rw [hiso] at hparsed
          cases hparsed
      | ok d =>
          rw [hiso] at hparsed
          exact (Except.ok.inj hparsed).symm
  | _ => exact fun hclock _ => aware_of_utcnow h hclock

/-- An event that was validated as it came. -/
theorem carried_of_modelValidate {payload fields : JsonObject}
    (h : CanonicalEvent.modelValidate rt fields = .ok event)
    (hget : ∀ key ∈ ["id", "timestamp", "idempotency_key"],
      fields.lookup key = payload.lookup key)
    (htruthy : (Json.get payload "id").truthy = true)
    (hroute : routeOf rt payload = .canonical ∨ routeOf rt payload = .passthrough) :
    Carried rt payload event := by
  have hnew := constructed_of_new h
  obtain ⟨a, ha, hread⟩ := hnew.timestamp
  have hid := hnew.id
  rw [lookup_ofObject, hget _ (by decide)] at hid ha
  obtain ⟨id, hid, heq⟩ := Option.map_eq_some_iff.mp hid
  obtain ⟨stamp, hstamp, rfl⟩ := Option.map_eq_some_iff.mp ha
  injection heq with heq
  have hcarriedId : carriedId rt payload = some event.id := by
    have htext : idFrom rt (Json.get payload "id") = some event.id := by
      unfold idFrom
      rw [if_pos htruthy]
      unfold Json.get
      rw [hid, heq]
      rfl
    rcases hroute with hroute | hroute <;> simpa only [carriedId, hroute] using htext
  have hcarriedKey : carriedKey rt payload = event.idempotencyKey := by
    rw [hnew.idempotencyKey, lookup_ofObject, hget _ (by decide)]
    rcases hroute with hroute | hroute <;> simp only [carriedKey, hroute]
  have hcarriedStamp : carriedTimestamp rt payload = some event.timestamp := by
    have hvalid : rt.validDatetime (Json.get payload "timestamp") = some event.timestamp := by
      unfold Json.get
      rw [hstamp]
      exact hread
    rcases hroute with hroute | hroute <;> simpa only [carriedTimestamp, hroute] using hvalid
  refine ⟨?_, hcarriedKey.symm, ?_⟩
  · rw [hcarriedId]
    exact rfl
  · rw [hcarriedStamp]
    exact rfl

theorem Adapted.carried {payload : JsonObject} {carried : Option String} {read : Option DateTime}
    (h : Adapted rt carried read event) (hid : carriedId rt payload = carried)
    (hkey : carriedKey rt payload = none) (hstamp : carriedTimestamp rt payload = read) :
    Carried rt payload event := by
  subst hid hstamp
  refine ⟨h.id, ?_, h.timestamp⟩
  rw [h.idempotencyKey, hkey]

/-- What `normalize_generic` returns, for a payload that comes this far. -/
theorem normalizeGeneric_carried {payload : JsonObject}
    (hroute : routeOf rt payload = if isPassthrough payload then .passthrough else .generic)
    (h : Generic.normalizeGeneric rt payload tenantId t = (.ok event, t')) :
    Carried rt payload event := by
  unfold Generic.normalizeGeneric at h
  split at h
  · rename_i hpass
    have hpassthrough : isPassthrough payload = true := by simp [isPassthrough, hpass]
    rw [if_pos hpassthrough] at hroute
    obtain ⟨validated, t₁, hvalidated, h⟩ := ok_of_bind h
    split at h
    · cases h
    · obtain rfl := Except.ok.inj (Prod.mk.inj h).1
      exact carried_of_modelValidate (Prod.mk.inj hvalidated).1 (fun _ _ => rfl) hpass.2.1
        (.inr hroute)
  · rename_i hpass
    have hgeneric : isPassthrough payload ≠ true := by
      simpa [isPassthrough, and_assoc] using hpass
    rw [if_neg hgeneric] at hroute
    obtain ⟨stamp, t₁, hstamp, h⟩ := ok_of_bind h
    obtain ⟨id, t₂, hid, h⟩ := ok_of_bind h
    obtain ⟨ingestedAt, t₃, -, h⟩ := ok_of_bind h
    have hadapted := adapted_of_constructed (Prod.mk.inj h).1 rfl rfl rfl
      (idFrom_of_eventIdFrom hid) (stampFrom_of_generic hstamp)
    refine hadapted.carried ?_ ?_ ?_
    · simp only [carriedId, hroute]
    · simp only [carriedKey, hroute]
    · simp only [carriedTimestamp, hroute]

/-- Every event that the router returns has its id, its key and its time stamp from the payload, as
its route carries them. -/
theorem normalizePayload_carried {payload : JsonObject}
    (h : normalizePayload rt payload tenantId t = (.ok event, t')) : Carried rt payload event := by
  unfold normalizePayload at h
  dsimp only at h
  split_ifs at h with hcanonical hsyslog hzeek hsuricata hendpoint
  · have hroute : routeOf rt payload = .canonical := by simp [routeOf, hcanonical]
    have hid : (Json.get payload "id").truthy = true := by
      simp only [isCanonical, Bool.and_eq_true] at hcanonical
      exact hcanonical.1.1.2
    refine carried_of_modelValidate (Prod.mk.inj h).1 ?_ hid (.inl hroute)
    intro key hkey
    refine lookup_setKey_of_ne ?_ _
    rintro rfl
    revert hkey
    decide
  · have hroute : routeOf rt payload = .syslog := by simp [routeOf, hcanonical, hsyslog]
    refine (parseSyslogLine_adapted h).carried ?_ ?_ ?_
    · simp only [carriedId, hroute]
    · simp only [carriedKey, hroute]
    · simp only [carriedTimestamp, hroute, syslogLine]
  · have hroute : routeOf rt payload = .network := by
      simp [routeOf, hcanonical, hsyslog, hzeek]
    refine (normalizeZeek_adapted h).carried ?_ ?_ ?_
    · simp only [carriedId, hroute]
    · simp only [carriedKey, hroute]
    · simp only [carriedTimestamp, hroute]
  · have hroute : routeOf rt payload = .network := by
      simp only [routeOf, if_neg hcanonical, if_neg hsyslog, if_neg hzeek, if_pos hsuricata]
    refine (normalizeSuricata_adapted h).carried ?_ ?_ ?_
    · simp only [carriedId, hroute]
    · simp only [carriedKey, hroute]
    · simp only [carriedTimestamp, hroute]
  · have hroute : routeOf rt payload = .endpoint := by
      simp [routeOf, hcanonical, hsyslog, hzeek, hsuricata, hendpoint, endpointAdapters]
    have hadapted := normalizeEndpoint_adapted h
    rw [get_setDefault_of_ne (by decide)] at hadapted
    refine hadapted.carried ?_ ?_ ?_
    · simp only [carriedId, hroute]
    · simp only [carriedKey, hroute]
    · simp only [carriedTimestamp, hroute]
  · refine normalizeGeneric_carried ?_ h
    simp [routeOf, hcanonical, hsyslog, hzeek, hsuricata, hendpoint, endpointAdapters]

end

end BlueTeam.Ingest
