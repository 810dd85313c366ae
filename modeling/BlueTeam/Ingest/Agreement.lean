/- GID: BlueTeam/Ingest/Agreement
   generality: I
   source: security-languages/rust/event-model/src/lib.rs,
     packages/network-adapters/blueteam_network/normalize.py
   digest: The records on which the sensors and the normalisers of the center agree. -/

import BlueTeam.Ingest.EventModel
import BlueTeam.Ingest.Routes

set_option autoImplicit false
set_option relaxedAutoImplicit false

namespace BlueTeam.Ingest

open BlueTeam.Python BlueTeam.Schema BlueTeam.Lib BlueTeam.Lib.Exec
open EventModel (asStr asU64 tryU16 pointer)

/-- Which of the two kinds of records. -/
inductive NetworkSource
  | zeek
  | suricata
  deriving DecidableEq, Repr

/-- The normaliser of the center. -/
def NetworkSource.normalize (rt : Runtime) (raw : JsonObject) (tenantId : String) :
    NetworkSource → Draw CanonicalEvent
  | .zeek => Network.normalizeZeek rt raw tenantId
  | .suricata => Network.normalizeSuricata rt raw tenantId

/-- The sensors' one. -/
def NetworkSource.read (display : Json → String) (tenantId : String) (raw : JsonObject) :
    NetworkSource → Except String EventModel.CanonicalEvent
  | .zeek => EventModel.fromZeekJson tenantId (.obj raw)
  | .suricata => EventModel.fromSuricataEve display tenantId (.obj raw)

/-- The number of a port, as an integer. -/
def portNumber (port : UInt16) : Int :=
  port.toNat

/-- The two events have the same origin, the same ends, protocol and domain. -/
structure Agree (event : CanonicalEvent) (read : EventModel.CanonicalEvent) : Prop where
  source : event.source = read.source
  sourceType : event.sourceType = read.sourceType
  eventType : event.eventType = read.eventType
  category : event.category = read.category
  srcIp : event.srcIp = read.srcIp
  dstIp : event.dstIp = read.dstIp
  srcPort : event.srcPort = read.srcPort.map portNumber
  dstPort : event.dstPort = read.dstPort.map portNumber
  protocol : event.protocol = read.protocol
  domain : event.domain = read.domain

/-- Python and pydantic as documented, on what both normalisers read. -/
structure Documented (rt : Runtime) : Prop where
  lower : rt.lower "conn" = "conn"
  validInt : ∀ i, rt.validInt (.int i) = some i

/-! ### When they agree -/

/-- The three places that a Zeek record may have an end of its connection in. -/
structure Spelled where
  dotted : Json
  flat : Json
  nested : Json

def Spelled.of (raw : JsonObject) (name : String) : Spelled where
  dotted := Json.get raw ("id." ++ name)
  flat := Json.get raw name
  nested := (pointer (.obj raw) "id" name).getD .null

/-- The one that the center takes. -/
def Spelled.given (s : Spelled) : Json :=
  Json.orElse (Json.orElse s.dotted s.flat) s.nested

/-- The sensors do not know the flat place, and take an empty text for an address. -/
def Spelled.AddressesAgree (s : Spelled) : Prop :=
  match asStr s.dotted with
  | some text => text = "" → s.flat.truthy = false ∧ s.nested = .str ""
  | none => s.flat.truthy = true → s.flat = s.nested

/-- The sensors only know unsigned numbers, of 16 bits, and take a zero for a port. -/
def Spelled.PortsAgree (rt : Runtime) (s : Spelled) : Prop :=
  match asU64 s.dotted with
  | some value =>
      if value.toNat = 0 then s.given.truthy = true ∧ s.given.toInt rt = .ok 0
      else value.toNat < 2 ^ 16
  | none =>
      if s.given.truthy then
        ∃ n : Nat, n < 2 ^ 16 ∧ s.nested = .int n ∧ s.given.toInt rt = .ok n
      else s.nested ≠ .int 0

/-- The kind is in lower case, under the first name that the record has. -/
def ZeekKindsAgree (rt : Runtime) (raw : JsonObject) : Prop :=
  match raw.lookup "_path" with
  | some path =>
      match asStr path with
      | some kind => kind ≠ "" ∧ rt.lower kind = kind
      | none => ∀ kind, Json.get raw "log_type" = .str kind → kind ≠ "" → rt.lower kind = "conn"
  | none => ∀ kind, Json.get raw "log_type" = .str kind → kind ≠ "" ∧ rt.lower kind = kind

/-- The sensors do not know the key `protocol`, and take an empty text for a protocol. -/
def ZeekProtocolsAgree (rt : Runtime) (raw : JsonObject) : Prop :=
  match asStr (Json.get raw "proto") with
  | some text => text = "" →
      (Json.get raw "protocol").truthy = true ∧ (Json.get raw "protocol").text rt = ""
  | none => (Json.get raw "protocol").truthy = false ∧ (Json.get raw "proto").truthy = false

/-- The sensors take the first key that is there, and `host` before `server_name`; the center the
first with a value, and `server_name` before `host`. -/
def ZeekDomainsAgree (raw : JsonObject) : Prop :=
  let serverName := Json.get raw "server_name"
  match raw.lookup "query", raw.lookup "host" with
  | some query, _ => query.truthy = false →
      serverName.truthy = false ∧ Json.get raw "host" = Json.ofOption (asStr query)
  | none, some host => serverName.truthy = true → serverName = host
  | none, none => serverName ≠ .str ""

structure ZeekAgrees (rt : Runtime) (raw : JsonObject) : Prop where
  kinds : ZeekKindsAgree rt raw
  srcIp : (Spelled.of raw "orig_h").AddressesAgree
  dstIp : (Spelled.of raw "resp_h").AddressesAgree
  srcPort : (Spelled.of raw "orig_p").PortsAgree rt
  dstPort : (Spelled.of raw "resp_p").PortsAgree rt
  protocols : ZeekProtocolsAgree rt raw
  domains : ZeekDomainsAgree raw

/-- The port is missing, or a number of 16 bits. -/
def IsPort (v : Json) : Prop :=
  v = .null ∨ ∃ n : Nat, n < 2 ^ 16 ∧ v = .int n

/-- The sensors look for a domain in the TLS, the HTTP and the DNS part, in this order, and take the
first that is there; the center starts with the DNS part and takes the first with a value. -/
def SuricataDomainsAgree (raw : JsonObject) : Prop :=
  let rrname := (pointer (.obj raw) "dns" "rrname").getD .null
  let sni := pointer (.obj raw) "tls" "sni"
  let hostname := pointer (.obj raw) "http" "hostname"
  if rrname.truthy then ∀ v, (sni <|> hostname) = some v → v = rrname
  else
    match sni, hostname with
    | some sni, _ => sni.truthy = false → hostname.getD .null = Json.ofOption (asStr sni)
    | none, some _ => True
    | none, none => rrname ≠ .str ""

structure SuricataAgrees (rt : Runtime) (raw : JsonObject) : Prop where
  kinds : ∀ kind, Json.get raw "event_type" = .str kind → rt.lower kind = kind
  srcPort : IsPort (Json.get raw "src_port")
  dstPort : IsPort (Json.get raw "dest_port")
  domains : SuricataDomainsAgree raw

def NetworkSource.Agrees (rt : Runtime) (raw : JsonObject) : NetworkSource → Prop
  | .zeek => ZeekAgrees rt raw
  | .suricata => SuricataAgrees rt raw

/-! ### Values -/

section

variable {v : Json} {text : Option String}

theorem asStr_eq_some {text : String} : asStr v = some text ↔ v = .str text := by
  cases v <;> simp [asStr]

@[simp] theorem asStr_ofOption (text : Option String) : asStr (Json.ofOption text) = text := by
  cases text <;> rfl

theorem truthy_str {text : String} : (Json.str text).truthy = true ↔ text ≠ "" := by
  simp [Json.truthy]

/-- A value that is given is the one that `or` takes. -/
theorem orElse_of_truthy {a : Json} (b : Json) (h : a.truthy = true) : Json.orElse a b = a :=
  if_pos h

theorem orElse_of_falsy {a : Json} (b : Json) (h : a.truthy = false) : Json.orElse a b = b := by
  unfold Json.orElse
  rw [h]
  rfl

theorem ofOption_injective : Function.Injective Json.ofOption := by
  intro a b h
  have htext := congrArg asStr h
  rwa [asStr_ofOption, asStr_ofOption] at htext

/-- Of two places, the text that is taken is the one in the first. -/
theorem taken_first_iff {first last : Json} (h : Json.orElse first last = Json.ofOption text) :
    text = asStr first ↔ (first.truthy = false → last = Json.ofOption (asStr first)) := by
  cases hfirst : first.truthy with
  | true =>
      rw [orElse_of_truthy _ hfirst] at h
      rw [h, asStr_ofOption]
      simp
  | false =>
      rw [orElse_of_falsy _ hfirst] at h
      rw [h, ofOption_injective.eq_iff]
      simp

/-- It is the one in the last. -/
theorem taken_last_iff {first last : Json} (h : Json.orElse first last = Json.ofOption text) :
    text = asStr last ↔ (first.truthy = true → first = last) := by
  cases hfirst : first.truthy with
  | true =>
      rw [orElse_of_truthy _ hfirst] at h
      cases text with
      | none =>
          rw [h] at hfirst
          cases hfirst
      | some value =>
          rw [eq_comm, asStr_eq_some, h]
          simp [Json.ofOption, eq_comm]
  | false =>
      rw [orElse_of_falsy _ hfirst] at h
      rw [h, asStr_ofOption]
      simp

/-- Null is the text of a value that is not the empty text. -/
theorem null_iff : (v.truthy = false → Json.null = Json.ofOption (asStr v)) ↔ v ≠ .str "" := by
  cases htext : asStr v with
  | some text =>
      obtain rfl := asStr_eq_some.mp htext
      simp [Json.truthy, Json.ofOption]
  | none =>
      refine iff_of_true (fun _ => rfl) ?_
      rintro rfl
      cases htext

/-- A text that is no text of its own is null. -/
theorem falsy_of_no_text (h : v = Json.ofOption text) (hnone : asStr v = none) : v = .null := by
  rw [h, asStr_ofOption] at hnone
  rw [h, hnone]
  rfl

theorem getD_bind {α : Type} (found : Option Json) {f : Json → Option α} (hf : f .null = none) :
    found.bind f = f (found.getD .null) := by
  cases found with
  | none => exact hf.symm
  | some v => rfl

theorem toNat_ofNat_of_lt {n : Nat} (h : n < 2 ^ 64) : (UInt64.ofNat n).toNat = n := by
  rw [UInt64.toNat_ofNat']
  exact Nat.mod_eq_of_lt h

/-- Of a number, the sensors see the 64 bits. -/
theorem asU64_eq_some {value : UInt64} : asU64 v = some value ↔ v = .int value.toNat := by
  cases v with
  | int i =>
      simp only [asU64, Json.int.injEq]
      split
      · rename_i h
        obtain ⟨hlow, hhigh⟩ := h
        rw [Option.some.injEq]
        constructor
        · rintro rfl
          rw [toNat_ofNat_of_lt (by omega)]
          omega
        · rintro rfl
          rw [Int.toNat_natCast, UInt64.ofNat_toNat]
      · rename_i h
        constructor
        · intro hnone
          cases hnone
        · rintro rfl
          have hlt := value.toNat_lt
          omega
  | _ => simp [asU64]

/-- The ports are the numbers of 16 bits. -/
theorem port_eq_some {n : Int} : ((asU64 v).bind tryU16).map portNumber = some n ↔
    v = .int n ∧ 0 ≤ n ∧ n < 2 ^ 16 := by
  constructor
  · intro h
    obtain ⟨port, hport, rfl⟩ := Option.map_eq_some_iff.mp h
    obtain ⟨value, hvalue, hfits⟩ := Option.bind_eq_some_iff.mp hport
    obtain rfl := asU64_eq_some.mp hvalue
    unfold tryU16 at hfits
    split at hfits
    · rename_i hlt
      obtain rfl := Option.some.inj hfits
      have hsame : value.toUInt16.toNat = value.toNat := by
        rw [UInt64.toNat_toUInt16, Nat.mod_eq_of_lt hlt]
      unfold portNumber
      rw [hsame]
      exact ⟨rfl, by omega, by omega⟩
    · cases hfits
  · rintro ⟨rfl, hlow, hhigh⟩
    have hnat : (UInt64.ofNat n.toNat).toNat = n.toNat := toNat_ofNat_of_lt (by omega)
    have hvalue : asU64 (.int n) = some (UInt64.ofNat n.toNat) := by
      rw [asU64_eq_some, hnat, Int.toNat_of_nonneg hlow]
    rw [hvalue, Option.bind_some]
    unfold tryU16
    rw [if_pos (by omega), Option.map_some, Option.some.injEq]
    unfold portNumber
    rw [UInt64.toNat_toUInt16, hnat, Nat.mod_eq_of_lt (by omega)]
    omega

end

/-! ### The ends of a connection -/

/-- The address that the sensors take. -/
def Spelled.address (s : Spelled) : Option String :=
  match asStr s.dotted with
  | some value => some value
  | none => asStr s.nested

/-- The port that they take. -/
def Spelled.port (s : Spelled) : Option UInt16 :=
  match asU64 s.dotted with
  | some value => tryU16 value
  | none => (asU64 s.nested).bind tryU16

/-- What `int(given) if given else None` is. -/
def IntIfGiven (rt : Runtime) (given : Json) (n : Option Int) : Prop :=
  if given.truthy then ∃ i, given.toInt rt = .ok i ∧ n = some i else n = none

section

variable {s : Spelled}

theorem Spelled.given_of_dotted (h : s.dotted.truthy = true) : s.given = s.dotted := by
  unfold given
  rw [orElse_of_truthy _ h, orElse_of_truthy _ h]

theorem Spelled.given_of_flat (hdotted : s.dotted.truthy = false) (h : s.flat.truthy = true) :
    s.given = s.flat := by
  unfold given
  rw [orElse_of_falsy _ hdotted, orElse_of_truthy _ h]

theorem Spelled.given_of_nested (hdotted : s.dotted.truthy = false)
    (hflat : s.flat.truthy = false) : s.given = s.nested := by
  unfold given
  rw [orElse_of_falsy _ hdotted, orElse_of_falsy _ hflat]

/-- Where nothing is given, the last place is empty too. -/
theorem Spelled.nested_falsy (h : s.given.truthy = false) :
    s.dotted.truthy = false ∧ s.nested.truthy = false := by
  have hdotted : s.dotted.truthy = false := by
    by_contra hgiven
    rw [given_of_dotted (by simpa using hgiven)] at h
    exact hgiven h
  have hflat : s.flat.truthy = false := by
    by_contra hgiven
    rw [given_of_flat hdotted (by simpa using hgiven)] at h
    exact hgiven h
  rw [given_of_nested hdotted hflat] at h
  exact ⟨hdotted, h⟩

theorem Spelled.address_iff {address : Option String} (h : s.given = Json.ofOption address) :
    address = s.address ↔ s.AddressesAgree := by
  unfold Spelled.address AddressesAgree
  cases hread : asStr s.dotted with
  | some text =>
      have hdotted := asStr_eq_some.mp hread
      dsimp only
      by_cases hempty : text = ""
      · have hfalsy : s.dotted.truthy = false := by
          rw [hdotted, hempty]
          rfl
        cases hflat : s.flat.truthy with
        | true =>
            -- the center takes the flat one, which is not empty
            rw [given_of_flat hfalsy hflat] at h
            refine iff_of_false ?_ (by simp [hempty])
            rintro rfl
            rw [h, hempty] at hflat
            cases hflat
        | false =>
            rw [given_of_nested hfalsy hflat] at h
            rw [h, hempty]
            cases address <;> simp [Json.ofOption]
      · rw [given_of_dotted (hdotted ▸ truthy_str.mpr hempty), hdotted] at h
        have haddress := congrArg asStr h
        rw [asStr_ofOption] at haddress
        exact iff_of_true haddress.symm fun hnot => absurd hnot hempty
  | none =>
      dsimp only
      have hfalsy : s.dotted.truthy = false := by
        by_contra hgiven
        have hgiven : s.dotted.truthy = true := by simpa using hgiven
        rw [given_of_dotted hgiven] at h
        rw [falsy_of_no_text h hread] at hgiven
        cases hgiven
      unfold given at h
      rw [orElse_of_falsy _ hfalsy] at h
      exact taken_last_iff h

theorem Spelled.port_iff {rt : Runtime} {port : Option Int} (h : IntIfGiven rt s.given port) :
    port = s.port.map portNumber ↔ s.PortsAgree rt := by
  unfold Spelled.port PortsAgree
  unfold IntIfGiven at h
  cases hread : asU64 s.dotted with
  | some value =>
      have hdotted := asU64_eq_some.mp hread
      have hport : (tryU16 value).map portNumber = ((asU64 s.dotted).bind tryU16).map portNumber := by
        rw [hread]
        rfl
      dsimp only
      rw [hport, hdotted]
      by_cases hzero : value.toNat = 0
      · rw [if_pos hzero, hzero]
        have hnull : some (0 : Int) = ((asU64 (.int (0 : Nat))).bind tryU16).map portNumber :=
          (port_eq_some.mpr ⟨rfl, by omega, by omega⟩).symm
        rw [← hnull]
        split at h
        · rename_i hgiven
          obtain ⟨i, hint, rfl⟩ := h
          rw [hint]
          simp [hgiven]
        · rename_i hgiven
          rw [h]
          simp [hgiven]
      · have htruthy : s.dotted.truthy = true := by
          rw [hdotted]
          simp only [Json.truthy, decide_eq_true_eq]
          omega
        rw [given_of_dotted htruthy, if_pos htruthy, hdotted] at h
        obtain ⟨i, hint, rfl⟩ := h
        obtain rfl : (value.toNat : Int) = i := Except.ok.inj hint
        rw [if_neg hzero, eq_comm, port_eq_some]
        constructor
        · rintro ⟨-, -, hhigh⟩
          omega
        · intro hlt
          exact ⟨rfl, by omega, by omega⟩
  | none =>
      dsimp only
      split at h
      · rename_i hgiven
        obtain ⟨i, hint, rfl⟩ := h
        rw [if_pos hgiven, eq_comm, port_eq_some, hint]
        constructor
        · rintro ⟨hnested, hlow, hhigh⟩
          refine ⟨i.toNat, by omega, ?_, ?_⟩
          · rw [hnested, Int.toNat_of_nonneg hlow]
          · rw [Int.toNat_of_nonneg hlow]
        · rintro ⟨n, hfits, hnested, hsame⟩
          obtain rfl : i = n := Except.ok.inj hsame
          exact ⟨hnested, by omega, by omega⟩
      · rename_i hgiven
        rw [h, if_neg hgiven]
        have hnested := (nested_falsy (by simpa using hgiven)).2
        constructor
        · rintro hnone hzero
          rw [hzero, port_eq_some.mpr ⟨rfl, le_refl 0, by omega⟩] at hnone
          cases hnone
        · intro hzero
          rw [eq_comm, Option.eq_none_iff_forall_not_mem]
          intro n hn
          obtain ⟨hint, -, -⟩ := port_eq_some.mp hn
          rw [hint] at hnested hzero
          simp only [Json.truthy, decide_eq_false_iff_not, not_not] at hnested
          exact hzero (congrArg Json.int hnested)

end

/-! ### The other fields of a Zeek record -/

section

variable {rt : Runtime} {raw : JsonObject}

/-- The name of a log is the given text, or else the default. -/
theorem name_cases {given : Json} {default name : String}
    (h : Json.orElse given (.str default) = .str name) :
    (given = .str name ∧ name ≠ "") ∨ (name = default ∧ ∀ text, given = .str text → text = "") := by
  cases hgiven : given.truthy with
  | true =>
      rw [orElse_of_truthy _ hgiven] at h
      rw [h] at hgiven
      exact .inl ⟨h, truthy_str.mp hgiven⟩
  | false =>
      rw [orElse_of_falsy _ hgiven] at h
      refine .inr ⟨(Json.str.inj h).symm, ?_⟩
      rintro text rfl
      simpa [Json.truthy] using hgiven

theorem zeekKind_iff {name : String} (hlower : rt.lower "conn" = "conn")
    (hname : Json.orElse (Json.getFirst raw ["_path", "log_type"]) (.str "conn") = .str name)
    (hkind : rt.lower name ∈ Network.zeekSources) :
    rt.lower name = EventModel.zeekKind (.obj raw) ↔ ZeekKindsAgree rt raw := by
  have hnonempty : rt.lower name ≠ "" := by
    intro hempty
    rw [hempty] at hkind
    revert hkind
    decide
  have hpick : Json.getFirst raw ["_path", "log_type"] =
      Json.orElse (Json.get raw "_path") (Json.get raw "log_type") := rfl
  have hread : EventModel.zeekKind (.obj raw) =
      ((raw.lookup "_path" <|> raw.lookup "log_type").bind asStr).getD "conn" := rfl
  rw [hpick] at hname
  rw [hread]
  unfold ZeekKindsAgree
  cases hpath : raw.lookup "_path" with
  | some path =>
      have hget : Json.get raw "_path" = path := by
        unfold Json.get
        rw [hpath]
        rfl
      rw [hget] at hname
      show rt.lower name = (asStr path).getD "conn" ↔ _
      dsimp only
      cases htext : asStr path with
      | some kind =>
          obtain rfl := asStr_eq_some.mp htext
          show rt.lower name = kind ↔ _
          by_cases hempty : kind = ""
          · rw [hempty]
            exact iff_of_false hnonempty fun h => h.1 rfl
          · have htruthy := truthy_str.mpr hempty
            rw [orElse_of_truthy _ htruthy, orElse_of_truthy _ htruthy] at hname
            obtain rfl := Json.str.inj hname
            simp [hempty]
      | none =>
          show rt.lower name = "conn" ↔ _
          have hfalsy : path.truthy = false := by
            by_contra hgiven
            have htruthy : path.truthy = true := by simpa using hgiven
            rw [orElse_of_truthy _ htruthy, orElse_of_truthy _ htruthy] at hname
            rw [hname] at htext
            cases htext
          rw [orElse_of_falsy _ hfalsy] at hname
          rcases name_cases hname with ⟨hlog, hnamed⟩ | ⟨rfl, hempty⟩
          · rw [hlog]
            simp [hnamed]
          · refine iff_of_true hlower ?_
            intro kind hlog hnamed
            exact absurd (hempty kind hlog) hnamed
  | none =>
      have hget : Json.get raw "_path" = .null := by
        unfold Json.get
        rw [hpath]
        rfl
      have hnull : Json.orElse .null (Json.get raw "log_type") = Json.get raw "log_type" := rfl
      rw [hget, hnull] at hname
      show rt.lower name = ((raw.lookup "log_type").bind asStr).getD "conn" ↔ _
      rw [getD_bind _ rfl]
      show rt.lower name = (asStr (Json.get raw "log_type")).getD "conn" ↔ _
      dsimp only
      rcases name_cases hname with ⟨hlog, hnamed⟩ | ⟨rfl, hempty⟩
      · rw [hlog]
        simp [hnamed, asStr]
      · cases htext : asStr (Json.get raw "log_type") with
        | some kind =>
            have hlog := asStr_eq_some.mp htext
            obtain rfl := hempty kind hlog
            exact iff_of_false hnonempty fun h => (h "" hlog).1 rfl
        | none =>
            refine iff_of_true hlower ?_
            intro kind hlog
            rw [hlog] at htext
            cases htext

theorem zeekProtocol_iff {protocol : Option String}
    (h : protocol = if (Json.getFirst raw ["proto", "protocol"]).truthy then
      some ((Json.getFirst raw ["proto", "protocol"]).text rt) else none) :
    protocol = asStr (Json.get raw "proto") ↔ ZeekProtocolsAgree rt raw := by
  have hpick : Json.getFirst raw ["proto", "protocol"] =
      Json.orElse (Json.get raw "proto") (Json.get raw "protocol") := rfl
  rw [hpick] at h
  unfold ZeekProtocolsAgree
  cases htext : asStr (Json.get raw "proto") with
  | some text =>
      have hproto := asStr_eq_some.mp htext
      dsimp only
      by_cases hempty : text = ""
      · rw [hproto, hempty, orElse_of_falsy _ rfl] at h
        rw [h, hempty]
        simp
      · rw [hproto, orElse_of_truthy _ (truthy_str.mpr hempty),
          if_pos (truthy_str.mpr hempty)] at h
        exact iff_of_true h fun hnot => absurd hnot hempty
  | none =>
      dsimp only
      cases hproto : (Json.get raw "proto").truthy with
      | true =>
          rw [orElse_of_truthy _ hproto, if_pos hproto] at h
          rw [h]
          simp
      | false =>
          rw [orElse_of_falsy _ hproto] at h
          rw [h]
          simp

theorem zeekDomain_iff {domain : Option String}
    (h : Json.getFirst raw ["query", "server_name", "host"] = Json.ofOption domain) :
    domain = (raw.lookup "query" <|> raw.lookup "host" <|> raw.lookup "server_name").bind asStr ↔
      ZeekDomainsAgree raw := by
  have hpick : Json.getFirst raw ["query", "server_name", "host"] =
      Json.orElse (Json.get raw "query")
        (Json.orElse (Json.get raw "server_name") (Json.get raw "host")) := rfl
  rw [hpick] at h
  unfold ZeekDomainsAgree
  cases hquery : raw.lookup "query" with
  | some query =>
      have hget : Json.get raw "query" = query := by
        unfold Json.get
        rw [hquery]
        rfl
      rw [hget] at h
      show domain = asStr query ↔ (query.truthy = false → _)
      rw [taken_first_iff h]
      refine imp_congr_right fun hfalsy => ?_
      have hempty : (Json.ofOption (asStr query)).truthy = false := by
        cases htext : asStr query with
        | none => rfl
        | some text =>
            rw [asStr_eq_some.mp htext] at hfalsy
            exact hfalsy
      cases hserver : (Json.get raw "server_name").truthy with
      | true =>
          rw [orElse_of_truthy _ hserver]
          refine iff_of_false ?_ (by simp)
          intro hsame
          rw [hsame, hempty] at hserver
          cases hserver
      | false =>
          rw [orElse_of_falsy _ hserver]
          simp
  | none =>
      have hget : Json.get raw "query" = .null := by
        unfold Json.get
        rw [hquery]
        rfl
      rw [hget, orElse_of_falsy _ rfl] at h
      cases hhost : raw.lookup "host" with
      | some host =>
          have hget : Json.get raw "host" = host := by
            unfold Json.get
            rw [hhost]
            rfl
          rw [hget] at h
          exact taken_last_iff h
      | none =>
          have hget : Json.get raw "host" = .null := by
            unfold Json.get
            rw [hhost]
            rfl
          rw [hget] at h
          show domain = (raw.lookup "server_name").bind asStr ↔ _
          rw [getD_bind _ rfl]
          show domain = asStr (Json.get raw "server_name") ↔ Json.get raw "server_name" ≠ .str ""
          rw [taken_first_iff h]
          exact null_iff

end

/-! ### The domain of a Suricata record -/

section

variable {raw : JsonObject}

/-- What the center reads of a part is what a pointer into the record reads. -/
theorem nestedGet_eq {name key : String} {v : Json}
    (h : Network.nestedGet raw name key = .ok v) :
    v = (pointer (.obj raw) name key).getD .null := by
  obtain ⟨fields, hfields, rfl⟩ := except_of_map h
  unfold dictOr Json.get at hfields
  unfold pointer
  show Json.get fields key = ((raw.lookup name).bind fun inner => EventModel.get inner key).getD .null
  cases hpart : raw.lookup name with
  | none =>
      rw [hpart] at hfields
      obtain rfl := Except.ok.inj hfields
      rfl
  | some part =>
      rw [hpart] at hfields
      change (Json.orElse part (.obj [])).asDict = .ok fields at hfields
      show Json.get fields key = (EventModel.get part key).getD .null
      cases hgiven : part.truthy with
      | true =>
          rw [orElse_of_truthy _ hgiven] at hfields
          cases part with
          | obj inner =>
              obtain rfl := Except.ok.inj hfields
              rfl
          | _ => cases hfields
      | false =>
          rw [orElse_of_falsy _ hgiven] at hfields
          obtain rfl := Except.ok.inj hfields
          cases part with
          | obj inner =>
              cases inner with
              | nil => rfl
              | cons _ _ => cases hgiven
          | _ => rfl

/-- The places of a domain that the center has looked at. -/
theorem orElseM_ok {a b : Except Exn Json} {v : Json} (h : Network.orElseM a b = .ok v) :
    ∃ first, a = .ok first ∧
      ((first.truthy = true ∧ v = first) ∨ (first.truthy = false ∧ b = .ok v)) := by
  obtain ⟨first, hfirst, h⟩ := except_of_bind h
  refine ⟨first, hfirst, ?_⟩
  cases hgiven : first.truthy with
  | true =>
      rw [hgiven] at h
      exact .inl ⟨rfl, (Except.ok.inj h).symm⟩
  | false =>
      rw [hgiven] at h
      exact .inr ⟨rfl, h⟩

theorem suricataDomain_iff {domain : Option String}
    (h : Network.orElseM (Network.nestedGet raw "dns" "rrname")
      (Network.orElseM (Network.nestedGet raw "tls" "sni")
        (Network.nestedGet raw "http" "hostname")) = .ok (Json.ofOption domain)) :
    domain = (pointer (.obj raw) "tls" "sni" <|> pointer (.obj raw) "http" "hostname" <|>
      pointer (.obj raw) "dns" "rrname").bind asStr ↔ SuricataDomainsAgree raw := by
  unfold SuricataDomainsAgree
  obtain ⟨rrname, hrrname, h⟩ := orElseM_ok h
  obtain rfl := nestedGet_eq hrrname
  dsimp only
  rcases h with ⟨hgiven, hdomain⟩ | ⟨hfalsy, h⟩
  · -- the DNS part decides, so the others must be missing or say the same
    rw [if_pos hgiven]
    have hsame (v : Json) : domain = asStr v ↔
        v = (pointer (.obj raw) "dns" "rrname").getD .null := by
      have hpick : Json.orElse ((pointer (.obj raw) "dns" "rrname").getD .null) v =
          Json.ofOption domain := by
        rw [orElse_of_truthy _ hgiven]
        exact hdomain.symm
      rw [taken_last_iff hpick]
      exact ⟨fun hlast => (hlast hgiven).symm, fun hlast _ => hlast.symm⟩
    cases hsni : pointer (.obj raw) "tls" "sni" with
    | some sni =>
        show domain = asStr sni ↔ ∀ v, some sni = some v → _
        rw [hsame sni]
        simp
    | none =>
        cases hhost : pointer (.obj raw) "http" "hostname" with
        | some hostname =>
            show domain = asStr hostname ↔ ∀ v, some hostname = some v → _
            rw [hsame hostname]
            simp
        | none =>
            show domain = (pointer (.obj raw) "dns" "rrname").bind asStr ↔ _
            rw [getD_bind _ rfl, hsame]
            simp
  · rw [hfalsy]
    obtain ⟨sni, hsni, h⟩ := orElseM_ok h
    obtain rfl := nestedGet_eq hsni
    have hpick : Json.orElse ((pointer (.obj raw) "tls" "sni").getD .null)
        ((pointer (.obj raw) "http" "hostname").getD .null) = Json.ofOption domain := by
      rcases h with ⟨hgiven, hdomain⟩ | ⟨hempty, hhost⟩
      · rw [orElse_of_truthy _ hgiven]
        exact hdomain.symm
      · rw [orElse_of_falsy _ hempty]
        exact (nestedGet_eq hhost).symm
    cases hsni : pointer (.obj raw) "tls" "sni" with
    | some sni =>
        rw [hsni] at hpick
        exact taken_first_iff hpick
    | none =>
        rw [hsni] at hpick
        cases hhost : pointer (.obj raw) "http" "hostname" with
        | some hostname =>
            rw [hhost] at hpick
            refine iff_of_true ?_ trivial
            show domain = asStr hostname
            have hsame : hostname = Json.ofOption domain := hpick
            rw [hsame, asStr_ofOption]
        | none =>
            rw [hhost] at hpick
            have hnone : Json.null = Json.ofOption domain := hpick
            show domain = (pointer (.obj raw) "dns" "rrname").bind asStr ↔ _
            rw [getD_bind _ rfl]
            obtain rfl : none = domain := ofOption_injective hnone
            rw [← ofOption_injective.eq_iff]
            exact (imp_iff_right hfalsy).symm.trans null_iff

end

/-! ### What the center makes of a record -/

/-- An optional number that has been validated. -/
def IntField (rt : Runtime) (v : Json) (n : Option Int) : Prop :=
  (v = .null ∧ n = none) ∨ (v ≠ .null ∧ ∃ i, rt.validInt v = some i ∧ n = some i)

/-- What an event has from the arguments of `_event`. -/
structure Validated (rt : Runtime) (source sourceType eventType category : String)
    (fields : Kwargs) (event : CanonicalEvent) : Prop where
  source : event.source = source
  sourceType : event.sourceType = sourceType
  eventType : event.eventType = eventType
  category : event.category = category
  srcIp : ∀ v, fields.lookup "src_ip" = some (.json v) → v = Json.ofOption event.srcIp
  dstIp : ∀ v, fields.lookup "dst_ip" = some (.json v) → v = Json.ofOption event.dstIp
  srcPort : ∀ v, fields.lookup "src_port" = some (.json v) → IntField rt v event.srcPort
  dstPort : ∀ v, fields.lookup "dst_port" = some (.json v) → IntField rt v event.dstPort
  protocol : ∀ v, fields.lookup "protocol" = some (.json v) → v = Json.ofOption event.protocol
  domain : ∀ v, fields.lookup "domain" = some (.json v) → v = Json.ofOption event.domain

section

variable {rt : Runtime} {kw : Kwargs} {loc name : String}

theorem required_text {text : String} (h : (Field.required kw Field.str loc name).errors = [])
    (hlookup : kw.lookup name = some (.json (.str text))) :
    (Field.required kw Field.str loc name).value = text := by
  obtain ⟨a, ha, hread, hvalue⟩ := required_of_errors_nil h
  rw [hlookup] at ha
  obtain rfl := Option.some.inj ha
  exact hvalue

theorem optional_text {v : Json} (h : (Field.optional kw Field.str loc name).errors = [])
    (hlookup : kw.lookup name = some (.json v)) :
    v = Json.ofOption (Field.optional kw Field.str loc name).value := by
  unfold Field.optional at h ⊢
  split
  · rename_i hnone
    rw [hlookup] at hnone
    cases hnone
  · rename_i hnull
    rw [hlookup] at hnull
    injection hnull with hnull
    injection hnull
  · rename_i a hnull ha
    rw [hlookup] at ha
    obtain rfl := Option.some.inj ha
    simp only [hlookup] at h
    have htext := str_of_errors_nil h
    injection htext

theorem optional_int {v : Json} (h : (Field.optional kw (Field.int rt) loc name).errors = [])
    (hlookup : kw.lookup name = some (.json v)) :
    IntField rt v (Field.optional kw (Field.int rt) loc name).value := by
  unfold Field.optional at h ⊢
  split
  · rename_i hnone
    rw [hlookup] at hnone
    cases hnone
  · rename_i hnull
    rw [hlookup] at hnull
    injection hnull with hnull
    injection hnull with hnull
    exact .inl ⟨hnull, rfl⟩
  · rename_i a hnull ha
    rw [hlookup] at ha
    obtain rfl := Option.some.inj ha
    simp only [hlookup] at h
    have hnot : v ≠ .null := by
      rintro rfl
      exact hnull rfl
    refine .inr ⟨hnot, ?_⟩
    unfold Field.int at h ⊢
    dsimp only at h ⊢
    cases hvalid : rt.validInt v with
    | none =>
        rw [hvalid] at h
        cases h
    | some i => exact ⟨i, rfl, rfl⟩

theorem validated_of_event {source sourceType eventType category tenantId : String}
    {raw : JsonObject} {fields : Kwargs} {event : CanonicalEvent} {t t' : Ticks}
    (h : Network.event rt tenantId source sourceType eventType category raw fields t =
      (.ok event, t')) :
    Validated rt source sourceType eventType category fields event := by
  obtain ⟨claimed, t₁, -, h⟩ := ok_of_bind h
  obtain ⟨id, t₂, -, h⟩ := ok_of_bind h
  obtain ⟨stamp, t₃, -, h⟩ := ok_of_bind h
  obtain ⟨ingestedAt, t₄, -, h⟩ := ok_of_bind h
  have hnew := (Prod.mk.inj h).1
  unfold CanonicalEvent.new Field.construct at hnew
  split at hnew
  · rename_i herrors
    obtain rfl := Except.ok.inj hnew
    rw [List.isEmpty_iff] at herrors
    simp only [CanonicalEvent.fields, List.append_eq_nil_iff] at herrors
    constructor
    · exact required_text (by simp only [herrors]) rfl
    · exact required_text (by simp only [herrors]) rfl
    · exact required_text (by simp only [herrors]) rfl
    · exact required_text (by simp only [herrors]) rfl
    · exact fun v hv => optional_text (by simp only [herrors]) hv
    · exact fun v hv => optional_text (by simp only [herrors]) hv
    · exact fun v hv => optional_int (by simp only [herrors]) hv
    · exact fun v hv => optional_int (by simp only [herrors]) hv
    · exact fun v hv => optional_text (by simp only [herrors]) hv
    · exact fun v hv => optional_text (by simp only [herrors]) hv
  · cases hnew

end

/-! ### Agreement -/

section

variable {rt : Runtime} {raw : JsonObject}

theorem nested_eq (name : String) :
    Json.get (match Json.get raw "id" with
      | .obj fields => fields
      | _ => []) name = (Spelled.of raw name).nested := by
  show _ = ((raw.lookup "id").bind fun inner => EventModel.get inner name).getD .null
  unfold Json.get
  cases raw.lookup "id" with
  | none => rfl
  | some inner => cases inner <;> rfl

/-- The arguments of `_event` for a Zeek record. -/
structure ZeekFields (rt : Runtime) (raw : JsonObject) (fields : Kwargs) : Prop where
  srcIp : fields.lookup "src_ip" = some (.json (Spelled.of raw "orig_h").given)
  dstIp : fields.lookup "dst_ip" = some (.json (Spelled.of raw "resp_h").given)
  srcPort : ∃ v, fields.lookup "src_port" = some (.json v) ∧
    intIfGiven rt (Spelled.of raw "orig_p").given = .ok v
  dstPort : ∃ v, fields.lookup "dst_port" = some (.json v) ∧
    intIfGiven rt (Spelled.of raw "resp_p").given = .ok v
  protocol : fields.lookup "protocol" =
    some (.json (if (Json.getFirst raw ["proto", "protocol"]).truthy then
      .str ((Json.getFirst raw ["proto", "protocol"]).text rt) else .null))
  domain : fields.lookup "domain" =
    some (.json (Json.getFirst raw ["query", "server_name", "host"]))

theorem zeekFields_fields {kind : String} {raw' : JsonObject} {fields : Kwargs}
    (h : Network.zeekFields rt kind raw = .ok (raw', fields)) : ZeekFields rt raw fields := by
  obtain ⟨⟨file, raw₁⟩, hfile, h⟩ := except_of_bind h
  obtain ⟨srcPort, hsrcPort, h⟩ := except_of_bind h
  obtain ⟨dstPort, hdstPort, h⟩ := except_of_bind h
  obtain ⟨host, -, h⟩ := except_of_bind h
  obtain ⟨failed, -, h⟩ := except_of_bind h
  obtain ⟨rfl, rfl⟩ := Prod.mk.inj (Except.ok.inj h)
  have hgiven (name : String) : (Spelled.of raw name).given =
      Json.orElse (Json.getFirst raw ["id." ++ name, name])
        (Json.get (match Json.get raw "id" with
          | .obj fields => fields
          | _ => []) name) := by
    rw [nested_eq]
    rfl
  have hdomain : Json.getFirst raw₁ ["query", "server_name", "host"] =
      Json.getFirst raw ["query", "server_name", "host"] := by
    simp only [Json.getFirst, zeekFile_get hfile (show "query" ≠ "file_hash" by decide),
      zeekFile_get hfile (show "server_name" ≠ "file_hash" by decide),
      zeekFile_get hfile (show "host" ≠ "file_hash" by decide)]
  constructor
  · rw [hgiven]
    rfl
  · rw [hgiven]
    rfl
  · refine ⟨srcPort, rfl, ?_⟩
    rw [hgiven]
    exact hsrcPort
  · refine ⟨dstPort, rfl, ?_⟩
    rw [hgiven]
    exact hdstPort
  · rfl
  · rw [← hdomain]
    rfl

theorem intIfGiven_field (hvalid : ∀ i, rt.validInt (.int i) = some i) {given v : Json}
    {n : Option Int}
    (h : intIfGiven rt given = .ok v) (hfield : IntField rt v n) : IntIfGiven rt given n := by
  unfold IntIfGiven
  unfold intIfGiven at h
  split at h
  · rename_i hgiven
    obtain ⟨i, hint, rfl⟩ := except_of_map h
    rw [if_pos hgiven]
    rcases hfield with ⟨hnull, -⟩ | ⟨-, j, hj, rfl⟩
    · cases hnull
    · rw [hvalid] at hj
      exact ⟨i, hint, by rw [hj]⟩
  · rename_i hgiven
    rw [if_neg hgiven]
    obtain rfl := Except.ok.inj h
    rcases hfield with ⟨-, hnone⟩ | ⟨hnot, -⟩
    · exact hnone
    · exact absurd rfl hnot

theorem nestedIp_eq (name : String) :
    EventModel.nestedIp (.obj raw) ("id." ++ name) name = (Spelled.of raw name).address := by
  unfold EventModel.nestedIp Spelled.address
  rw [getD_bind _ rfl, getD_bind _ rfl]
  rfl

theorem nestedPort_eq (name : String) :
    EventModel.nestedPort (.obj raw) ("id." ++ name) name = (Spelled.of raw name).port := by
  unfold EventModel.nestedPort Spelled.port
  rw [getD_bind _ rfl, getD_bind _ rfl]
  rfl

theorem protocol_eq {given : Bool} {text : String} {protocol : Option String}
    (h : (if given then Json.str text else .null) = Json.ofOption protocol) :
    protocol = if given then some text else none := by
  apply ofOption_injective
  rw [← h]
  cases given <;> rfl

theorem zeekCategory_eq {kind : String} (h : kind ∈ Network.zeekSources) :
    Network.zeekCategory kind = EventModel.zeekCategory kind := by
  simp only [Network.zeekSources, List.mem_cons, List.not_mem_nil, or_false] at h
  rcases h with rfl | rfl | rfl | rfl | rfl | rfl | rfl <;> rfl

theorem zeek_agree_iff (hrt : Documented rt) {tenantId : String} {t t' : Ticks}
    {event : CanonicalEvent} {read : EventModel.CanonicalEvent}
    (hnormalize : Network.normalizeZeek rt raw tenantId t = (.ok event, t'))
    (hread : EventModel.fromZeekJson tenantId (.obj raw) = .ok read) :
    Agree event read ↔ ZeekAgrees rt raw := by
  obtain ⟨name, t₁, hname, h⟩ := ok_of_bind hnormalize
  have hname : Json.orElse (Json.getFirst raw ["_path", "log_type"]) (.str "conn") = .str name := by
    have htext := (Prod.mk.inj hname).1
    revert htext
    generalize Json.orElse _ _ = v
    intro htext
    cases v with
    | str text =>
        obtain rfl := Except.ok.inj htext
        rfl
    | _ => cases htext
  dsimp only at h
  split at h
  · cases h
  · rename_i hkind
    have hkind : rt.lower name ∈ Network.zeekSources := by simpa using hkind
    obtain ⟨⟨raw', fields⟩, t₂, hfields, h⟩ := ok_of_bind h
    have hargs := zeekFields_fields (Prod.mk.inj hfields).1
    have hvalid := validated_of_event h
    obtain ⟨_, -, hread⟩ := except_of_bind hread
    obtain rfl := Except.ok.inj hread
    obtain ⟨srcPort, hsrcPort, hsrcInt⟩ := hargs.srcPort
    obtain ⟨dstPort, hdstPort, hdstInt⟩ := hargs.dstPort
    have hkinds := zeekKind_iff hrt.lower hname hkind
    have hsrc := Spelled.address_iff (hvalid.srcIp _ hargs.srcIp)
    have hdst := Spelled.address_iff (hvalid.dstIp _ hargs.dstIp)
    have hsport := Spelled.port_iff (intIfGiven_field hrt.validInt hsrcInt (hvalid.srcPort _ hsrcPort))
    have hdport := Spelled.port_iff (intIfGiven_field hrt.validInt hdstInt (hvalid.dstPort _ hdstPort))
    have hprotocol := zeekProtocol_iff (protocol_eq (hvalid.protocol _ hargs.protocol))
    have hdomain := zeekDomain_iff (hvalid.domain _ hargs.domain)
    constructor
    · intro hagree
      refine ⟨?_, ?_, ?_, ?_, ?_, ?_, ?_⟩
      · exact hkinds.mp (hvalid.eventType.symm.trans hagree.eventType)
      · exact hsrc.mp (hagree.srcIp.trans (nestedIp_eq "orig_h"))
      · exact hdst.mp (hagree.dstIp.trans (nestedIp_eq "resp_h"))
      · exact hsport.mp (hagree.srcPort.trans (congrArg _ (nestedPort_eq "orig_p")))
      · exact hdport.mp (hagree.dstPort.trans (congrArg _ (nestedPort_eq "resp_p")))
      · exact hprotocol.mp (hagree.protocol.trans (getD_bind _ rfl))
      · exact hdomain.mp hagree.domain
    · intro hagree
      have hkind := hkinds.mpr hagree.kinds
      refine ⟨?_, hvalid.sourceType, ?_, ?_, ?_, ?_, ?_, ?_, ?_, ?_⟩
      · exact hvalid.source.trans (congrArg ("zeek." ++ ·) hkind)
      · exact hvalid.eventType.trans hkind
      · rw [hvalid.category, zeekCategory_eq ‹_›, hkind]
      · exact (hsrc.mpr hagree.srcIp).trans (nestedIp_eq "orig_h").symm
      · exact (hdst.mpr hagree.dstIp).trans (nestedIp_eq "resp_h").symm
      · exact (hsport.mpr hagree.srcPort).trans (congrArg _ (nestedPort_eq "orig_p").symm)
      · exact (hdport.mpr hagree.dstPort).trans (congrArg _ (nestedPort_eq "resp_p").symm)
      · exact (hprotocol.mpr hagree.protocols).trans (getD_bind _ rfl).symm
      · exact hdomain.mpr hagree.domains

theorem isPort_iff (hrt : Documented rt) {v : Json} {n : Option Int} (h : IntField rt v n) :
    n = ((asU64 v).bind tryU16).map portNumber ↔ IsPort v := by
  unfold IsPort
  rcases h with ⟨rfl, rfl⟩ | ⟨hnot, i, hvalid, rfl⟩
  · simp [asU64]
  · rw [eq_comm, port_eq_some]
    constructor
    · rintro ⟨rfl, hlow, hhigh⟩
      exact .inr ⟨i.toNat, by omega, by rw [Int.toNat_of_nonneg hlow]⟩
    · rintro (rfl | ⟨k, hfits, rfl⟩)
      · exact absurd rfl hnot
      · rw [hrt.validInt] at hvalid
        obtain rfl := Option.some.inj hvalid
        exact ⟨rfl, by omega, by omega⟩

/-- The arguments of `_event` for a Suricata record. -/
structure SuricataFields (raw : JsonObject) (fields : Kwargs) : Prop where
  srcIp : fields.lookup "src_ip" = some (.json (Json.get raw "src_ip"))
  dstIp : fields.lookup "dst_ip" = some (.json (Json.get raw "dest_ip"))
  srcPort : fields.lookup "src_port" = some (.json (Json.get raw "src_port"))
  dstPort : fields.lookup "dst_port" = some (.json (Json.get raw "dest_port"))
  protocol : fields.lookup "protocol" = some (.json (Json.get raw "proto"))
  domain : ∃ v, fields.lookup "domain" = some (.json v) ∧
    Network.orElseM (Network.nestedGet raw "dns" "rrname")
      (Network.orElseM (Network.nestedGet raw "tls" "sni")
        (Network.nestedGet raw "http" "hostname")) = .ok v

theorem suricataFields_fields {kind : String} {fields : Kwargs}
    (h : Network.suricataFields rt kind raw = .ok fields) : SuricataFields raw fields := by
  obtain ⟨alert, -, h⟩ := except_of_bind h
  obtain ⟨level, -, h⟩ := except_of_bind h
  obtain ⟨file, -, h⟩ := except_of_bind h
  obtain ⟨domain, hdomain, h⟩ := except_of_bind h
  obtain ⟨url, -, h⟩ := except_of_bind h
  obtain ⟨host, -, h⟩ := except_of_bind h
  obtain rfl := Except.ok.inj h
  exact ⟨rfl, rfl, rfl, rfl, rfl, domain, rfl, hdomain⟩

/-- A text that is validated is read as it is. -/
theorem text_eq {name : String} {text : Option String}
    (h : Json.get raw name = Json.ofOption text) :
    text = (EventModel.get (.obj raw) name).bind asStr := by
  rw [getD_bind _ rfl]
  show text = asStr (Json.get raw name)
  rw [h, asStr_ofOption]

theorem suricata_agree_iff (hrt : Documented rt) (display : Json → String) {tenantId : String}
    {t t' : Ticks} {event : CanonicalEvent} {read : EventModel.CanonicalEvent}
    (hnormalize : Network.normalizeSuricata rt raw tenantId t = (.ok event, t'))
    (hread : EventModel.fromSuricataEve display tenantId (.obj raw) = .ok read) :
    Agree event read ↔ SuricataAgrees rt raw := by
  obtain ⟨_, -, hread⟩ := except_of_bind hread
  rw [getD_bind _ rfl] at hread
  have hkind : (EventModel.get (.obj raw) "event_type").getD .null = Json.get raw "event_type" := rfl
  rw [hkind] at hread
  cases htype : asStr (Json.get raw "event_type") with
  | none =>
      rw [htype] at hread
      cases hread
  | some kind =>
      rw [htype] at hread
      obtain rfl := Except.ok.inj hread
      have hget := asStr_eq_some.mp htype
      have hname : (Json.orElse (Json.get raw "event_type") (.str "")).text rt = kind := by
        rw [hget]
        by_cases hempty : kind = ""
        · rw [hempty]
          rfl
        · rw [orElse_of_truthy _ (truthy_str.mpr hempty)]
          rfl
      unfold Network.normalizeSuricata at hnormalize
      rw [hname] at hnormalize
      split at hnormalize
      · cases hnormalize
      · obtain ⟨fields, t₁, hfields, h⟩ := ok_of_bind hnormalize
        have hargs := suricataFields_fields (Prod.mk.inj hfields).1
        have hvalid := validated_of_event h
        obtain ⟨v, hv, hpick⟩ := hargs.domain
        rw [hvalid.domain v hv] at hpick
        have hkinds : rt.lower kind = kind ↔
            ∀ name, Json.get raw "event_type" = .str name → rt.lower name = name := by
          rw [hget]
          simp
        have hsport := isPort_iff hrt (hvalid.srcPort _ hargs.srcPort)
        have hdport := isPort_iff hrt (hvalid.dstPort _ hargs.dstPort)
        have hdomain := suricataDomain_iff hpick
        have hbits (name : String) :
            ((EventModel.get (.obj raw) name).bind asU64).bind tryU16 =
              (asU64 (Json.get raw name)).bind tryU16 := by
          rw [getD_bind _ rfl]
          rfl
        constructor
        · intro hagree
          refine ⟨?_, ?_, ?_, ?_⟩
          · exact hkinds.mp (hvalid.eventType.symm.trans hagree.eventType)
          · exact hsport.mp (hagree.srcPort.trans (congrArg _ (hbits "src_port")))
          · exact hdport.mp (hagree.dstPort.trans (congrArg _ (hbits "dest_port")))
          · exact hdomain.mp hagree.domain
        · intro hagree
          have hkind := hkinds.mpr hagree.kinds
          refine ⟨?_, hvalid.sourceType, ?_, ?_, ?_, ?_, ?_, ?_, ?_, ?_⟩
          · exact hvalid.source.trans (congrArg ("suricata." ++ ·) hkind)
          · exact hvalid.eventType.trans hkind
          · exact hvalid.category.trans (congrArg Network.suricataCategory hkind)
          · exact text_eq (hvalid.srcIp _ hargs.srcIp)
          · exact text_eq (hvalid.dstIp _ hargs.dstIp)
          · exact (hsport.mpr hagree.srcPort).trans (congrArg _ (hbits "src_port").symm)
          · exact (hdport.mpr hagree.dstPort).trans (congrArg _ (hbits "dest_port").symm)
          · exact text_eq (hvalid.protocol _ hargs.protocol)
          · exact hdomain.mpr hagree.domains

end

/-- On a record that both accept, the two normalisers agree if and only if the record has its
values where both look for them, in a form that both read alike. -/
theorem normalisers_agree_iff (rt : Runtime) (hrt : Documented rt) (display : Json → String)
    (source : NetworkSource) (tenantId : String) (raw : JsonObject) (t t' : Ticks)
    (event : CanonicalEvent) (read : EventModel.CanonicalEvent)
    (hnormalize : source.normalize rt raw tenantId t = (.ok event, t'))
    (hread : source.read display tenantId raw = .ok read) :
    Agree event read ↔ source.Agrees rt raw := by
  cases source with
  | zeek => exact zeek_agree_iff hrt hnormalize hread
  | suricata => exact suricata_agree_iff hrt display hnormalize hread

/-! ### Samples -/

theorem returned {ε α : Type} {run : Except ε α} {p : α → Bool} (h : run.toOption.any p = true) :
    ∃ a, run = .ok a ∧ p a = true := by
  cases run with
  | error e => cases h
  | ok a => exact ⟨a, rfl, h⟩

theorem documented_sampleRuntime : Documented sampleRuntime :=
  ⟨by decide, fun _ => rfl⟩

/-- A connection with nested ids. -/
def nestedRecord : JsonObject :=
  [("_path", .str "conn"), ("proto", .str "tcp"),
    ("id", .obj [("orig_h", .str "10.0.0.8"), ("resp_h", .str "10.0.0.9"),
      ("orig_p", .int 51234), ("resp_p", .int 22)])]

theorem normalisers_agree_iff_nested :
    ∃ event read, (Network.normalizeZeek sampleRuntime nestedRecord "ten_a" {}).1 = .ok event ∧
      EventModel.fromZeekJson "ten_a" (.obj nestedRecord) = .ok read ∧ Agree event read := by
  have hagrees : ZeekAgrees sampleRuntime nestedRecord := by
    refine ⟨⟨by decide, by decide⟩, ?_, ?_, ?_, ?_, ?_, ?_⟩
    · exact fun hflat => by cases hflat
    · exact fun hflat => by cases hflat
    · exact ⟨51234, by decide, rfl, rfl⟩
    · exact ⟨22, by decide, rfl, rfl⟩
    · exact fun hempty => by simp at hempty
    · exact fun hempty => by cases hempty
  obtain ⟨event, hevent, -⟩ := returned (p := fun _ => true)
    (show ((Network.normalizeZeek sampleRuntime nestedRecord "ten_a" {}).1.toOption.any
      fun _ => true) = true by decide +kernel)
  obtain ⟨read, hread, -⟩ := returned (p := fun _ => true)
    (show ((EventModel.fromZeekJson "ten_a" (.obj nestedRecord)).toOption.any
      fun _ => true) = true by decide +kernel)
  refine ⟨event, read, hevent, hread, ?_⟩
  exact (normalisers_agree_iff sampleRuntime documented_sampleRuntime (fun _ => "") .zeek "ten_a"
    nestedRecord {} _ event read (Prod.ext hevent rfl) hread).mpr hagrees

/-- One with flat ids. -/
def flatRecord : JsonObject :=
  [("_path", .str "conn"), ("orig_h", .str "10.0.0.8"), ("resp_h", .str "10.0.0.9")]

/-- The center has the addresses of such a record, the sensors have not. -/
theorem flat_ids_lost :
    ∃ event read, (Network.normalizeZeek sampleRuntime flatRecord "ten_a" {}).1 = .ok event ∧
      EventModel.fromZeekJson "ten_a" (.obj flatRecord) = .ok read ∧ ¬ Agree event read := by
  obtain ⟨event, hevent, hsource⟩ := returned
    (show ((Network.normalizeZeek sampleRuntime flatRecord "ten_a" {}).1.toOption.any
      fun event => event.srcIp = some "10.0.0.8") = true by decide +kernel)
  obtain ⟨read, hread, hlost⟩ := returned
    (show ((EventModel.fromZeekJson "ten_a" (.obj flatRecord)).toOption.any
      fun read => read.srcIp = none) = true by decide +kernel)
  refine ⟨event, read, hevent, hread, fun h => ?_⟩
  have hsame := h.srcIp
  rw [of_decide_eq_true hsource, of_decide_eq_true hlost] at hsame
  cases hsame

end BlueTeam.Ingest
