/- GID: BlueTeam/Services/Hunting
   generality: I
   source: services/api/app/services/hunting.py
   digest: The search for network sessions, and when it finds the ones that it is asked for. -/

import BlueTeam.Network.Sessions
import BlueTeam.Services.Replay

set_option autoImplicit false
set_option relaxedAutoImplicit false

namespace BlueTeam.Services

open BlueTeam.Python BlueTeam.Schema BlueTeam.Lib BlueTeam.Lib.Exec BlueTeam.Network

structure SessionSearch where
  view : String := "network_sessions"
  count : Nat
  items : List JsonObject
  manufactured : Bool := false
  deriving DecidableEq

section

variable (jsonTime : DateTime → String) (jsonFloat : PyFloat → String)

/-- `model_dump(mode="json")`; `jsonTime` and `jsonFloat` are how pydantic writes a time stamp and a
float. -/
def sessionDump (s : NetworkSession) : JsonObject :=
  [("session_id", .str s.sessionId), ("tenant_id", .str s.tenantId), ("src", .str s.src),
    ("dst", .str s.dst), ("protocol", .str s.protocol), ("start", .str (jsonTime s.start)),
    ("end", .str (jsonTime s.end)), ("duration_ms", .int s.durationMs),
    ("bytes_in", .int s.bytesIn), ("bytes_out", .int s.bytesOut), ("packets", .int s.packets),
    ("dns", .arr (s.dns.map .str)), ("tls", .arr (s.tls.map .str)),
    ("http", .arr (s.http.map .str)), ("zeek_refs", .arr (s.zeekRefs.map .str)),
    ("suricata_refs", .arr (s.suricataRefs.map .str)), ("risk", .float (jsonFloat s.risk)),
    ("attributes", .obj s.attributes)]

/-- `not wanted or payload.get(name) == wanted or payload.get(other) == wanted` -/
def addressPasses (wanted : Option String) (name other : String) (payload : JsonObject) : Bool :=
  !given wanted || Json.get payload name = Json.ofOption wanted ||
    Json.get payload other = Json.ofOption wanted

def networkSessionSearch (rt : Runtime) (milliseconds : Int → Int) (tenantId : String)
    (srcIp dstIp : Option String) : Service SessionSearch := do
  let events ← loadWindow tenantId
  let sessions ← compute (sessionsFromEvents rt milliseconds events)
  let items := (sessions.map (sessionDump jsonTime jsonFloat)).filter fun payload =>
    addressPasses srcIp "src_ip" "source_ip" payload &&
      addressPasses dstIp "dst_ip" "destination_ip" payload
  pure { count := items.length, items := items }

/-- The session has the addresses that are given. -/
def HasAddresses (srcIp dstIp : Option String) (s : NetworkSession) : Prop :=
  (given srcIp = true → srcIp = some s.src) ∧ (given dstIp = true → dstIp = some s.dst)

instance (srcIp dstIp : Option String) (s : NetworkSession) :
    Decidable (HasAddresses srcIp dstIp s) :=
  inferInstanceAs (Decidable (_ ∧ _))

/-- The search returns the sessions with these addresses, and no others. -/
def SearchExact (srcIp dstIp : Option String) (sessions : List NetworkSession)
    (found : SessionSearch) : Prop :=
  found.items = (sessions.filter fun s => HasAddresses srcIp dstIp s).map
      (sessionDump jsonTime jsonFloat) ∧
    found.count = found.items.length

theorem addressPasses_dump {wanted : Option String} {name other : String} (s : NetworkSession)
    (hname : (sessionDump jsonTime jsonFloat s).lookup name = none)
    (hother : (sessionDump jsonTime jsonFloat s).lookup other = none) :
    addressPasses wanted name other (sessionDump jsonTime jsonFloat s) = !given wanted := by
  unfold addressPasses Json.get
  rw [hname, hother]
  cases wanted with
  | none => rfl
  | some ip => simp [Json.ofOption]

/-- No address that is given is ever found: the sessions call them `src` and `dst`. -/
theorem networkSessionSearch_run (rt : Runtime) (milliseconds : Int → Int) (tenantId : String)
    (srcIp dstIp : Option String) {w : World} {sessions : List NetworkSession}
    (h : sessionsFromEvents rt milliseconds (w.window tenantId) = .ok sessions) :
    ∃ found, (networkSessionSearch jsonTime jsonFloat rt milliseconds tenantId srcIp dstIp w).1 =
        .ok found ∧ found.count = found.items.length ∧
      found.items = if given srcIp = true ∨ given dstIp = true then []
        else sessions.map (sessionDump jsonTime jsonFloat) := by
  have hfilter : (sessions.map (sessionDump jsonTime jsonFloat)).filter (fun payload =>
      addressPasses srcIp "src_ip" "source_ip" payload &&
        addressPasses dstIp "dst_ip" "destination_ip" payload) =
      if given srcIp = true ∨ given dstIp = true then []
      else sessions.map (sessionDump jsonTime jsonFloat) := by
    have hpasses : ∀ payload ∈ sessions.map (sessionDump jsonTime jsonFloat),
        (addressPasses srcIp "src_ip" "source_ip" payload &&
          addressPasses dstIp "dst_ip" "destination_ip" payload) =
            !(given srcIp || given dstIp) := by
      intro payload hpayload
      obtain ⟨s, -, rfl⟩ := List.mem_map.mp hpayload
      rw [addressPasses_dump jsonTime jsonFloat s rfl rfl,
        addressPasses_dump jsonTime jsonFloat s rfl rfl, Bool.not_or]
    rw [List.filter_congr hpasses]
    cases given srcIp <;> cases given dstIp <;> simp
  refine ⟨{
    count := ((sessions.map (sessionDump jsonTime jsonFloat)).filter _).length
    items := (sessions.map (sessionDump jsonTime jsonFloat)).filter _ }, ?_, rfl, hfilter⟩
  unfold networkSessionSearch
  rw [bind_run, loadWindow_run]
  simp only [andThen, bind_run, compute, h]
  rfl

end

/-- The search is exact if no address is given, and otherwise only where no session has them. -/
theorem session_search_exact_iff (jsonTime : DateTime → String) (jsonFloat : PyFloat → String)
    (rt : Runtime) (milliseconds : Int → Int) (tenantId : String) (srcIp dstIp : Option String)
    (w : World) (sessions : List NetworkSession)
    (h : sessionsFromEvents rt milliseconds (w.window tenantId) = .ok sessions) :
    (∃ found, (networkSessionSearch jsonTime jsonFloat rt milliseconds tenantId srcIp dstIp w).1 =
        .ok found ∧ SearchExact jsonTime jsonFloat srcIp dstIp sessions found) ↔
      (given srcIp = false ∧ given dstIp = false) ∨
        ∀ s ∈ sessions, ¬ HasAddresses srcIp dstIp s := by
  obtain ⟨found, hrun, hcount, hitems⟩ := networkSessionSearch_run jsonTime jsonFloat rt
    milliseconds tenantId srcIp dstIp h
  have hexact : (∃ found, (networkSessionSearch jsonTime jsonFloat rt milliseconds tenantId srcIp
      dstIp w).1 = .ok found ∧ SearchExact jsonTime jsonFloat srcIp dstIp sessions found) ↔
      found.items = (sessions.filter fun s => HasAddresses srcIp dstIp s).map
        (sessionDump jsonTime jsonFloat) := by
    rw [hrun]
    constructor
    · rintro ⟨found', hfound, hsame, -⟩
      obtain rfl := Except.ok.inj hfound
      exact hsame
    · exact fun hsame => ⟨found, rfl, hsame, hcount⟩
  rw [hexact, hitems]
  by_cases hgiven : given srcIp = true ∨ given dstIp = true
  · have hnot : ¬ (given srcIp = false ∧ given dstIp = false) := by
      rintro ⟨hsrc, hdst⟩
      rw [hsrc, hdst] at hgiven
      simp at hgiven
    rw [if_pos hgiven, or_iff_right hnot, eq_comm, List.map_eq_nil_iff, List.filter_eq_nil_iff]
    simp
  · rw [not_or, Bool.not_eq_true, Bool.not_eq_true] at hgiven
    have hall : ∀ s ∈ sessions, decide (HasAddresses srcIp dstIp s) = true := by
      intro s _
      refine decide_eq_true ⟨fun hsrc => ?_, fun hdst => ?_⟩
      · rw [hgiven.1] at hsrc
        cases hsrc
      · rw [hgiven.2] at hdst
        cases hdst
    rw [if_neg (by simp [hgiven]), List.filter_eq_self.mpr hall]
    exact ⟨fun _ => .inl hgiven, fun _ => rfl⟩

/-! ### Samples -/

def connectionPayload : JsonObject :=
  canonicalPayload "evt_1" "network" [("src_ip", .str "10.0.0.8"), ("dst_ip", .str "10.0.0.9")]

/-- pydantic's text of a time in UTC -/
def sampleTime (t : DateTime) : String :=
  { t with offset := none }.isoformat ++ "Z"

def sampleRisk (risk : PyFloat) : String :=
  if risk = .finite 80 then "80.0" else "10.0"

/-- The state after one connection from `10.0.0.8`. -/
def connectedWorld : World :=
  runCalls sampleRuntime "ten_a" emptyWorld [.ingest "usr_1" [connectionPayload]]

theorem sessions_of_connectedWorld : ∃ s : NetworkSession, s.src = "10.0.0.8" ∧
    sessionsFromEvents sampleRuntime (· / 1000) (connectedWorld.window "ten_a") = .ok [s] := by
  have hone : ((sessionsFromEvents sampleRuntime (· / 1000)
      (connectedWorld.window "ten_a")).map (·.map (·.src))) = .ok ["10.0.0.8"] := by
    decide +kernel
  cases hrun : sessionsFromEvents sampleRuntime (· / 1000) (connectedWorld.window "ten_a") with
  | error x =>
    rw [hrun] at hone
    cases hone
  | ok sessions =>
    rw [hrun] at hone
    obtain ⟨s, rfl, hs⟩ := List.map_eq_singleton_iff.mp (Except.ok.inj hone)
    exact ⟨s, hs, rfl⟩

theorem session_search_exact_empty : ∃ sessions found,
    sessionsFromEvents sampleRuntime (· / 1000) (connectedWorld.window "ten_a") = .ok sessions ∧
      (networkSessionSearch sampleTime sampleRisk sampleRuntime (· / 1000) "ten_a" none
        (some "") connectedWorld).1 = .ok found ∧
      SearchExact sampleTime sampleRisk none (some "") sessions found := by
  obtain ⟨s, -, hsessions⟩ := sessions_of_connectedWorld
  obtain ⟨found, hrun, hexact⟩ := (session_search_exact_iff sampleTime sampleRisk
    sampleRuntime (· / 1000) "ten_a" none (some "") connectedWorld [s] hsessions).mpr
      (.inl ⟨rfl, rfl⟩)
  exact ⟨[s], found, hsessions, hrun, hexact⟩

/-- The only session comes from `10.0.0.8`, and a search for it finds nothing. -/
theorem session_search_missed : ∃ sessions found,
    sessionsFromEvents sampleRuntime (· / 1000) (connectedWorld.window "ten_a") = .ok sessions ∧
      (networkSessionSearch sampleTime sampleRisk sampleRuntime (· / 1000) "ten_a"
        (some "10.0.0.8") none connectedWorld).1 = .ok found ∧
      (∀ s ∈ sessions, s.src = "10.0.0.8") ∧ sessions ≠ [] ∧
      ¬ SearchExact sampleTime sampleRisk (some "10.0.0.8") none sessions found := by
  obtain ⟨s, hsrc, hsessions⟩ := sessions_of_connectedWorld
  obtain ⟨found, hrun, -, hitems⟩ := networkSessionSearch_run sampleTime sampleRisk
    sampleRuntime (· / 1000) "ten_a" (some "10.0.0.8") none hsessions
  refine ⟨[s], found, hsessions, hrun, by simpa using hsrc, by simp, fun hexact => ?_⟩
  have hnone : found.items = [] := hitems.trans (if_pos (.inl rfl))
  have hsome := hnone.symm.trans hexact.1
  have hhas : HasAddresses (some "10.0.0.8") none s := ⟨fun _ => hsrc ▸ rfl, nofun⟩
  simp [hhas] at hsome

end BlueTeam.Services
