/- GID: BlueTeam/Ingest/Enrich
   generality: I
   source: packages/enrichment/blueteam_enrich/engine.py
   digest: Deterministic enrichment from fixtures and the tenant's indicators. -/

import BlueTeam.Schema.Event
import Mathlib.Algebra.Group.Nat.Defs

set_option autoImplicit false
set_option relaxedAutoImplicit false

namespace BlueTeam.Ingest

open BlueTeam.Python BlueTeam.Schema

/-- A `dict[str, str]`. -/
abbrev TextMap := List (String × String)

/-- `{**a, **b}` for maps from texts. -/
def overlay {α : Type} (a b : List (String × α)) : List (String × α) :=
  b.foldl (fun acc f =>
    if (acc.lookup f.1).isSome then acc.map fun g => if g.1 = f.1 then f else g
    else acc ++ [f]) a

theorem lookup_isSome {α : Type} (fields : List (String × α)) (key : String) :
    (fields.lookup key).isSome ↔ key ∈ fields.map Prod.fst := by
  rw [List.lookup_isSome_iff, List.mem_map]
  refine exists_congr fun f => and_congr_right fun _ => ?_
  exact ⟨fun h => (eq_of_beq h).symm, fun h => by simp [h]⟩

/-- The keys of an overlay are those of both maps. -/
theorem keys_overlay {α : Type} (a b : List (String × α)) (key : String) :
    key ∈ (overlay a b).map Prod.fst ↔ key ∈ a.map Prod.fst ∨ key ∈ b.map Prod.fst := by
  induction b generalizing a with
  | nil => simp [overlay]
  | cons f b ih =>
      have hstep : overlay a (f :: b) = overlay
          (if (a.lookup f.1).isSome then a.map fun g => if g.1 = f.1 then f else g
          else a ++ [f]) b := rfl
      rw [hstep, ih, List.map_cons, List.mem_cons]
      by_cases htaken : (a.lookup f.1).isSome
      · have hmem := (lookup_isSome a f.1).mp htaken
        have hkeys : (a.map fun g => if g.1 = f.1 then f else g).map Prod.fst = a.map Prod.fst := by
          rw [List.map_map]
          refine List.map_congr_left fun g _ => ?_
          by_cases hg : g.1 = f.1 <;> simp [hg]
        rw [if_pos htaken, hkeys]
        constructor
        · rintro (h | h)
          · exact .inl h
          · exact .inr (.inr h)
        · rintro (h | rfl | h)
          · exact .inl h
          · exact .inl hmem
          · exact .inr h
      · rw [if_neg htaken]
        simp [or_assoc]

/-- A network by its first address and the width of its host part. -/
structure IpNetwork where
  base : Nat
  hostBits : Nat

def privateNets : List IpNetwork :=
  [⟨167772160, 24⟩, ⟨2886729728, 20⟩, ⟨3232235520, 16⟩, ⟨2130706432, 24⟩]

/-- `addr in net` -/
def IpNetwork.contains (net : IpNetwork) (addr : IpAddress) : Bool :=
  addr.version = 4 ∧ addr.value / 2 ^ net.hostBits = net.base / 2 ^ net.hostBits

def geoipFixtures : List (String × TextMap) :=
  [("8.8.8.8", [("country", "US"), ("asn", "AS15169"), ("org", "Google")]),
   ("1.1.1.1", [("country", "AU"), ("asn", "AS13335"), ("org", "Cloudflare")]),
   ("203.0.113.77", [("country", "ZZ"), ("asn", "AS64500"), ("org", "TEST-NET-3")]),
   ("198.51.100.10", [("country", "ZZ"), ("asn", "AS64500"), ("org", "TEST-NET-2")]),
   ("203.0.113.10", [("country", "JP"), ("asn", "AS64501"), ("org", "TEST-NET-JP")]),
   ("198.51.100.88", [("country", "BR"), ("asn", "AS64502"), ("org", "TEST-NET-BR")])]

def defaultAssets : List (String × TextMap) :=
  [("ws-office-01", [("criticality", "high"), ("owner", "finance"), ("role", "workstation")]),
   ("dc-01", [("criticality", "critical"), ("owner", "identity"), ("role", "domain-controller")])]

def defaultDirectory : List (String × TextMap) :=
  [("alice", [("id", "usr_alice"), ("department", "finance"), ("type", "human")]),
   ("bob", [("id", "usr_bob"), ("department", "engineering"), ("type", "human")]),
   ("svc-backup", [("id", "usr_svc_backup"), ("department", "platform"), ("type", "service")]),
   ("dormant-admin", [("id", "usr_dormant_admin"), ("department", "it"), ("type", "human"),
     ("dormant", "true"), ("last_login_days", "180")])]

def defaultIntel : List (String × TextMap) :=
  [("198.51.100.10", [("rule_id", "intel.known_c2"), ("type", "ip"), ("confidence", "high")]),
   ("evil.example", [("rule_id", "intel.known_c2"), ("type", "domain"), ("confidence", "high")])]

/-- `_geo_for` -/
def geoFor (rt : Runtime) (ip : Option String) : TextMap :=
  if given ip then
    let text := ip.getD ""
    match geoipFixtures.lookup text with
    | some geo => geo
    | none =>
        match rt.ipAddress text with
        | none => [("country", "unknown"), ("reason", "unparseable_ip")]
        | some addr =>
            if privateNets.any (·.contains addr) then
              [("country", "private"), ("asn", "RFC1918"), ("org", "private")]
            else [("country", "unknown")]
  else []

/-- An event under enrichment, with the names of the steps applied so far. -/
structure Enriching where
  event : CanonicalEvent
  applied : List String := []

def enrichGeo (rt : Runtime) (e : Enriching) : Enriching :=
  let src := geoFor rt e.event.srcIp
  let geo := if src.isEmpty then geoFor rt e.event.dstIp else src
  if geo.isEmpty then e
  else ⟨e.event.setAttribute "geoip" (Json.ofTexts geo), e.applied ++ ["geoip"]⟩

def enrichAsset (e : Enriching) : Enriching :=
  let hostKey := firstGiven (e.event.host.bind (·.name)) e.event.srcIp
  match (if given hostKey then defaultAssets.lookup (hostKey.getD "") else none) with
  | none => e
  | some asset =>
      let host := e.event.host.getD { name := hostKey }
      let event :=
        { e.event with host := some host }.setAttribute "asset" (Json.ofTexts asset)
      let role := asset.lookup "role"
      ⟨if ¬ given host.os ∧ given role then
          event.setAttribute "asset_role" (Json.ofOption role)
        else event, e.applied ++ ["asset"]⟩

def enrichIdentity (e : Enriching) : Enriching :=
  match e.event.user with
  | none => e
  | some user =>
      match (if given user.name then defaultDirectory.lookup (user.name.getD "") else none) with
      | none => e
      | some entry =>
          let event := (e.event.setAttribute "identity_enrichment" (Json.ofTexts entry)).setAttribute
            "directory" (Json.ofTexts entry)
          ⟨{ event with
              identity := some { id := entry.lookup "id", type := entry.lookup "type",
                                 provider := some "directory-fixture" }
              user := some { user with id := entry.lookup "id" } },
            e.applied ++ ["identity"]⟩

def enrichIntel (intel : List (String × TextMap)) (e : Enriching) : Enriching :=
  let indicators := [e.event.srcIp, e.event.dstIp, e.event.domain, e.event.hash]
  let hit := indicators.findSome? fun i =>
    if given i then (intel.lookup (i.getD "")).map fun entry => (i.getD "", entry) else none
  match hit with
  | none => e
  | some (indicator, entry) =>
      ⟨e.event.setAttribute "intel" (Json.ofTexts (overlay entry [("indicator", indicator)])),
        e.applied ++ ["intel"]⟩

def enrichEvent (rt : Runtime) (intel : List (String × TextMap)) (event : CanonicalEvent) :
    CanonicalEvent :=
  let e := enrichIntel intel (enrichIdentity (enrichAsset (enrichGeo rt { event := event })))
  e.event.setAttribute "enrichment_applied" (.str (",".intercalate e.applied))

end BlueTeam.Ingest
