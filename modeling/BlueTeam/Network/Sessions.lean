/- GID: BlueTeam/Network/Sessions
   generality: I
   source: packages/network-adapters/blueteam_network/normalize.py,
     packages/schemas/blueteam_schemas/sessions.py
   digest: Network sessions: the events of one flow, and what their session adds up. -/

import BlueTeam.Correlation.Fingerprint
import BlueTeam.Hashing
import BlueTeam.Lib.Gather
import BlueTeam.Lib.Joined
import BlueTeam.Lib.Parts
import BlueTeam.Python.Dict
import Mathlib.Algebra.BigOperators.Group.List.Basic
import Mathlib.Algebra.Ring.Int.Defs
import Mathlib.Algebra.Ring.Nat

set_option autoImplicit false
set_option relaxedAutoImplicit false

namespace BlueTeam.Network

open BlueTeam.Python BlueTeam.Schema BlueTeam.Lib

structure NetworkSession where
  sessionId : String
  tenantId : String
  src : String
  dst : String
  protocol : String
  start : DateTime
  «end» : DateTime
  durationMs : Int := 0
  bytesIn : Int := 0
  bytesOut : Int := 0
  packets : Nat := 0
  dns : List String := []
  tls : List String := []
  http : List String := []
  zeekRefs : List String := []
  suricataRefs : List String := []
  risk : PyFloat := .finite 0
  attributes : JsonObject := []
  deriving DecidableEq, Repr

/-- `str(event.dst_port or "")` -/
def portText (port : Option Int) : String :=
  match port with
  | some port => if port = 0 then "" else toString port
  | none => ""

/-- The event has both addresses. -/
def networked (event : CanonicalEvent) : Bool :=
  given event.srcIp && given event.dstIp

/-- The key of an event's bucket. -/
def sessionKey (event : CanonicalEvent) : String :=
  "|".intercalate [event.tenantId, orText event.srcIp "", orText event.dstIp "",
    orText event.protocol "", portText event.dstPort]

/-- One turn of the loop over the events. -/
def putEvent (buckets : Dict String (List CanonicalEvent)) (event : CanonicalEvent) :
    Dict String (List CanonicalEvent) :=
  if networked event then
    buckets.set (sessionKey event) ((buckets.get? (sessionKey event)).getD [] ++ [event])
  else buckets

/-- `sorted(group, key=lambda item: item.timestamp)` -/
def sortByTimestamp (group : List CanonicalEvent) : Except Exn (List CanonicalEvent) :=
  if group.Pairwise fun a b => a.timestamp.Comparable b.timestamp then
    .ok (group.insertionSort fun a b => a.timestamp.instant ≤ b.timestamp.instant)
  else .error .typeError

/-- `int(item.attributes.get(name) or 0)` -/
def bytesOf (rt : Runtime) (name : String) (event : CanonicalEvent) : Except Exn Int :=
  (Json.orElse (Json.get event.attributes name) (.int 0)).toInt rt

/-- `sum(int(item.attributes.get(name) or 0) for item in group)` -/
def sumBytes (rt : Runtime) (name : String) (group : List CanonicalEvent) : Except Exn Int := do
  let bytes ← group.mapM (bytesOf rt name)
  pure bytes.sum

/-- The domains of the events of a category, sorted. -/
def domainsOf (category : String) (group : List CanonicalEvent) : List String :=
  sortedTexts (toSet ((group.filter fun e => given e.domain && e.category = category).filterMap
    (·.domain)))

/-- The ids of the events of a source type. -/
def refsOf (sourceType : String) (group : List CanonicalEvent) : List String :=
  (group.filter fun e => e.sourceType = sourceType).map (·.id)

section

variable (rt : Runtime) (milliseconds : Int → Int)

/-- One turn of the loop over the buckets; `milliseconds` is `int(delta.total_seconds() * 1000)` of a
difference in microseconds. -/
def sessionOf (key : String) (group : List CanonicalEvent) : Except Exn NetworkSession := do
  let group ← sortByTimestamp group
  match group.head?, group.getLast? with
  | some first, some last => do
      let delta ← last.timestamp.minus first.timestamp
      let bytesOut ← sumBytes rt "bytes_out" group
      let bytesIn ← sumBytes rt "bytes_in" group
      pure
        { sessionId := "ses_" ++ takeChars 24 (sha256Hex key)
          tenantId := first.tenantId
          src := orText first.srcIp ""
          dst := orText first.dstIp ""
          protocol := orText first.protocol ""
          start := first.timestamp
          «end» := last.timestamp
          durationMs := max (milliseconds delta) 0
          bytesOut := bytesOut
          bytesIn := bytesIn
          packets := group.length
          dns := domainsOf "dns" group
          tls := domainsOf "tls" group
          http := sortedTexts (toSet ((group.filter fun e => given e.url).filterMap (·.url)))
          zeekRefs := refsOf "zeek" group
          suricataRefs := refsOf "suricata" group
          risk := if group.any fun e => e.category = "alert" then .finite 80 else .finite 10 }
  | _, _ => .error .typeError

def sessionsFromEvents (events : List CanonicalEvent) : Except Exn (List NetworkSession) :=
  (events.foldl putEvent []).mapM fun bucket => sessionOf rt milliseconds bucket.1 bucket.2

end

/-! ### What the sessions should be -/

/-- Two events of one flow; an absent protocol counts as an empty one, an absent port as 0. -/
structure SameFlow (a b : CanonicalEvent) : Prop where
  tenant : a.tenantId = b.tenantId
  src : a.srcIp = b.srcIp
  dst : a.dstIp = b.dstIp
  protocol : orText a.protocol "" = orText b.protocol ""
  port : a.dstPort.getD 0 = b.dstPort.getD 0

/-- The bytes that an event counts, where its attribute can be read. -/
def bytesRead (rt : Runtime) (name : String) (event : CanonicalEvent) : Int :=
  match bytesOf rt name event with
  | .ok bytes => bytes
  | .error _ => 0

/-- What a session tells of the events in it. -/
structure Tells (rt : Runtime) (group : List CanonicalEvent) (s : NetworkSession) : Prop where
  flow : ∀ e ∈ group, e.tenantId = s.tenantId ∧ e.srcIp = some s.src ∧ e.dstIp = some s.dst ∧
    orText e.protocol "" = s.protocol
  packets : s.packets = group.length
  bytesOut : s.bytesOut = (group.map (bytesRead rt "bytes_out")).sum
  bytesIn : s.bytesIn = (group.map (bytesRead rt "bytes_in")).sum
  zeekRefs : s.zeekRefs.Perm (refsOf "zeek" group)
  suricataRefs : s.suricataRefs.Perm (refsOf "suricata" group)
  start : s.start ∈ group.map (·.timestamp) ∧
    ∀ e ∈ group, s.start.instant ≤ e.timestamp.instant
  «end» : s.end ∈ group.map (·.timestamp) ∧ ∀ e ∈ group, e.timestamp.instant ≤ s.end.instant
  ordered : s.start.instant ≤ s.end.instant
  duration : 0 ≤ s.durationMs

/-- Every event with both addresses is in exactly one session, with the events of its flow, and the
sessions add up to the events. -/
structure Conserved (rt : Runtime) (events : List CanonicalEvent) (sessions : List NetworkSession) :
    Prop where
  grouped : ∃ groups, List.Forall₂ (Tells rt) groups sessions ∧
    groups.flatten.Perm (events.filter networked) ∧
    ∀ group ∈ groups, group ≠ [] ∧ ∀ a ∈ group, ∀ b ∈ events, networked b = true →
      (b ∈ group ↔ SameFlow a b)
  packets : (sessions.map (·.packets)).sum = (events.filter networked).length
  bytesOut : (sessions.map (·.bytesOut)).sum =
    ((events.filter networked).map (bytesRead rt "bytes_out")).sum
  bytesIn : (sessions.map (·.bytesIn)).sum =
    ((events.filter networked).map (bytesRead rt "bytes_in")).sum
  zeekRefs : (sessions.flatMap (·.zeekRefs)).Perm (refsOf "zeek" (events.filter networked))
  suricataRefs :
    (sessions.flatMap (·.suricataRefs)).Perm (refsOf "suricata" (events.filter networked))

/-- Two sessions that differ at most in the order of their references and in which of several equal
time stamps they show. -/
structure SameSession (a b : NetworkSession) : Prop where
  start : a.start.Same b.start
  «end» : a.end.Same b.end
  zeekRefs : a.zeekRefs.Perm b.zeekRefs
  suricataRefs : a.suricataRefs.Perm b.suricataRefs
  rest : { a with
    start := b.start, «end» := b.end, zeekRefs := b.zeekRefs, suricataRefs := b.suricataRefs } = b

/-- The same sessions, in whatever order. -/
def SameSessions (as bs : List NetworkSession) : Prop :=
  ∃ bs', bs'.Perm bs ∧ List.Forall₂ SameSession as bs'

/-! ### Keys -/

section

variable {a b : CanonicalEvent}

theorem portText_plain (port : Option Int) : '|' ∉ (portText port).toList := by
  have hdigits : ∀ n : Nat, '|' ∉ n.repr.toList := by
    intro n hmem
    have hmem' : '|' ∈ Nat.toDigits 10 n := by
      rwa [Nat.repr, String.toList_ofList] at hmem
    exact absurd (Nat.isDigit_of_mem_toDigits (by decide) (by decide) hmem') (by decide)
  unfold portText
  split
  · rename_i port
    split_ifs
    · simp
    · cases port with
      | ofNat n => exact hdigits n
      | negSucc n =>
          show '|' ∉ ("-" ++ (n + 1).repr).toList
          rw [String.toList_append, List.mem_append, not_or]
          exact ⟨by decide, hdigits _⟩
  · simp

theorem repr_nat_inj {n m : Nat} (h : n.repr = m.repr) : n = m := by
  have hdigits : Nat.toDigits 10 n = Nat.toDigits 10 m := by
    simpa [Nat.repr] using congrArg String.toList h
  have hread := congrArg (fun cs => Nat.ofDigitChars 10 cs 0) hdigits
  simpa [Nat.ofDigitChars_toDigits] using hread

theorem toString_int_inj {n m : Int} (h : toString n = toString m) : n = m := by
  have hminus : ∀ n k : Nat, n.repr ≠ "-" ++ k.repr := by
    intro n k hsame
    have hmem : '-' ∈ n.repr.toList := by
      rw [hsame, String.toList_append]
      exact List.mem_append_left _ (by decide)
    rw [Nat.repr, String.toList_ofList] at hmem
    exact absurd (Nat.isDigit_of_mem_toDigits (by decide) (by decide) hmem) (by decide)
  cases n with
  | ofNat n =>
      cases m with
      | ofNat m => exact congrArg Int.ofNat (repr_nat_inj h)
      | negSucc m => exact absurd h (hminus n (m + 1))
  | negSucc n =>
      cases m with
      | ofNat m => exact absurd h.symm (hminus m (n + 1))
      | negSucc m =>
          have htexts := congrArg String.toList (show "-" ++ (n + 1).repr = "-" ++ (m + 1).repr from h)
          rw [String.toList_append, String.toList_append] at htexts
          have hsame := repr_nat_inj (String.toList_injective (List.append_cancel_left htexts))
          exact congrArg Int.negSucc (Nat.succ.inj hsame)

theorem portText_eq_iff {p q : Option Int} : portText p = portText q ↔ p.getD 0 = q.getD 0 := by
  have hzero : ∀ port : Option Int, portText port =
      if port.getD 0 = 0 then "" else toString (port.getD 0) := by
    intro port
    cases port <;> rfl
  have hnonempty : ∀ n : Int, toString n ≠ "" := by
    intro n hempty
    have hlist := congrArg String.toList hempty
    cases n with
    | ofNat n =>
        have hdigits : Nat.toDigits 10 n = [] := by
          have hrepr : n.repr.toList = [] := hlist
          rwa [Nat.repr, String.toList_ofList] at hrepr
        exact Nat.toDigits_ne_nil hdigits
    | negSucc n =>
        have hrepr : ("-" ++ (n + 1).repr).toList = [] := hlist
        rw [String.toList_append] at hrepr
        exact absurd hrepr (by simp)
  rw [hzero p, hzero q]
  constructor
  · intro h
    split_ifs at h with hp hq hq
    · rw [hp, hq]
    · exact absurd h.symm (hnonempty _)
    · exact absurd h (hnonempty _)
    · exact toString_int_inj h
  · intro h
    rw [h]

theorem srcIp_of_networked (h : networked a = true) :
    a.srcIp = some (orText a.srcIp "") ∧ a.dstIp = some (orText a.dstIp "") := by
  have hgiven : ∀ ip : Option String, given ip = true → ip = some (orText ip "") := by
    intro ip hip
    cases ip with
    | none => simp [given, orText] at hip
    | some text =>
        by_cases hempty : text = ""
        · simp [given, orText, hempty] at hip
        · simp [orText, hempty]
  unfold networked at h
  rw [Bool.and_eq_true] at h
  exact ⟨hgiven _ h.1, hgiven _ h.2⟩

/-- The tenant and the addresses of an event have no separator in them. -/
structure Unbarred (event : CanonicalEvent) : Prop where
  tenant : '|' ∉ event.tenantId.toList
  src : '|' ∉ (orText event.srcIp "").toList
  dst : '|' ∉ (orText event.dstIp "").toList

theorem sessionKey_toList (event : CanonicalEvent) : (sessionKey event).toList =
    event.tenantId.toList ++ '|' :: ((orText event.srcIp "").toList ++ '|' ::
      ((orText event.dstIp "").toList ++ '|' :: ((orText event.protocol "").toList ++ '|' ::
        (portText event.dstPort).toList))) := by
  unfold sessionKey
  rw [String.toList_intercalate]
  refine (intercalate_cons '|' _ _).trans ?_
  simp

/-- Events with both addresses have the same key exactly if they are of one flow. -/
theorem sessionKey_eq_iff (ha : Unbarred a) (hb : Unbarred b) (hna : networked a = true)
    (hnb : networked b = true) : sessionKey a = sessionKey b ↔ SameFlow a b := by
  obtain ⟨hsrc, hdst⟩ := srcIp_of_networked hna
  obtain ⟨hsrc', hdst'⟩ := srcIp_of_networked hnb
  rw [← String.toList_inj, sessionKey_toList, sessionKey_toList, joined_inj ha.tenant hb.tenant,
    joined_inj ha.src hb.src, joined_inj ha.dst hb.dst,
    joined_inj_right (portText_plain _) (portText_plain _), String.toList_inj, String.toList_inj,
    String.toList_inj, String.toList_inj, String.toList_inj, portText_eq_iff]
  constructor
  · rintro ⟨htenant, hsame, hsame', hprotocol, hport⟩
    exact ⟨htenant, by rw [hsrc, hsrc', hsame], by rw [hdst, hdst', hsame'], hprotocol, hport⟩
  · rintro ⟨htenant, hsame, hsame', hprotocol, hport⟩
    exact ⟨htenant, by rw [hsame], by rw [hsame'], hprotocol, hport⟩

end

/-! ### Buckets -/

section

variable {events : List CanonicalEvent} {buckets : Dict String (List CanonicalEvent)}

/-- The networked events of a key. -/
def ofKey (events : List CanonicalEvent) (key : String) : List CanonicalEvent :=
  (events.filter networked).filter fun e => sessionKey e = key

/-- The events that were read are in the buckets of their keys, and nothing else is. -/
structure Bucketed (events : List CanonicalEvent) (buckets : Dict String (List CanonicalEvent)) :
    Prop where
  distinct : buckets.keys.Nodup
  groups : ∀ bucket ∈ buckets, bucket.2 = ofKey events bucket.1 ∧ bucket.2 ≠ []
  covered : ∀ e ∈ events.filter networked, sessionKey e ∈ buckets.keys

theorem bucketed_nil : Bucketed [] [] where
  distinct := .nil
  groups _ h := nomatch h
  covered _ h := nomatch h

theorem ofKey_append (events : List CanonicalEvent) (event : CanonicalEvent) (key : String) :
    ofKey (events ++ [event]) key =
      ofKey events key ++
        if networked event = true ∧ sessionKey event = key then [event] else [] := by
  unfold ofKey
  rw [List.filter_append, List.filter_append]
  by_cases hnetworked : networked event = true <;> by_cases hkey : sessionKey event = key <;>
    simp [hnetworked, hkey]

theorem Bucketed.old (h : Bucketed events buckets) (key : String) :
    (buckets.get? key).getD [] = ofKey events key := by
  cases hentry : buckets.get? key with
  | some group => exact (h.groups _ ((Dict.get?_eq_some_iff h.distinct).mp hentry)).1
  | none =>
      have hnone : key ∉ buckets.keys :=
        Dict.get?_isNone_iff.mp (Option.isNone_iff_eq_none.mpr hentry)
      refine (List.filter_eq_nil_iff.mpr fun e he hkey => hnone ?_).symm
      rw [← of_decide_eq_true hkey]
      exact h.covered e he

theorem Bucketed.step (h : Bucketed events buckets) (event : CanonicalEvent) :
    Bucketed (events ++ [event]) (putEvent buckets event) := by
  unfold putEvent
  by_cases hnetworked : networked event = true
  · rw [if_pos hnetworked, h.old]
    refine ⟨Dict.nodup_keys_set h.distinct _ _, ?_, ?_⟩
    · intro bucket hbucket
      rw [ofKey_append]
      rcases (Dict.mem_set_iff h.distinct).mp hbucket with rfl | ⟨hold, hne⟩
      · rw [if_pos ⟨hnetworked, rfl⟩]
        exact ⟨rfl, by simp⟩
      · rw [if_neg fun hboth => hne hboth.2.symm, List.append_nil]
        exact h.groups bucket hold
    · intro e he
      rw [Dict.mem_keys_set]
      rw [List.filter_append, List.mem_append] at he
      rcases he with hold | hnew
      · exact .inl (h.covered e hold)
      · obtain rfl := List.mem_singleton.mp (List.mem_of_mem_filter hnew)
        exact .inr rfl
  · rw [if_neg hnetworked]
    have hsame : (events ++ [event]).filter networked = events.filter networked := by
      rw [List.filter_append, List.filter_cons_of_neg hnetworked, List.filter_nil, List.append_nil]
    refine ⟨h.distinct, fun bucket hbucket => ?_, fun e he => h.covered e (hsame ▸ he)⟩
    rw [ofKey_append, if_neg fun hboth => hnetworked hboth.1, List.append_nil]
    exact h.groups bucket hbucket

theorem bucketed_run (events : List CanonicalEvent) :
    Bucketed events (events.foldl putEvent []) := by
  induction events using List.reverseRecOn with
  | nil => exact bucketed_nil
  | append_singleton events event ih =>
      rw [List.foldl_append]
      exact ih.step event

/-- All events with both addresses are in the buckets, each once. -/
theorem Bucketed.perm (h : Bucketed events buckets) :
    (buckets.map Prod.snd).flatten.Perm (events.filter networked) := by
  have hgroups : buckets.map Prod.snd = buckets.keys.map (ofKey events) := by
    unfold Dict.keys
    rw [List.map_map]
    exact List.map_congr_left fun bucket hbucket => (h.groups bucket hbucket).1
  rw [hgroups, ← List.flatMap_def]
  exact perm_flatMap_filter h.distinct h.covered

/-- The same buckets, in another order, hold the same events of another order. -/
theorem Bucketed.keys_perm {events' : List CanonicalEvent}
    {buckets' : Dict String (List CanonicalEvent)} (h : Bucketed events buckets)
    (h' : Bucketed events' buckets') (hperm : events'.Perm events) :
    buckets'.keys.Perm buckets.keys := by
  have hsub : ∀ {events events' : List CanonicalEvent}
      {buckets buckets' : Dict String (List CanonicalEvent)}, Bucketed events buckets →
      Bucketed events' buckets' → events'.Perm events → buckets'.keys ⊆ buckets.keys := by
    intro events events' buckets buckets' h h' hperm key hkey
    obtain ⟨bucket, hbucket, rfl⟩ := List.mem_map.mp hkey
    obtain ⟨hgroup, hne⟩ := h'.groups bucket hbucket
    obtain ⟨e, he⟩ := List.exists_mem_of_ne_nil _ hne
    rw [hgroup] at he
    obtain ⟨hmem, hsame⟩ := List.mem_filter.mp he
    rw [← of_decide_eq_true hsame]
    exact h.covered e ((hperm.filter networked).subset hmem)
  exact (List.perm_ext_iff_of_nodup h'.distinct h.distinct).mpr fun key =>
    ⟨fun hmem => hsub h h' hperm hmem, fun hmem => hsub h' h hperm.symm hmem⟩

end

/-! ### One session -/

section

variable (rt : Runtime) (milliseconds : Int → Int) {key : String} {group : List CanonicalEvent}

/-- The attribute of the bytes is absent or empty, or `int` reads it. -/
def ReadsBytes (event : CanonicalEvent) : Prop :=
  (∃ n, bytesOf rt "bytes_out" event = .ok n) ∧ ∃ n, bytesOf rt "bytes_in" event = .ok n

theorem sumBytes_eq {name : String} (h : ∀ e ∈ group, ∃ n, bytesOf rt name e = .ok n) :
    sumBytes rt name group = .ok (group.map (bytesRead rt name)).sum := by
  have hread : group.mapM (bytesOf rt name) = .ok (group.map (bytesRead rt name)) := by
    induction group with
    | nil => rfl
    | cons e group ih =>
        obtain ⟨n, hn⟩ := h e List.mem_cons_self
        have hvalue : bytesRead rt name e = n := by
          unfold bytesRead
          rw [hn]
        rw [List.mapM_cons, hn, ih fun e' he' => h e' (List.mem_cons_of_mem _ he'), List.map_cons,
          hvalue]
        rfl
  unfold sumBytes
  rw [hread]
  rfl

/-- The session of a sorted group with its first and its last event. -/
def sessionBetween (key : String) (first last : CanonicalEvent) (group : List CanonicalEvent) :
    NetworkSession where
  sessionId := "ses_" ++ takeChars 24 (sha256Hex key)
  tenantId := first.tenantId
  src := orText first.srcIp ""
  dst := orText first.dstIp ""
  protocol := orText first.protocol ""
  start := first.timestamp
  «end» := last.timestamp
  durationMs := max (milliseconds (last.timestamp.instant - first.timestamp.instant)) 0
  bytesOut := (group.map (bytesRead rt "bytes_out")).sum
  bytesIn := (group.map (bytesRead rt "bytes_in")).sum
  packets := group.length
  dns := domainsOf "dns" group
  tls := domainsOf "tls" group
  http := sortedTexts (toSet ((group.filter fun e => given e.url).filterMap (·.url)))
  zeekRefs := refsOf "zeek" group
  suricataRefs := refsOf "suricata" group
  risk := if group.any fun e => e.category = "alert" then .finite 80 else .finite 10

/-- The group sorted by time, from its first event to its last. -/
structure SortedGroup (group sorted : List CanonicalEvent) (first last : CanonicalEvent) : Prop where
  perm : sorted.Perm group
  first : first ∈ group ∧ ∀ e ∈ group, first.timestamp.instant ≤ e.timestamp.instant
  last : last ∈ group ∧ ∀ e ∈ group, e.timestamp.instant ≤ last.timestamp.instant

theorem sessionOf_eq (hne : group ≠ [])
    (hcomparable : ∀ a ∈ group, ∀ b ∈ group, a.timestamp.Comparable b.timestamp)
    (hbytes : ∀ e ∈ group, ReadsBytes rt e) :
    ∃ sorted first last, SortedGroup group sorted first last ∧
      sessionOf rt milliseconds key group =
        .ok (sessionBetween rt milliseconds key first last sorted) := by
  let sorted := group.insertionSort fun a b => a.timestamp.instant ≤ b.timestamp.instant
  have hperm : sorted.Perm group := List.perm_insertionSort _ _
  have hsorted : sorted.Pairwise fun a b => a.timestamp.instant ≤ b.timestamp.instant := by
    have htotal : Std.Total fun a b : CanonicalEvent =>
        a.timestamp.instant ≤ b.timestamp.instant := ⟨fun a b => le_total _ _⟩
    have htrans : IsTrans CanonicalEvent fun a b =>
        a.timestamp.instant ≤ b.timestamp.instant := ⟨fun a b c => le_trans⟩
    exact List.pairwise_insertionSort _ group
  have hsort : sortByTimestamp group = .ok sorted := by
    unfold sortByTimestamp
    rw [if_pos]
    exact List.pairwise_of_forall_mem_list fun a ha b hb => hcomparable a ha b hb
  have hne' : sorted ≠ [] := fun hnil => hne (hnil ▸ hperm).symm.eq_nil
  obtain ⟨first, hfirst⟩ := Option.isSome_iff_exists.mp (List.isSome_head?.mpr hne')
  obtain ⟨last, hlast⟩ := Option.isSome_iff_exists.mp (List.getLast?_isSome.mpr hne')
  have hmemFirst : first ∈ group := hperm.subset (List.mem_of_mem_head? hfirst)
  have hmemLast : last ∈ group := hperm.subset (List.mem_of_mem_getLast? hlast)
  refine ⟨sorted, first, last, ⟨hperm, ⟨hmemFirst, fun e he => ?_⟩, ⟨hmemLast, fun e he => ?_⟩⟩, ?_⟩
  · obtain ⟨rest, hrest⟩ := List.head?_eq_some_iff.mp hfirst
    have he' := hperm.symm.subset he
    rw [hrest] at he' hsorted
    rcases List.mem_cons.mp he' with rfl | he'
    · exact le_refl _
    · exact List.rel_of_pairwise_cons hsorted he'
  · obtain ⟨before, hbefore⟩ := List.getLast?_eq_some_iff.mp hlast
    have he' := hperm.symm.subset he
    rw [hbefore] at he' hsorted
    rcases List.mem_append.mp he' with he' | he'
    · exact (List.pairwise_append.mp hsorted).2.2 e he' last (List.mem_singleton_self _)
    · rw [List.mem_singleton.mp he']
  · have hout := @sumBytes_eq rt sorted _ fun e he => (hbytes e (hperm.subset he)).1
    have hin := @sumBytes_eq rt sorted _ fun e he => (hbytes e (hperm.subset he)).2
    have hminus := (hcomparable last hmemLast first hmemFirst).minus_eq
    unfold sessionOf
    rw [hsort]
    show (match sorted.head?, sorted.getLast? with
      | some first, some last => _
      | _, _ => _) = _
    rw [hfirst, hlast]
    dsimp only
    rw [hminus, hout, hin]
    rfl

variable {rt milliseconds}

theorem refsOf_perm {sourceType : String} {group' : List CanonicalEvent} (h : group.Perm group') :
    (refsOf sourceType group).Perm (refsOf sourceType group') :=
  (h.filter _).map _

/-- A session tells what its events have in common, and adds up the rest. -/
theorem SortedGroup.tells {sorted : List CanonicalEvent} {first last : CanonicalEvent}
    (h : SortedGroup group sorted first last) (hnetworked : ∀ e ∈ group, networked e = true)
    (hflow : ∀ a ∈ group, ∀ b ∈ group, SameFlow a b) :
    Tells rt group (sessionBetween rt milliseconds key first last sorted) where
  flow e he := by
    have hsame := hflow e he first h.first.1
    obtain ⟨hsrc, hdst⟩ := srcIp_of_networked (hnetworked first h.first.1)
    exact ⟨hsame.tenant, hsame.src.trans hsrc, hsame.dst.trans hdst, hsame.protocol⟩
  packets := h.perm.length_eq
  bytesOut := (h.perm.map _).sum_eq
  bytesIn := (h.perm.map _).sum_eq
  zeekRefs := refsOf_perm h.perm
  suricataRefs := refsOf_perm h.perm
  start := ⟨List.mem_map_of_mem h.first.1, h.first.2⟩
  «end» := ⟨List.mem_map_of_mem h.last.1, h.last.2⟩
  ordered := h.first.2 last h.last.1
  duration := le_max_right _ _

theorem sortedTexts_toSet {texts texts' : List String} (h : texts.Perm texts') :
    sortedTexts (toSet texts) = sortedTexts (toSet texts') := by
  refine Correlation.sortedTexts_eq_iff.mpr ?_
  refine (List.perm_ext_iff_of_nodup (nodup_toSet texts) (nodup_toSet texts')).mpr fun text => ?_
  rw [mem_toSet, mem_toSet, h.mem_iff]

/-- Two groups with the same events give the same session. -/
theorem SortedGroup.same {group' sorted sorted' : List CanonicalEvent}
    {first last first' last' : CanonicalEvent} (h : SortedGroup group sorted first last)
    (h' : SortedGroup group' sorted' first' last') (hperm : group'.Perm group)
    (hcomparable : ∀ a ∈ group, ∀ b ∈ group, a.timestamp.Comparable b.timestamp)
    (hflow : ∀ a ∈ group, ∀ b ∈ group, SameFlow a b) :
    SameSession (sessionBetween rt milliseconds key first last sorted)
      (sessionBetween rt milliseconds key first' last' sorted') := by
  have hfirst' : first' ∈ group := hperm.subset h'.first.1
  have hlast' : last' ∈ group := hperm.subset h'.last.1
  have hstart : first.timestamp.instant = first'.timestamp.instant :=
    le_antisymm (h.first.2 first' hfirst') (h'.first.2 first (hperm.symm.subset h.first.1))
  have hend : last.timestamp.instant = last'.timestamp.instant :=
    le_antisymm (h'.last.2 last (hperm.symm.subset h.last.1)) (h.last.2 last' hlast')
  have hsorted : sorted.Perm sorted' := h.perm.trans (hperm.symm.trans h'.perm.symm)
  have hsame := hflow first h.first.1 first' hfirst'
  refine ⟨⟨hcomparable _ h.first.1 _ hfirst', hstart⟩, ⟨hcomparable _ h.last.1 _ hlast', hend⟩,
    refsOf_perm hsorted, refsOf_perm hsorted, ?_⟩
  have hdomains : ∀ category, domainsOf category sorted = domainsOf category sorted' :=
    fun category => sortedTexts_toSet ((hsorted.filter _).filterMap _)
  have hurls := sortedTexts_toSet ((hsorted.filter fun e => given e.url).filterMap (·.url))
  have hout := (hsorted.map (bytesRead rt "bytes_out")).sum_eq
  have hin := (hsorted.map (bytesRead rt "bytes_in")).sum_eq
  have halert : (sorted.any fun e => e.category = "alert") =
      sorted'.any fun e => e.category = "alert" := hsorted.any_eq
  unfold sessionBetween
  simp only [hsame.tenant, hsame.src, hsame.dst, hsame.protocol, hstart, hend, hdomains, hurls,
    hout, hin, halert, hsorted.length_eq]

end

/-! ### All sessions -/

section

variable {rt : Runtime} {milliseconds : Int → Int} {events : List CanonicalEvent}

/-- The events of a list can be put into sessions. -/
structure Sessionable (rt : Runtime) (events : List CanonicalEvent) : Prop where
  comparable : ∀ a ∈ events, ∀ b ∈ events, a.timestamp.Comparable b.timestamp
  unbarred : ∀ e ∈ events, Unbarred e
  bytes : ∀ e ∈ events, ReadsBytes rt e

theorem Sessionable.perm {events' : List CanonicalEvent} (h : Sessionable rt events)
    (hperm : events'.Perm events) : Sessionable rt events' where
  comparable a ha b hb := h.comparable a (hperm.subset ha) b (hperm.subset hb)
  unbarred e he := h.unbarred e (hperm.subset he)
  bytes e he := h.bytes e (hperm.subset he)

theorem mem_ofKey {key : String} {e : CanonicalEvent} :
    e ∈ ofKey events key ↔ e ∈ events ∧ networked e = true ∧ sessionKey e = key := by
  unfold ofKey
  rw [List.mem_filter, List.mem_filter, decide_eq_true_eq, and_assoc]

theorem Sessionable.flow (h : Sessionable rt events) {key : String} :
    ∀ a ∈ ofKey events key, ∀ b ∈ ofKey events key, SameFlow a b := by
  intro a ha b hb
  obtain ⟨ha, hna, hkey⟩ := mem_ofKey.mp ha
  obtain ⟨hb, hnb, hkey'⟩ := mem_ofKey.mp hb
  exact (sessionKey_eq_iff (h.unbarred a ha) (h.unbarred b hb) hna hnb).mp (hkey.trans hkey'.symm)

/-- The session of a key. -/
def SessionOfKey (rt : Runtime) (milliseconds : Int → Int) (events : List CanonicalEvent)
    (key : String) (s : NetworkSession) : Prop :=
  ∃ sorted first last, SortedGroup (ofKey events key) sorted first last ∧
    s = sessionBetween rt milliseconds key first last sorted

theorem mapM_forall₂ {α β : Type} {f : α → Except Exn β} {R : α → β → Prop} {as : List α}
    (h : ∀ a ∈ as, ∃ b, f a = .ok b ∧ R a b) : ∃ bs, as.mapM f = .ok bs ∧ List.Forall₂ R as bs := by
  induction as with
  | nil => exact ⟨[], rfl, .nil⟩
  | cons a as ih =>
      obtain ⟨b, hb, hr⟩ := h a List.mem_cons_self
      obtain ⟨bs, hbs, hrest⟩ := ih fun a' ha' => h a' (List.mem_cons_of_mem _ ha')
      refine ⟨b :: bs, ?_, .cons hr hrest⟩
      rw [List.mapM_cons, hb, hbs]
      rfl

/-- There is one session for each bucket. -/
theorem sessionsFromEvents_ok (milliseconds : Int → Int) (h : Sessionable rt events) :
    ∃ sessions, sessionsFromEvents rt milliseconds events = .ok sessions ∧
      List.Forall₂ (SessionOfKey rt milliseconds events) (events.foldl putEvent []).keys
        sessions := by
  have hbucketed := bucketed_run events
  have hall : ∀ bucket ∈ events.foldl putEvent [], ∃ s,
      sessionOf rt milliseconds bucket.1 bucket.2 = .ok s ∧
        SessionOfKey rt milliseconds events bucket.1 s := by
    intro bucket hbucket
    obtain ⟨hgroup, hne⟩ := hbucketed.groups bucket hbucket
    rw [hgroup] at hne ⊢
    obtain ⟨sorted, first, last, hsorted, hsession⟩ := sessionOf_eq rt milliseconds hne
      (fun a ha b hb => h.comparable a (mem_ofKey.mp ha).1 b (mem_ofKey.mp hb).1)
      (fun e he => h.bytes e (mem_ofKey.mp he).1)
    exact ⟨_, hsession, sorted, first, last, hsorted, rfl⟩
  obtain ⟨sessions, hrun, hsessions⟩ := mapM_forall₂ hall
  refine ⟨sessions, hrun, ?_⟩
  unfold Dict.keys
  rw [List.forall₂_map_left_iff]
  exact hsessions

theorem sum_map_flatten {groups : List (List CanonicalEvent)} (f : CanonicalEvent → Int) :
    (groups.map fun group => (group.map f).sum).sum = (groups.flatten.map f).sum := by
  rw [List.map_flatten, List.sum_flatten, List.map_map]
  rfl

/-- The sessions add up to the events. -/
theorem conserved_of_sessions (h : Sessionable rt events) {sessions : List NetworkSession}
    (hsessions : List.Forall₂ (SessionOfKey rt milliseconds events)
      (events.foldl putEvent []).keys sessions) : Conserved rt events sessions := by
  have hbucketed := bucketed_run events
  generalize events.foldl putEvent [] = buckets at hbucketed hsessions
  have hflatten : (buckets.map Prod.snd).flatten.Perm (events.filter networked) := hbucketed.perm
  have hgroups : List.Forall₂ (Tells rt) (buckets.map Prod.snd) sessions := by
    unfold Dict.keys at hsessions
    rw [List.forall₂_map_left_iff] at hsessions ⊢
    refine forall₂_join (List.forall₂_same.mpr fun bucket _ => rfl) hsessions ?_
    rintro bucket hbucket _ s rfl ⟨sorted, first, last, hsorted, rfl⟩
    rw [(hbucketed.groups bucket hbucket).1]
    exact hsorted.tells (fun e he => (mem_ofKey.mp he).2.1) h.flow
  have hints : ∀ (total : NetworkSession → Int) (f : CanonicalEvent → Int),
      (∀ group s, Tells rt group s → total s = (group.map f).sum) →
      (sessions.map total).sum = ((events.filter networked).map f).sum := by
    intro total f htells
    rw [map_eq_of_forall₂ hgroups htells, sum_map_flatten]
    exact (hflatten.map f).sum_eq
  have hrefs : ∀ (refs : NetworkSession → List String) (sourceType : String),
      (∀ group s, Tells rt group s → (refs s).Perm (refsOf sourceType group)) →
      (sessions.flatMap refs).Perm (refsOf sourceType (events.filter networked)) := by
    intro refs sourceType htells
    have hparts : (sessions.flatMap refs).Perm
        (refsOf sourceType (buckets.map Prod.snd).flatten) := by
      clear hflatten hints hsessions
      generalize buckets.map Prod.snd = groups at hgroups
      induction hgroups with
      | nil => exact .refl _
      | @cons group s groups sessions hgroup _ ih =>
          rw [List.flatMap_cons, List.flatten_cons]
          unfold refsOf
          rw [List.filter_append, List.map_append]
          exact (htells group s hgroup).append ih
    exact hparts.trans (refsOf_perm hflatten)
  refine ⟨⟨buckets.map Prod.snd, hgroups, hflatten, ?_⟩, ?_,
    hints _ _ fun _ _ ht => ht.bytesOut, hints _ _ fun _ _ ht => ht.bytesIn,
    hrefs _ _ fun _ _ ht => ht.zeekRefs, hrefs _ _ fun _ _ ht => ht.suricataRefs⟩
  · intro group hgroup
    obtain ⟨bucket, hbucket, rfl⟩ := List.mem_map.mp hgroup
    obtain ⟨hof, hne⟩ := hbucketed.groups bucket hbucket
    refine ⟨hne, fun a ha b hb hnb => ?_⟩
    rw [hof] at ha ⊢
    obtain ⟨hmem, hna, hkey⟩ := mem_ofKey.mp ha
    rw [← sessionKey_eq_iff (h.unbarred a hmem) (h.unbarred b hb) hna hnb, mem_ofKey, hkey,
      eq_comm (a := bucket.1)]
    exact ⟨fun hin => hin.2.2, fun hsame => ⟨hb, hnb, hsame⟩⟩
  · rw [map_eq_of_forall₂ hgroups fun _ _ ht => ht.packets, ← hflatten.length_eq,
      List.length_flatten]

/-- Another order of the events gives the same sessions. -/
theorem sameSessions_of_perm (h : Sessionable rt events) {events' : List CanonicalEvent}
    (hperm : events'.Perm events) {sessions sessions' : List NetworkSession}
    (hsessions : List.Forall₂ (SessionOfKey rt milliseconds events)
      (events.foldl putEvent []).keys sessions)
    (hsessions' : List.Forall₂ (SessionOfKey rt milliseconds events')
      (events'.foldl putEvent []).keys sessions') : SameSessions sessions sessions' := by
  have hkeys := (bucketed_run events).keys_perm (bucketed_run events') hperm
  obtain ⟨others, hothers, hmore⟩ := List.perm_comp_forall₂ hkeys.symm hsessions'
  refine ⟨others, hmore, forall₂_join hsessions hothers ?_⟩
  rintro key - s s' ⟨sorted, first, last, hsorted, rfl⟩ ⟨sorted', first', last', hsorted', rfl⟩
  refine hsorted.same hsorted' ((hperm.filter _).filter _) ?_ h.flow
  exact fun a ha b hb => h.comparable a (mem_ofKey.mp ha).1 b (mem_ofKey.mp hb).1

end

/-- Sessions conserve the events, whatever their order. -/
theorem sessions_conserved (rt : Runtime) (milliseconds : Int → Int) (events : List CanonicalEvent)
    (h : Sessionable rt events) :
    ∃ sessions, sessionsFromEvents rt milliseconds events = .ok sessions ∧
      Conserved rt events sessions ∧
      ∀ events', events'.Perm events → ∃ sessions',
        sessionsFromEvents rt milliseconds events' = .ok sessions' ∧
          SameSessions sessions sessions' := by
  obtain ⟨sessions, hrun, hsessions⟩ := sessionsFromEvents_ok milliseconds h
  refine ⟨sessions, hrun, conserved_of_sessions h hsessions, fun events' hperm => ?_⟩
  obtain ⟨sessions', hrun', hsessions'⟩ := sessionsFromEvents_ok milliseconds (h.perm hperm)
  exact ⟨sessions', hrun', sameSessions_of_perm h hperm hsessions hsessions'⟩

/-! ### Samples -/

/-- A flow of a Zeek connection; the clock counts seconds. -/
def connection (id : String) (second : Int) (bytes : String) : CanonicalEvent where
  id := id
  tenantId := "ten_a"
  timestamp := ⟨second * DateTime.second, some 0⟩
  ingestedAt := ⟨0, some 0⟩
  source := "zeek.conn"
  sourceType := "zeek"
  eventType := "conn"
  category := "network"
  srcIp := some "10.0.0.8"
  dstIp := some "10.0.0.9"
  attributes := [("bytes_out", .str bytes)]

theorem sessions_conserved_two :
    ∃ sessions, sessionsFromEvents sampleRuntime (· / 1000)
        [connection "evt_2" 20 "", connection "evt_1" 10 ""] = .ok sessions ∧
      Conserved sampleRuntime [connection "evt_2" 20 "", connection "evt_1" 10 ""] sessions := by
  have h : Sessionable sampleRuntime [connection "evt_2" 20 "", connection "evt_1" 10 ""] := by
    refine ⟨by decide, ?_, ?_⟩
    · intro e he
      rcases List.mem_pair.mp he with rfl | rfl <;> exact ⟨by decide, by decide, by decide⟩
    · intro e he
      rcases List.mem_pair.mp he with rfl | rfl <;> exact ⟨⟨0, rfl⟩, 0, rfl⟩
  obtain ⟨sessions, hrun, hconserved, -⟩ := sessions_conserved sampleRuntime (· / 1000) _ h
  exact ⟨sessions, hrun, hconserved⟩

end BlueTeam.Network
