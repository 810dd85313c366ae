/- GID: BlueTeam/Detection/Flows
   generality: I
   source: detections/python/network/beacon.py, east_west.py
   digest: Which flows the fingerprints of the network rules tell apart. -/

import BlueTeam.Detection.Windows
import BlueTeam.Lib.Joined
import Mathlib.Algebra.Group.Nat.Defs

set_option autoImplicit false
set_option relaxedAutoImplicit false

namespace BlueTeam.Detection

open BlueTeam.Python BlueTeam.Schema BlueTeam.Lib

/-- Groups of the second destination stand at the end of the other source: read one after the other
with colons between them, the two pairs of addresses are the same text. -/
def Shifted (src dst src' dst' : String) : Prop :=
  ∃ groups, src' = src ++ ":" ++ groups ∧ dst = groups ++ ":" ++ dst'

theorem addresses_eq_iff {src dst src' dst' : String} :
    src ++ ":" ++ dst = src' ++ ":" ++ dst' ↔
      (src = src' ∧ dst = dst') ∨ Shifted src dst src' dst' ∨ Shifted src' dst' src dst := by
  have hjoin : ∀ a b c : String, c = a ++ ":" ++ b ↔ c.toList = a.toList ++ ':' :: b.toList := by
    intro a b c
    rw [← String.toList_inj, String.toList_append, String.toList_append, List.append_assoc]
    rfl
  have hshifted : ∀ a b a' b' : String, Shifted a b a' b' ↔
      ∃ part, a'.toList = a.toList ++ ':' :: part ∧ b.toList = part ++ ':' :: b'.toList := by
    intro a b a' b'
    constructor
    · rintro ⟨groups, ha, hb⟩
      exact ⟨groups.toList, (hjoin _ _ _).mp ha, (hjoin _ _ _).mp hb⟩
    · rintro ⟨part, ha, hb⟩
      refine ⟨String.ofList part, (hjoin _ _ _).mpr ?_, (hjoin _ _ _).mpr ?_⟩
      · rw [String.toList_ofList]
        exact ha
      · rw [String.toList_ofList]
        exact hb
  rw [hshifted, hshifted, hjoin, String.toList_append, String.toList_append, List.append_assoc,
    ← String.toList_inj, ← String.toList_inj]
  exact joined_eq_iff

theorem Shifted.ne {src dst src' dst' : String} (h : Shifted src dst src' dst') : src ≠ src' := by
  obtain ⟨groups, rfl, -⟩ := h
  intro hsame
  have hlength := congrArg (fun text => text.toList.length) hsame
  simp at hlength

/-- An address without colons is no part of a shifted pair. -/
theorem Shifted.colons {src dst src' dst' : String} (h : Shifted src dst src' dst') :
    ':' ∈ src'.toList ∧ ':' ∈ dst.toList := by
  obtain ⟨groups, rfl, rfl⟩ := h
  constructor <;> simp

/-- A network rule whose finding stands for a flow. -/
structure FlowRule where
  rule : DetectionRule
  port : CanonicalEvent → Option Int

def flowRules : List FlowRule :=
  [{ rule := repetitiveBeaconRule, port := fun _ => none },
   { rule := unusualEastWestRule, port := (·.dstPort) }]

def FlowRule.SameFlow (w : FlowRule) (event event' : CanonicalEvent) : Prop :=
  event.srcIp = event'.srcIp ∧ event.dstIp = event'.dstIp ∧ w.port event = w.port event'

/-- The rest of a fingerprint after the addresses. -/
def portSuffix (port : Option Int) : String :=
  (port.map fun p => ":" ++ toString p).getD ""

theorem portSuffix_inj {port port' : Option Int} {a b : String}
    (hport : ∀ p ∈ port, p ∈ adminPorts) (hport' : ∀ p ∈ port', p ∈ adminPorts)
    (hsome : port.isSome = port'.isSome)
    (h : a ++ portSuffix port = b ++ portSuffix port') : a = b ∧ port = port' := by
  cases port with
  | none =>
      cases port' with
      | none =>
          refine ⟨?_, rfl⟩
          rw [← String.toList_inj] at h ⊢
          simpa [portSuffix] using h
      | some p' => cases hsome
  | some p =>
      cases port' with
      | none => cases hsome
      | some p' =>
          have hplain : ∀ q ∈ adminPorts, ':' ∉ (toString q).toList := by decide
          have htext : ∀ q ∈ adminPorts, ∀ q' ∈ adminPorts,
              (toString q).toList = (toString q').toList → q = q' := by decide
          have hp := hport p rfl
          have hp' := hport' p' rfl
          rw [← String.toList_inj] at h
          simp only [portSuffix, Option.map_some, Option.getD_some, String.toList_append] at h
          have hparts := (joined_inj_right (hplain p hp) (hplain p' hp')).mp h
          exact ⟨String.toList_inj.mp hparts.1, congrArg some (htext p hp p' hp' hparts.2)⟩

section

variable {rt : Runtime} {context : DetectionContext} {event : CanonicalEvent}
  {selection : Selection}

theorem given_iff {text : Option String} : given text = true ↔ ∃ s, text = some s ∧ s ≠ "" := by
  cases text with
  | none => simp [given, orText]
  | some s =>
      by_cases hs : s = ""
      · simp [given, orText, hs]
      · simp [given, orText, hs]

theorem repetitiveBeacon_tail
    (h : repetitiveBeaconRule.selects rt context event = .ok (some selection)) :
    selection.tail = showText event.srcIp ++ ":" ++ showText event.dstIp := by
  change (if event.category = "network" ∧ given event.srcIp ∧ given event.dstIp then _ else _) = _
    at h
  split at h
  · obtain ⟨window, -, h⟩ := except_of_bind h
    dsimp only at h
    split at h
    · cases h
    · obtain rfl := Option.some.inj (Except.ok.inj h)
      rfl
  · cases h

theorem unusualEastWest_tail
    (h : unusualEastWestRule.selects rt context event = .ok (some selection)) :
    given event.srcIp = true ∧ given event.dstIp = true ∧ event.dstPort.getD 0 ∈ adminPorts ∧
      selection.tail = showText event.srcIp ++ ":" ++ showText event.dstIp ++ ":" ++
        showPort event.dstPort := by
  change (if event.category = "network" ∧ given event.srcIp ∧ given event.dstIp ∧
    event.dstPort.getD 0 ∈ adminPorts ∧ _ then _ else _) = _ at h
  split at h
  · rename_i htrigger
    obtain rfl := Option.some.inj (Except.ok.inj h)
    exact ⟨htrigger.2.1, htrigger.2.2.1, htrigger.2.2.2.1, rfl⟩
  · cases h

/-- What a rule of a flow needs, and the text it makes of the flow. -/
structure FlowRule.Names (w : FlowRule) (event : CanonicalEvent) (src dst tail : String) : Prop where
  srcIp : event.srcIp = some src
  dstIp : event.dstIp = some dst
  port : ∀ p ∈ w.port event, p ∈ adminPorts
  ported : (w.port event).isSome = decide (w.rule.info.ruleId = "network.unusual_east_west")
  tail : tail = src ++ ":" ++ dst ++ portSuffix (w.port event)

theorem flowRules_name {w : FlowRule} (hw : w ∈ flowRules)
    (h : w.rule.selects rt context event = .ok (some selection)) :
    ∃ src dst, w.Names event src dst selection.tail := by
  simp only [flowRules, List.mem_cons, List.not_mem_nil, or_false] at hw
  rcases hw with rfl | rfl
  · obtain ⟨-, hsrc, hdst, -, -⟩ := repetitiveBeacon_query h
    obtain ⟨src, hsrc, -⟩ := given_iff.mp hsrc
    obtain ⟨dst, hdst, -⟩ := given_iff.mp hdst
    refine ⟨src, dst, hsrc, hdst, by simp, rfl, ?_⟩
    rw [repetitiveBeacon_tail h, hsrc, hdst, ← String.toList_inj]
    simp [showText, portSuffix]
  · obtain ⟨hsrc, hdst, hport, htail⟩ := unusualEastWest_tail h
    obtain ⟨src, hsrc, -⟩ := given_iff.mp hsrc
    obtain ⟨dst, hdst, -⟩ := given_iff.mp hdst
    cases hsome : event.dstPort with
    | none =>
        rw [hsome] at hport
        exact absurd hport (by decide)
    | some port =>
        rw [hsome] at hport
        refine ⟨src, dst, hsrc, hdst, ?_, ?_, ?_⟩
        · intro p hp
          obtain rfl : port = p := Option.some.inj (hsome.symm.trans hp)
          exact hport
        · dsimp only
          rw [hsome]
          rfl
        · dsimp only
          rw [htail, hsrc, hdst, hsome, ← String.toList_inj]
          simp [showText, showPort, portSuffix]

end

/-- Two findings of a flow rule have one fingerprint although their flows differ exactly if the ports
are the same and the addresses shifted. -/
theorem flows_separated_iff {rt rt' : Runtime} {w : FlowRule} (hw : w ∈ flowRules)
    {context context' : DetectionContext} {event event' : CanonicalEvent} {t t₁ t' t₁' : Ticks}
    {findings findings' : List Finding} {finding finding' : Finding}
    (hrun : w.rule.evaluate rt event context t = (.ok findings, t₁)) (hfinding : finding ∈ findings)
    (hrun' : w.rule.evaluate rt' event' context' t' = (.ok findings', t₁'))
    (hfinding' : finding' ∈ findings') (htenant : event.tenantId = event'.tenantId) :
    (finding.fingerprint = finding'.fingerprint → w.SameFlow event event') ↔
      ¬ (w.port event = w.port event' ∧
        (Shifted (event.srcIp.getD "") (event.dstIp.getD "") (event'.srcIp.getD "")
            (event'.dstIp.getD "") ∨
          Shifted (event'.srcIp.getD "") (event'.dstIp.getD "") (event.srcIp.getD "")
            (event.dstIp.getD ""))) := by
  obtain ⟨selection, hdrawn⟩ := evaluate_ok hrun finding hfinding
  obtain ⟨selection', hdrawn'⟩ := evaluate_ok hrun' finding' hfinding'
  obtain ⟨src, dst, hnames⟩ := flowRules_name hw hdrawn.selects
  obtain ⟨src', dst', hnames'⟩ := flowRules_name hw hdrawn'.selects
  have hsome : (w.port event).isSome = (w.port event').isSome :=
    hnames.ported.trans hnames'.ported.symm
  have hfingerprint : finding.fingerprint = finding'.fingerprint ↔
      w.port event = w.port event' ∧ src ++ ":" ++ dst = src' ++ ":" ++ dst' := by
    rw [hdrawn.fingerprint, hdrawn'.fingerprint, htenant, hnames.tail, hnames'.tail]
    constructor
    · intro h
      have htail : src ++ ":" ++ dst ++ portSuffix (w.port event) =
          src' ++ ":" ++ dst' ++ portSuffix (w.port event') := by
        rw [← String.toList_inj] at h ⊢
        simp only [DetectionRule.fingerprint, String.toList_append] at h ⊢
        exact List.append_cancel_left h
      exact (portSuffix_inj hnames.port hnames'.port hsome htail).symm
    · rintro ⟨hport, haddresses⟩
      rw [hport, haddresses]
  unfold FlowRule.SameFlow
  rw [hfingerprint, hnames.srcIp, hnames.dstIp, hnames'.srcIp, hnames'.dstIp, addresses_eq_iff]
  simp only [Option.some.injEq, Option.getD_some]
  constructor
  · rintro h ⟨hport, hshifted⟩
    obtain ⟨hsrc, -, -⟩ := h ⟨hport, .inr hshifted⟩
    rcases hshifted with hshifted | hshifted
    · exact hshifted.ne hsrc
    · exact hshifted.ne hsrc.symm
  · rintro h ⟨hport, ⟨hsrc, hdst⟩ | hshifted⟩
    · exact ⟨hsrc, hdst, hport⟩
    · exact absurd ⟨hport, hshifted⟩ h

/-- The last of the four connections of a flow arrives. -/
def beaconOn (rt : Runtime) (src dst : String) (opened : List String) : Draw (List Finding) :=
  repetitiveBeaconRule.evaluate rt (connection "e4" src dst 600)
    { window := flow src dst, openFingerprints := opened }

theorem flows_separated_sample : ∃ finding finding',
    (beaconOn sampleRuntime "10.0.0.5" "1.1.1.1" [] {}).1 = .ok [finding] ∧
    (beaconOn sampleRuntime "10.0.0.6" "1.1.1.1" [] {}).1 = .ok [finding'] ∧
    finding.fingerprint ≠ finding'.fingerprint := by
  obtain ⟨finding, hfinding⟩ : ∃ finding,
      (beaconOn sampleRuntime "10.0.0.5" "1.1.1.1" [] {}).1 = .ok [finding] := ⟨_, rfl⟩
  obtain ⟨finding', hfinding'⟩ : ∃ finding',
      (beaconOn sampleRuntime "10.0.0.6" "1.1.1.1" [] {}).1 = .ok [finding'] := ⟨_, rfl⟩
  refine ⟨finding, finding', hfinding, hfinding', fun hsame => ?_⟩
  have hrule : { rule := repetitiveBeaconRule, port := fun _ => none : FlowRule } ∈ flowRules :=
    List.mem_cons_self
  have hflow := (flows_separated_iff hrule (Prod.ext hfinding rfl) List.mem_cons_self
    (Prod.ext hfinding' rfl) List.mem_cons_self rfl).mpr ?_ hsame
  · exact absurd hflow.1 (by decide)
  · rintro ⟨-, hshifted | hshifted⟩
    · exact absurd hshifted.colons.1 (by decide)
    · exact absurd hshifted.colons.1 (by decide)

/-- The addresses of the two flows below, all of them unique local. -/
def localRuntime : Runtime :=
  { sampleRuntime with
    ipAddress := fun text =>
      ([("fd00::1", 0xfd000000000000000000000000000001),
        ("fd00::1:fd00", 0xfd00000000000000000000000001fd00),
        ("fd00:fd01::3", 0xfd00fd01000000000000000000000003),
        ("fd01::3", 0xfd010000000000000000000000000003)].lookup text).map fun value => ⟨6, value⟩
    isPrivate := fun addr => decide (addr.version = 6 ∧ addr.value / 2 ^ 121 = 126) }

/-- A connection to a file share. -/
def shareConnection (src dst : String) : CanonicalEvent :=
  { connection "e1" src dst 0 with dstPort := some 445 }

/-- `fd00::1` to `fd00:fd01::3`, and `fd00::1:fd00` to `fd01::3`: one fingerprint, and after a finding for
the first flow there is none for the second. -/
theorem flows_collide :
    (∃ finding finding',
      (beaconOn localRuntime "fd00::1" "fd00:fd01::3" [] {}).1 = .ok [finding] ∧
      (beaconOn localRuntime "fd00::1:fd00" "fd01::3" [] {}).1 = .ok [finding'] ∧
      finding.fingerprint = finding'.fingerprint ∧
      (beaconOn localRuntime "fd00::1:fd00" "fd01::3" [finding.fingerprint] {}).1 = .ok []) ∧
    ∃ finding finding',
      (unusualEastWestRule.evaluate localRuntime (shareConnection "fd00::1" "fd00:fd01::3")
        { window := [], openFingerprints := [] } {}).1 = .ok [finding] ∧
      (unusualEastWestRule.evaluate localRuntime (shareConnection "fd00::1:fd00" "fd01::3")
        { window := [], openFingerprints := [] } {}).1 = .ok [finding'] ∧
      finding.fingerprint = finding'.fingerprint := by
  refine ⟨⟨_, _, rfl, rfl, ?_, ?_⟩, _, _, rfl, rfl, ?_⟩
  · decide
  · decide
  · decide

end BlueTeam.Detection
