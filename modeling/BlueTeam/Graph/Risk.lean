/- GID: BlueTeam/Graph/Risk
   generality: I
   source: packages/entity-graph/blueteam_graph/engine.py
   digest: The risk of an entity is the capped sum of its components, whatever the findings. -/

import BlueTeam.Graph.Engine
import BlueTeam.Lib.Rounding
import Mathlib.Algebra.BigOperators.Group.List.Basic
import Mathlib.Algebra.Order.BigOperators.Group.List
import Mathlib.Tactic.Ring

set_option autoImplicit false
set_option relaxedAutoImplicit false

namespace BlueTeam.Graph

open BlueTeam.Python BlueTeam.Schema BlueTeam.Lib

variable {rt : Runtime} {entity : GraphEntity} {finding : Finding} {findings : List Finding}

/-! ### Findings about an entity -/

/-- What a finding says under a name. -/
def said (rt : Runtime) (finding : Finding) (name : String) : String :=
  rt.lower ((finding.attributes.lookup name).getD "")

/-- A finding is about an entity if they share an event, or if it names the key of the entity in an
attribute of the kind of the entity. -/
inductive Touches (rt : Runtime) (entity : GraphEntity) (finding : Finding) : Prop
  | event (id : String) (hentity : id ∈ entity.eventIds) (hfinding : id ∈ finding.eventIds)
  | user (hkind : entity.entityType = .user) (hkey : said rt finding "user" = entity.key)
  | host (hkind : entity.entityType = .host) (hkey : said rt finding "host" = entity.key)
  | ip (hkind : entity.entityType = .ip) (name : String) (hname : name ∈ ["src_ip", "dst_ip"])
      (hkey : said rt finding name = entity.key)
  | process (hkind : entity.entityType = .process) (hsaid : said rt finding "process" ≠ "")
      (hkey : (said rt finding "process").toList <:+: entity.key.toList)

theorem findingTouches_iff : findingTouches rt entity finding = true ↔ Touches rt entity finding := by
  have hevents : entity.eventIds.any (· ∈ finding.eventIds) = true ↔
      ∃ id ∈ entity.eventIds, id ∈ finding.eventIds := by simp
  have hsays (name : String) :
      rt.lower ((finding.attributes.lookup name).getD "") = said rt finding name := rfl
  simp only [findingTouches, Bool.or_eq_true, hevents, hsays]
  constructor
  · rintro (⟨id, hentity, hfinding⟩ | hnames)
    · exact .event id hentity hfinding
    · cases hkind : entity.entityType <;> simp only [hkind] at hnames
      case user => exact .user hkind (of_decide_eq_true hnames)
      case host => exact .host hkind (of_decide_eq_true hnames)
      case ip =>
        obtain hkey | hkey := (Bool.or_eq_true _ _).mp hnames
        · exact .ip hkind "src_ip" (by simp) (of_decide_eq_true hkey).symm
        · exact .ip hkind "dst_ip" (by simp) (of_decide_eq_true hkey).symm
      case process =>
        obtain ⟨hsaid, hkey⟩ := (Bool.and_eq_true _ _).mp hnames
        exact .process hkind (of_decide_eq_true hsaid) (of_decide_eq_true hkey)
      all_goals cases hnames
  · rintro (⟨id, hentity, hfinding⟩ | ⟨hkind, hkey⟩ | ⟨hkind, hkey⟩ | ⟨hkind, name, hname, hkey⟩ |
      ⟨hkind, hsaid, hkey⟩)
    · exact .inl ⟨id, hentity, hfinding⟩
    · simp [hkind, hkey]
    · simp [hkind, hkey]
    · obtain rfl | rfl : name = "src_ip" ∨ name = "dst_ip" := by simpa using hname
      · simp [hkind, hkey]
      · simp [hkind, hkey]
    · simp [hkind, hsaid, hasInfix, hkey]

instance : Decidable (Touches rt entity finding) :=
  decidable_of_iff _ findingTouches_iff

/-! ### Points -/

/-- The findings that count for an entity. -/
def touching (rt : Runtime) (entity : GraphEntity) (findings : List Finding) : List Finding :=
  findings.filter fun finding => finding.tenantId = entity.tenantId ∧ Touches rt entity finding

/-- Their points, before the criticality of the entity is looked at. -/
def raw (rt : Runtime) (entity : GraphEntity) (findings : List Finding) : Rat :=
  ((touching rt entity findings).map fun finding => (severityPoints finding.severity).1).sum

theorem touching_eq : (findings.filter fun finding =>
    finding.tenantId = entity.tenantId ∧ findingTouches rt entity finding) =
      touching rt entity findings := by
  simp only [touching, findingTouches_iff]

/-- Each severity is worth a whole number of points. -/
theorem exists_severityPoints_eq (severity : Severity) :
    ∃ n : Nat, (severityPoints severity).1 = n := by
  cases severity
  · exact ⟨1, rfl⟩
  · exact ⟨5, rfl⟩
  · exact ⟨12, rfl⟩
  · exact ⟨25, rfl⟩
  · exact ⟨40, rfl⟩

theorem exists_sum_points_eq (findings : List Finding) :
    ∃ n : Nat, (findings.map fun finding => (severityPoints finding.severity).1).sum = n := by
  induction findings with
  | nil => exact ⟨0, rfl⟩
  | cons finding rest ih =>
    obtain ⟨n, hn⟩ := ih
    obtain ⟨m, hm⟩ := exists_severityPoints_eq finding.severity
    refine ⟨m + n, ?_⟩
    rw [List.map_cons, List.sum_cons, hm, hn]
    push_cast
    rfl

theorem exists_criticalityFactor_eq (criticality : Criticality) :
    ∃ m : Nat, (criticalityFactor criticality).1 = m / 100 := by
  cases criticality
  · exact ⟨100, by norm_num [criticalityFactor]⟩
  · exact ⟨80, by norm_num [criticalityFactor]⟩
  · exact ⟨100, by norm_num [criticalityFactor]⟩
  · exact ⟨125, by norm_num [criticalityFactor]⟩
  · exact ⟨150, by norm_num [criticalityFactor]⟩

theorem round2_hundredths (k : Int) : round2 ((k : Rat) / 100) = k / 100 :=
  Rounding.toParts_div (by norm_num : 0 < 100)

/-- Nothing is lost by rounding: factors are hundredths, and points are whole. -/
theorem round2_raw_mul (criticality : Criticality) :
    round2 (raw rt entity findings * (criticalityFactor criticality).1) =
        raw rt entity findings * (criticalityFactor criticality).1 ∧
      round2 (raw rt entity findings * ((criticalityFactor criticality).1 - 1)) =
        raw rt entity findings * ((criticalityFactor criticality).1 - 1) := by
  obtain ⟨n, hn⟩ := exists_sum_points_eq (touching rt entity findings)
  obtain ⟨m, hm⟩ := exists_criticalityFactor_eq criticality
  have hraw : raw rt entity findings = n := hn
  have hscore : (n : Rat) * (m / 100) = ((n * m : Int) : Rat) / 100 := by
    push_cast
    ring
  have hextra : (n : Rat) * (m / 100 - 1) = ((n * (m - 100) : Int) : Rat) / 100 := by
    push_cast
    ring
  rw [hraw, hm, hscore, hextra]
  exact ⟨round2_hundredths _, round2_hundredths _⟩

theorem raw_nonneg : 0 ≤ raw rt entity findings := by
  obtain ⟨n, hn⟩ := exists_sum_points_eq (touching rt entity findings)
  exact (Nat.cast_nonneg n).trans_eq hn.symm

/-- Which findings count does not depend on the criticality. -/
theorem raw_criticality (criticality : Criticality) :
    raw rt { entity with criticality := criticality } findings = raw rt entity findings := by
  simp only [raw, ← touching_eq]
  rfl

theorem criticalityFactor_pos (criticality : Criticality) :
    0 < (criticalityFactor criticality).1 := by
  cases criticality <;> norm_num [criticalityFactor]

theorem raw_append (more : List Finding) :
    raw rt entity (findings ++ more) = raw rt entity findings + raw rt entity more := by
  simp only [raw, touching, List.filter_append, List.map_append, List.sum_append]

/-! ### The record -/

@[simp] theorem applyRisk_findingIds :
    (applyRisk rt findings entity).findingIds = (touching rt entity findings).map (·.id) := by
  rw [← touching_eq]
  rfl

theorem applyRisk_riskScore : (applyRisk rt findings entity).riskScore =
    min 100 (raw rt entity findings * (criticalityFactor entity.criticality).1) := by
  rw [← (round2_raw_mul entity.criticality).1, raw, ← touching_eq]
  rfl

/-- The components add up to the score before the cap. -/
theorem sum_riskComponents : ((applyRisk rt findings entity).riskComponents.map (·.points)).sum =
    raw rt entity findings * (criticalityFactor entity.criticality).1 := by
  have hdetections : ((touching rt entity findings).map riskComponent).map (·.points) =
      (touching rt entity findings).map fun finding => (severityPoints finding.severity).1 := by
    rw [List.map_map]
    rfl
  have hextra : round2 (raw rt entity findings * ((criticalityFactor entity.criticality).1 - 1)) =
      raw rt entity findings * ((criticalityFactor entity.criticality).1 - 1) :=
    (round2_raw_mul entity.criticality).2
  simp only [applyRisk, touching_eq]
  rw [List.map_append, List.sum_append, hdetections, ← raw]
  split_ifs with hfactor
  · rw [hfactor, mul_one, List.map_nil, List.sum_nil, add_zero]
  · rw [List.map_singleton, List.sum_singleton, hextra]
    ring

/-- The score explains itself, stays on its scale, and follows the findings and the criticality. -/
theorem applyRisk_explained (rt : Runtime) (entity : GraphEntity) (findings : List Finding) :
    (applyRisk rt findings entity).riskScore =
        min 100 ((applyRisk rt findings entity).riskComponents.map (·.points)).sum ∧
      0 ≤ (applyRisk rt findings entity).riskScore ∧
      (applyRisk rt findings entity).riskScore ≤ 100 ∧
      (applyRisk rt findings entity).findingIds =
        (findings.filter fun finding =>
          finding.tenantId = entity.tenantId ∧ Touches rt entity finding).map (·.id) ∧
      (∀ more : List Finding, (applyRisk rt findings entity).riskScore ≤
        (applyRisk rt (findings ++ more) entity).riskScore) ∧
      [Criticality.low, .medium, .high, .crownJewel].Pairwise fun lower higher =>
        (applyRisk rt findings { entity with criticality := lower }).riskScore ≤
          (applyRisk rt findings { entity with criticality := higher }).riskScore := by
  have hfactor := (criticalityFactor_pos entity.criticality).le
  refine ⟨?_, ?_, ?_, applyRisk_findingIds, fun more => ?_, ?_⟩
  · rw [applyRisk_riskScore, sum_riskComponents]
  · rw [applyRisk_riskScore]
    exact le_min (by norm_num) (mul_nonneg raw_nonneg hfactor)
  · rw [applyRisk_riskScore]
    exact min_le_left _ _
  · rw [applyRisk_riskScore, applyRisk_riskScore, raw_append]
    have hmore : 0 ≤ raw rt entity more * (criticalityFactor entity.criticality).1 :=
      mul_nonneg raw_nonneg hfactor
    refine min_le_min_left 100 ?_
    rw [add_mul]
    exact le_add_of_nonneg_right hmore
  · -- only the factor depends on the criticality
    have hraises {lower higher : Criticality}
        (h : (criticalityFactor lower).1 ≤ (criticalityFactor higher).1) :
        (applyRisk rt findings { entity with criticality := lower }).riskScore ≤
          (applyRisk rt findings { entity with criticality := higher }).riskScore := by
      rw [applyRisk_riskScore, applyRisk_riskScore, raw_criticality lower, raw_criticality higher]
      exact min_le_min_left 100 (mul_le_mul_of_nonneg_left h raw_nonneg)
    simp only [List.pairwise_cons, List.forall_mem_cons, List.not_mem_nil, false_implies,
      implies_true, List.Pairwise.nil, and_true]
    refine ⟨⟨hraises ?_, hraises ?_, hraises ?_⟩, ⟨hraises ?_, hraises ?_⟩, hraises ?_⟩ <;>
      norm_num [criticalityFactor]

end BlueTeam.Graph
