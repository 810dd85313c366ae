/- GID: BlueTeam/Quality/Index
   generality: I
   source: packages/quality-engine/blueteam_quality/engine.py, packages/schemas/blueteam_schemas/quality.py
   digest: The quality index counts passed and evidenced points only, and ends at 940 of its 1000. -/

import BlueTeam.Python.DateTime
import Mathlib.Algebra.BigOperators.Group.List.Basic
import Mathlib.Algebra.Order.BigOperators.Group.List
import Mathlib.Algebra.Ring.Int.Defs
import Mathlib.Data.Int.Order.Basic
import Mathlib.Data.List.Induction
import Mathlib.Logic.Function.Basic

set_option autoImplicit false
set_option relaxedAutoImplicit false

namespace BlueTeam.Quality

open BlueTeam.Python

/-! ### The index -/

/-- `QUALITY_DOMAINS`: the domains with their ceilings. -/
def qualityDomains : List (String × Int) :=
  [("network_defence", 100), ("endpoint_defence", 100), ("incident_response", 100), ("dfir", 80),
    ("detection_engineering", 100), ("threat_hunting", 80), ("identity_security", 80),
    ("cloud_security", 70), ("defensive_architecture", 70), ("threat_intelligence", 50),
    ("response_automation", 60), ("continuous_monitoring", 50)]

inductive MaturityBand
  | «prototype»
  | basicSoc
  | professional
  | advanced
  | expert
  | gseCalibre
  | elite
  deriving DecidableEq, Repr

def MaturityBand.text : MaturityBand → String
  | .prototype => "prototype"
  | .basicSoc => "basic_soc"
  | .professional => "professional"
  | .advanced => "advanced"
  | .expert => "expert"
  | .gseCalibre => "gse_calibre"
  | .elite => "elite"

def maturityBand (score : Int) : MaturityBand :=
  if 975 ≤ score then .elite
  else if 925 ≤ score then .gseCalibre
  else if 850 ≤ score then .expert
  else if 750 ≤ score then .advanced
  else if 650 ≤ score then .professional
  else if 500 ≤ score then .basicSoc
  else .prototype

structure QualityCheckResult where
  checkId : String
  domain : String
  title : String
  maxPoints : Int
  awardedPoints : Int
  passed : Bool
  evidenceIds : List String := []
  reason : String
  deriving DecidableEq, Repr

structure QualityIndex where
  modelVersion : String
  computedAt : DateTime
  total : Int
  maximum : Int := 1000
  band : MaturityBand
  domains : List (String × Int)
  checks : List QualityCheckResult
  unsigned : Bool := false
  deriving DecidableEq, Repr

/-- The check as it is counted: without evidence it fails, and without a pass it is worth nothing. -/
def QualityCheckResult.counted (check : QualityCheckResult) : QualityCheckResult :=
  if check.evidenceIds = [] then
    { check with
      awardedPoints := 0
      passed := false
      reason := check.reason ++ " Missing evidence — score withheld." }
  else if check.passed then check
  else { check with awardedPoints := 0 }

/-- `awarded_by_domain` and `normalized` after one more check -/
def tally (state : (String → Int) × List QualityCheckResult) (check : QualityCheckResult) :
    Except Exn ((String → Int) × List QualityCheckResult) :=
  if check.domain ∈ qualityDomains.map (·.1) then
    .ok (Function.update state.1 check.domain
        (state.1 check.domain + check.counted.awardedPoints),
      state.2 ++ [check.counted])
  else .error (.valueError ("unknown quality domain: " ++ check.domain))

def computeQualityIndex (checks : List QualityCheckResult) (computedAt : DateTime)
    (modelVersion : String := "qi-1.0.0") : Except Exn QualityIndex := do
  let (awardedByDomain, normalized) ← checks.foldlM tally (fun _ => 0, [])
  let domainScores := qualityDomains.map fun d => (d.1, min d.2 (awardedByDomain d.1))
  let total := (domainScores.map (·.2)).sum
  pure
    { modelVersion := modelVersion
      computedAt := computedAt
      total := total
      band := maturityBand total
      domains := domainScores
      checks := normalized }

/-! ### Credit -/

/-- What passed, on evidence. -/
def QualityCheckResult.Credited (check : QualityCheckResult) : Prop :=
  check.passed = true ∧ check.evidenceIds ≠ []

instance (check : QualityCheckResult) : Decidable check.Credited :=
  inferInstanceAs (Decidable (_ ∧ _))

def QualityCheckResult.Known (check : QualityCheckResult) : Prop :=
  check.domain ∈ qualityDomains.map (·.1)

/-- A check of a known domain that awards no more than it can. -/
structure QualityCheckResult.Valid (check : QualityCheckResult) : Prop where
  known : check.Known
  nonneg : 0 ≤ check.awardedPoints
  le_max : check.awardedPoints ≤ check.maxPoints

/-- The points of a domain before its ceiling. -/
def points (checks : List QualityCheckResult) (domain : String) : Int :=
  ((checks.filter fun check => check.Credited ∧ check.domain = domain).map (·.awardedPoints)).sum

def scores (checks : List QualityCheckResult) : List (String × Int) :=
  qualityDomains.map fun d => (d.1, min d.2 (points checks d.1))

def total (checks : List QualityCheckResult) : Int :=
  (qualityDomains.map fun d => min d.2 (points checks d.1)).sum

section

variable {check : QualityCheckResult} {checks checks' : List QualityCheckResult} {domain : String}

theorem counted_awardedPoints :
    check.counted.awardedPoints = if check.Credited then check.awardedPoints else 0 := by
  unfold QualityCheckResult.counted QualityCheckResult.Credited
  split_ifs <;> simp_all

theorem points_append (pre post : List QualityCheckResult) :
    points (pre ++ post) domain = points pre domain + points post domain := by
  simp only [points, List.filter_append, List.map_append, List.sum_append]

theorem points_singleton : points [check] domain =
    if check.domain = domain then check.counted.awardedPoints else 0 := by
  rw [counted_awardedPoints]
  simp only [points, List.filter_singleton]
  split_ifs <;> simp_all

/-- One more check adds its points to those of its domain. -/
theorem points_concat : points (checks ++ [check]) =
    Function.update (points checks) check.domain
      (points checks check.domain + check.counted.awardedPoints) := by
  funext domain
  rw [points_append, points_singleton]
  by_cases h : check.domain = domain
  · subst h
    rw [if_pos rfl, Function.update_self]
  · rw [if_neg h, add_zero, Function.update_of_ne (Ne.symm h)]

theorem foldlM_tally (h : ∀ check ∈ checks, check.Known) :
    checks.foldlM tally (fun _ => 0, []) = .ok (points checks, checks.map (·.counted)) := by
  induction checks using List.reverseRecOn with
  | nil => rfl
  | append_singleton rest check ih =>
    have hrest : ∀ c ∈ rest, c.Known := fun c hc => h c (by simp [hc])
    have hcheck : check.domain ∈ qualityDomains.map (·.1) := h check (by simp)
    rw [List.foldlM_append, ih hrest, points_concat, List.map_append]
    change (tally _ check >>= pure) = _
    rw [bind_pure, tally, if_pos hcheck]
    rfl

theorem computeQualityIndex_eq (h : ∀ check ∈ checks, check.Known) (computedAt : DateTime)
    (modelVersion : String) : computeQualityIndex checks computedAt modelVersion =
      .ok
        { modelVersion := modelVersion
          computedAt := computedAt
          total := total checks
          band := maturityBand (total checks)
          domains := scores checks
          checks := checks.map (·.counted) } := by
  have htotal : total checks = ((scores checks).map (·.2)).sum := by
    rw [scores, List.map_map]
    rfl
  unfold computeQualityIndex
  rw [foldlM_tally h, htotal]
  rfl

/-! ### What the scores depend on -/

/-- Only credited checks count, in any order. -/
theorem points_perm (h : (checks.filter fun check => check.Credited).Perm
    (checks'.filter fun check => check.Credited)) : points checks = points checks' := by
  funext domain
  have hdomain (l : List QualityCheckResult) : (l.filter fun check =>
      check.Credited ∧ check.domain = domain) =
        (l.filter fun check => check.Credited).filter fun check => check.domain = domain := by
    rw [List.filter_filter]
    exact List.filter_congr fun check _ => by
      rw [Bool.and_comm, ← Bool.decide_and]
  unfold points
  rw [hdomain, hdomain]
  exact ((h.filter _).map _).sum_eq

theorem points_nonneg (h : ∀ check ∈ checks, 0 ≤ check.awardedPoints) : 0 ≤ points checks domain := by
  refine List.sum_nonneg fun p hp => ?_
  obtain ⟨check, hcheck, rfl⟩ := List.mem_map.mp hp
  exact h check (List.mem_of_mem_filter hcheck)

theorem total_le_of_points_le (h : ∀ domain, points checks domain ≤ points checks' domain) :
    total checks ≤ total checks' :=
  List.sum_le_sum fun d _ => min_le_min_left d.2 (h d.1)

/-- A check in any place leaves the total where it is or raises it. -/
theorem total_le_insert {pre post : List QualityCheckResult} (h : 0 ≤ check.awardedPoints) :
    total (pre ++ post) ≤ total (pre ++ check :: post) := by
  refine total_le_of_points_le fun domain => ?_
  have hcheck : 0 ≤ points [check] domain := points_nonneg (by simpa using h)
  have hsplit : points (check :: post) domain = points [check] domain + points post domain :=
    points_append [check] post
  rw [points_append, points_append, hsplit]
  omega

/-! ### The ends of the scale -/

/-- The ceilings add up to 940. -/
theorem sum_ceilings : (qualityDomains.map (·.2)).sum = 940 := by
  decide

theorem total_le : total checks ≤ 940 :=
  (List.sum_le_sum fun d _ => min_le_left d.2 _).trans_eq sum_ceilings

theorem total_nonneg (h : ∀ check ∈ checks, 0 ≤ check.awardedPoints) : 0 ≤ total checks := by
  refine List.sum_nonneg fun p hp => ?_
  obtain ⟨d, hd, rfl⟩ := List.mem_map.mp hp
  have hceiling : ∀ d ∈ qualityDomains, 0 ≤ d.2 := by decide
  exact le_min (hceiling d hd) (points_nonneg h)

/-- Points for the domains in their order, each up to its ceiling, `t` in all. -/
def fill : List (String × Int) → Int → List (String × Int)
  | [], _ => []
  | d :: rest, t => (d.1, min d.2 t) :: fill rest (t - min d.2 t)

theorem map_fill (ceilings : List (String × Int)) (t : Int) :
    (fill ceilings t).map (·.1) = ceilings.map (·.1) := by
  induction ceilings generalizing t with
  | nil => rfl
  | cons d rest ih => simp only [fill, List.map_cons, ih]

/-- Points that are filled in stay below the ceilings, and are `t` in all. -/
theorem sum_min_fill {ceilings : List (String × Int)} {t : Int} {awarded : String → Int}
    (hnonneg : ∀ d ∈ ceilings, 0 ≤ d.2) (hlow : 0 ≤ t) (hhigh : t ≤ (ceilings.map (·.2)).sum)
    (h : ∀ p ∈ fill ceilings t, awarded p.1 = p.2) :
    (ceilings.map fun d => min d.2 (awarded d.1)).sum = t := by
  induction ceilings generalizing t with
  | nil =>
    have hzero : t ≤ 0 := hhigh
    exact hlow.antisymm hzero
  | cons d rest ih =>
    rw [List.map_cons, List.sum_cons] at hhigh ⊢
    have hd : awarded d.1 = min d.2 t := h _ List.mem_cons_self
    have hceiling := hnonneg d List.mem_cons_self
    have hrest := List.sum_nonneg (l := rest.map (·.2)) fun c hc => by
      obtain ⟨d', hd', rfl⟩ := List.mem_map.mp hc
      exact hnonneg d' (List.mem_cons_of_mem _ hd')
    rw [ih (fun d' hd' => hnonneg d' (List.mem_cons_of_mem _ hd')) (by omega) (by omega)
      fun p hp => h p (List.mem_cons_of_mem _ hp), hd]
    omega

theorem fill_nonneg {ceilings : List (String × Int)} {t : Int} (hnonneg : ∀ d ∈ ceilings, 0 ≤ d.2)
    (ht : 0 ≤ t) : ∀ p ∈ fill ceilings t, 0 ≤ p.2 := by
  induction ceilings generalizing t with
  | nil => exact fun p hp => absurd hp List.not_mem_nil
  | cons d rest ih =>
    have hd := hnonneg d List.mem_cons_self
    intro p hp
    obtain rfl | hp := List.mem_cons.mp hp
    · exact le_min hd ht
    · exact ih (fun d' hd' => hnonneg d' (List.mem_cons_of_mem _ hd')) (by omega) p hp

/-- A check that passes on evidence. -/
def credit (p : String × Int) : QualityCheckResult :=
  { checkId := p.1
    domain := p.1
    title := p.1
    maxPoints := p.2
    awardedPoints := p.2
    passed := true
    evidenceIds := ["ev_1"]
    reason := "stored evidence" }

theorem points_eq_zero (h : ∀ check ∈ checks, check.domain ≠ domain) : points checks domain = 0 := by
  have hnone : (checks.filter fun check => check.Credited ∧ check.domain = domain) = [] :=
    List.filter_eq_nil_iff.mpr fun check hcheck => by simp [h check hcheck]
  rw [points, hnone]
  rfl

theorem points_credit {l : List (String × Int)} (hnodup : (l.map (·.1)).Nodup) :
    ∀ p ∈ l, points (l.map credit) p.1 = p.2 := by
  induction l with
  | nil => exact fun p hp => absurd hp List.not_mem_nil
  | cons q rest ih =>
    obtain ⟨hfresh, hrest⟩ := List.nodup_cons.mp hnodup
    have hsplit (domain : String) : points ((q :: rest).map credit) domain =
        points [credit q] domain + points (rest.map credit) domain :=
      points_append [credit q] (rest.map credit)
    intro p hp
    rw [hsplit, points_singleton]
    obtain rfl | hp := List.mem_cons.mp hp
    · have hzero : points (rest.map credit) p.1 = 0 := by
        refine points_eq_zero fun check hcheck heq => hfresh ?_
        obtain ⟨q, hq, rfl⟩ := List.mem_map.mp hcheck
        exact List.mem_map.mpr ⟨q, hq, heq⟩
      rw [hzero, add_zero]
      exact if_pos rfl
    · have hne : (credit q).domain ≠ p.1 := fun heq => hfresh (List.mem_map.mpr ⟨p, hp, heq.symm⟩)
      rw [if_neg hne, zero_add, ih hrest p hp]

theorem exists_total_eq {t : Int} (hlow : 0 ≤ t) (hhigh : t ≤ 940) :
    ∃ checks : List QualityCheckResult, (∀ check ∈ checks, check.Valid) ∧ total checks = t := by
  have hceilings : ∀ d ∈ qualityDomains, 0 ≤ d.2 := by decide
  have hnodup : ((fill qualityDomains t).map (·.1)).Nodup := by
    rw [map_fill]
    decide
  refine ⟨(fill qualityDomains t).map credit, fun check hcheck => ?_, ?_⟩
  · obtain ⟨p, hp, rfl⟩ := List.mem_map.mp hcheck
    have hname : p.1 ∈ (fill qualityDomains t).map (·.1) := List.mem_map_of_mem hp
    rw [map_fill] at hname
    exact ⟨hname, fill_nonneg hceilings hlow p hp, le_refl p.2⟩
  · exact sum_min_fill hceilings hlow (hhigh.trans_eq sum_ceilings.symm) (points_credit hnodup)

/-- What valid checks can have as their total ends at the sum of the ceilings. -/
theorem exists_total_iff {t : Int} : (∃ checks : List QualityCheckResult,
    (∀ check ∈ checks, check.Valid) ∧ total checks = t) ↔ 0 ≤ t ∧ t ≤ 940 := by
  constructor
  · rintro ⟨checks, hvalid, rfl⟩
    exact ⟨total_nonneg fun check hcheck => (hvalid check hcheck).nonneg, total_le⟩
  · rintro ⟨hlow, hhigh⟩
    exact exists_total_eq hlow hhigh

theorem exists_band_iff {band : MaturityBand} : (∃ checks : List QualityCheckResult,
    (∀ check ∈ checks, check.Valid) ∧ maturityBand (total checks) = band) ↔ band ≠ .elite := by
  constructor
  · rintro ⟨checks, -, rfl⟩ helite
    have hle : total checks ≤ 940 := total_le
    unfold maturityBand at helite
    rw [if_neg (by omega)] at helite
    split_ifs at helite
  · intro hband
    have hreach (t : Int) (h : 0 ≤ t ∧ t ≤ 940) : ∃ checks : List QualityCheckResult,
        (∀ check ∈ checks, check.Valid) ∧ maturityBand (total checks) = maturityBand t := by
      obtain ⟨checks, hvalid, rfl⟩ := exists_total_iff.mpr h
      exact ⟨checks, hvalid, rfl⟩
    cases band with
    | «prototype» => exact hreach 0 (by omega)
    | basicSoc => exact hreach 500 (by omega)
    | professional => exact hreach 650 (by omega)
    | advanced => exact hreach 750 (by omega)
    | expert => exact hreach 850 (by omega)
    | gseCalibre => exact hreach 925 (by omega)
    | elite => exact absurd rfl hband

/-- What an index of valid checks can show is what their totals can be. -/
theorem exists_index_iff {P : Int → MaturityBand → Prop} (computedAt : DateTime)
    (modelVersion : String) : (∃ checks index, (∀ check ∈ checks, check.Valid) ∧
      computeQualityIndex checks computedAt modelVersion = .ok index ∧ P index.total index.band) ↔
    ∃ checks : List QualityCheckResult, (∀ check ∈ checks, check.Valid) ∧
      P (total checks) (maturityBand (total checks)) := by
  refine exists_congr fun checks => ⟨?_, ?_⟩
  · rintro ⟨index, hvalid, hok, hshown⟩
    rw [computeQualityIndex_eq fun check hcheck => (hvalid check hcheck).known] at hok
    obtain rfl := Except.ok.inj hok
    exact ⟨hvalid, hshown⟩
  · rintro ⟨hvalid, hshown⟩
    exact ⟨_, hvalid, computeQualityIndex_eq (fun check hcheck => (hvalid check hcheck).known) _ _,
      hshown⟩

end

/-- The index depends on credited checks only, whatever their order, and adds up their capped points;
of the declared scale it reaches the totals up to 940, so no band but the last. -/
theorem quality_scale_iff (computedAt : DateTime) (modelVersion : String) :
    (∀ checks checks' : List QualityCheckResult, (∀ check ∈ checks, check.Valid) →
      (∀ check ∈ checks', check.Valid) →
      (checks.filter fun check => check.Credited).Perm
        (checks'.filter fun check => check.Credited) →
      ∃ index index', computeQualityIndex checks computedAt modelVersion = .ok index ∧
        computeQualityIndex checks' computedAt modelVersion = .ok index' ∧
        index.total = index'.total ∧ index.band = index'.band ∧ index.domains = index'.domains) ∧
      (∀ checks : List QualityCheckResult, (∀ check ∈ checks, check.Valid) →
        ∃ index, computeQualityIndex checks computedAt modelVersion = .ok index ∧
          index.total = (qualityDomains.map fun d => min d.2
            ((checks.filter fun check => check.Credited ∧ check.domain = d.1).map
              (·.awardedPoints)).sum).sum) ∧
      (∀ (pre post : List QualityCheckResult) (check : QualityCheckResult),
        (∀ c ∈ pre ++ check :: post, c.Valid) →
        ∃ index index', computeQualityIndex (pre ++ post) computedAt modelVersion = .ok index ∧
          computeQualityIndex (pre ++ check :: post) computedAt modelVersion = .ok index' ∧
          index.total ≤ index'.total) ∧
      (∀ t : Int, 0 ≤ t → t ≤ 1000 →
        ((∃ checks index, (∀ check ∈ checks, check.Valid) ∧
          computeQualityIndex checks computedAt modelVersion = .ok index ∧ index.total = t) ↔
            t ≤ 940)) ∧
      ∀ band : MaturityBand, (∃ checks index, (∀ check ∈ checks, check.Valid) ∧
        computeQualityIndex checks computedAt modelVersion = .ok index ∧ index.band = band) ↔
          band ≠ .elite := by
  have hindex {checks : List QualityCheckResult} (h : ∀ check ∈ checks, check.Valid) :=
    computeQualityIndex_eq (fun check hcheck => (h check hcheck).known) computedAt modelVersion
  refine ⟨?_, ?_, ?_, ?_, ?_⟩
  · intro checks checks' hvalid hvalid' hperm
    have hpoints := points_perm hperm
    have htotal : total checks = total checks' := by rw [total, total, hpoints]
    refine ⟨_, _, hindex hvalid, hindex hvalid', htotal, ?_, ?_⟩
    · exact congrArg maturityBand htotal
    · change scores checks = scores checks'
      rw [scores, scores, hpoints]
  · intro checks hvalid
    exact ⟨_, hindex hvalid, rfl⟩
  · intro pre post check hvalid
    have hrest : ∀ c ∈ pre ++ post, c.Valid := by
      intro c hc
      refine hvalid c ?_
      simp only [List.mem_append, List.mem_cons] at hc ⊢
      exact hc.imp_right .inr
    exact ⟨_, _, hindex hrest, hindex hvalid, total_le_insert (hvalid check (by simp)).nonneg⟩
  · intro t hlow _
    rw [exists_index_iff (P := fun total _ => total = t), exists_total_iff, and_iff_right hlow]
  · intro band
    rw [exists_index_iff (P := fun _ shown => shown = band), exists_band_iff]

/-- No valid checks have the declared maximum as their total, nor its band. -/
theorem maximum_unattained :
    (¬ ∃ checks index, (∀ check ∈ checks, check.Valid) ∧
      computeQualityIndex checks ⟨0, some 0⟩ = .ok index ∧ index.total = 1000) ∧
    ¬ ∃ checks index, (∀ check ∈ checks, check.Valid) ∧
      computeQualityIndex checks ⟨0, some 0⟩ = .ok index ∧ index.band = .elite := by
  rw [exists_index_iff (P := fun total _ => total = 1000), exists_total_iff,
    exists_index_iff (P := fun _ shown => shown = .elite), exists_band_iff]
  exact ⟨by decide, by decide⟩

end BlueTeam.Quality
