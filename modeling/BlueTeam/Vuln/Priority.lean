/- GID: BlueTeam/Vuln/Priority
   generality: I
   source: packages/vuln-engine/blueteam_vuln/__init__.py
   digest: Remediation priorities agree with their bands except just below a threshold. -/

import BlueTeam.Lib.Rounding
import BlueTeam.Python.Runtime
import Mathlib.Data.List.Sort

set_option autoImplicit false
set_option relaxedAutoImplicit false

namespace BlueTeam.Vuln

open BlueTeam.Python BlueTeam.Lib Rounding

/-! ### The formula -/

def clamp (value : Rat) (low : Rat := 0) (high : Rat := 100) : Rat :=
  max low (min high value)

inductive Band
  | critical
  | high
  | medium
  | low
  deriving DecidableEq, Repr

def Band.text : Band → String
  | .critical => "critical"
  | .high => "high"
  | .medium => "medium"
  | .low => "low"

/-- `band` and `sla_days` for a score -/
def banding (score : Rat) : Band × Nat :=
  if 80 ≤ score then (.critical, 7)
  else if 50 ≤ score then (.high, 14)
  else if 25 ≤ score then (.medium, 30)
  else (.low, 90)

structure Components where
  cvssNorm : Rat
  exploitability : Rat
  assetCriticality : Rat
  threatActivity : Rat
  deriving DecidableEq, Repr

structure Remediation where
  priority : Rat
  band : Band
  slaDays : Nat
  components : Components
  formula : String
  deriving DecidableEq, Repr

/-- `round(value, 2)` is `toParts 100 value`. -/
def remediationPriority (cvss exploitability assetCriticality threatActivity : Rat) : Remediation :=
  let cvssNorm := clamp (cvss * 10)
  let exploit := clamp exploitability
  let criticality := clamp assetCriticality
  let threat := clamp threatActivity
  let score := clamp (2 / 5 * cvssNorm + 1 / 4 * exploit + 1 / 5 * criticality + 3 / 20 * threat)
  { priority := toParts 100 score
    band := (banding score).1
    slaDays := (banding score).2
    components :=
      { cvssNorm := toParts 100 cvssNorm
        exploitability := toParts 100 exploit
        assetCriticality := toParts 100 criticality
        threatActivity := toParts 100 threat }
    formula := "0.40*cvss_norm + 0.25*exploitability + 0.20*asset_criticality + 0.15*threat_activity" }

structure VulnerabilityFinding where
  cveId : String
  title : String
  cvss : Rat
  exploitability : Rat
  assetId : String
  assetCriticality : Rat
  threatActivity : Rat
  scanner : String
  status : String := "open"
  deriving DecidableEq, Repr

/-- The dict of a finding, with the dict of its priority merged in. -/
structure Scored extends VulnerabilityFinding, Remediation
  deriving DecidableEq, Repr

def VulnerabilityFinding.scored (finding : VulnerabilityFinding) : Scored :=
  { finding, remediationPriority finding.cvss finding.exploitability finding.assetCriticality
      finding.threatActivity with }

/-- `float(value)`; a text, or the `repr` of a float, is read by `parse`. -/
def number (parse : String → Except Exn Rat) : Json → Except Exn Rat
  | .bool b => .ok (if b then 1 else 0)
  | .int i => .ok i
  | .float r => parse r
  | .str s => parse s
  | _ => .error .typeError

/-- A row as a finding: the first name that has a value counts. -/
def readFinding (rt : Runtime) (parse : String → Except Exn Rat) (row : JsonObject) :
    Except Exn VulnerabilityFinding := do
  let first (names : List String) (default : Json) : Json := (Json.getFirst row names).orElse default
  let cvss ← number parse (first ["cvss", "cvss_score"] (.int 0))
  let exploitability ← number parse (first ["exploitability", "epss"] (.int 0))
  let assetCriticality ← number parse (first ["asset_criticality", "criticality"] (.int 50))
  let threatActivity ← number parse (first ["threat_activity"] (.int 0))
  pure
    { cveId := (first ["cve_id", "cve"] (.str "CVE-UNKNOWN")).text rt
      title := (first ["title", "name", "cve_id"] (.str "vulnerability")).text rt
      cvss := cvss
      exploitability := exploitability
      assetId := (first ["asset_id", "asset"] (.str "unknown")).text rt
      assetCriticality := assetCriticality
      threatActivity := threatActivity
      scanner := (first ["scanner"] (.str "import")).text rt
      status := (first ["status"] (.str "open")).text rt }

def importScannerFindings (rt : Runtime) (parse : String → Except Exn Rat) (rows : List JsonObject) :
    Except Exn (List Scored) := do
  let out ← rows.mapM fun row => (·.scored) <$> readFinding rt parse row
  pure (out.insertionSort fun a b => b.priority ≤ a.priority)

/-! ### Scores and thresholds -/

def thresholds : List Rat :=
  [80, 50, 25]

/-- The mean that the formula takes of the four inputs, each of them cut to the scale. -/
def weighted (cvss exploitability assetCriticality threatActivity : Rat) : Rat :=
  2 / 5 * clamp (cvss * 10) + 1 / 4 * clamp exploitability + 1 / 5 * clamp assetCriticality +
    3 / 20 * clamp threatActivity

section

variable {cvss exploitability assetCriticality threatActivity : Rat} {x y θ w : Rat}

theorem clamp_mono (h : x ≤ y) : clamp x ≤ clamp y :=
  max_le_max_left 0 (min_le_min_left 100 h)

theorem clamp_nonneg : 0 ≤ clamp x :=
  le_max_left _ _

theorem clamp_le : clamp x ≤ 100 :=
  max_le (by norm_num) (min_le_left _ _)

theorem clamp_of_mem (hlow : 0 ≤ x) (hhigh : x ≤ 100) : clamp x = x := by
  rw [clamp, min_eq_right hhigh, max_eq_right hlow]

/-- The weights add up to one, so the mean stays on the scale. -/
theorem clamp_weighted :
    clamp (weighted cvss exploitability assetCriticality threatActivity) =
      weighted cvss exploitability assetCriticality threatActivity := by
  have hcvss := clamp_nonneg (x := cvss * 10)
  have hexploit := clamp_nonneg (x := exploitability)
  have hcriticality := clamp_nonneg (x := assetCriticality)
  have hthreat := clamp_nonneg (x := threatActivity)
  have hcvss' := clamp_le (x := cvss * 10)
  have hexploit' := clamp_le (x := exploitability)
  have hcriticality' := clamp_le (x := assetCriticality)
  have hthreat' := clamp_le (x := threatActivity)
  refine clamp_of_mem ?_ ?_
  · unfold weighted
    linarith
  · unfold weighted
    linarith

@[simp] theorem remediationPriority_priority :
    (remediationPriority cvss exploitability assetCriticality threatActivity).priority =
      toParts 100 (weighted cvss exploitability assetCriticality threatActivity) := by
  rw [← clamp_weighted]
  rfl

theorem remediationPriority_banding :
    ((remediationPriority cvss exploitability assetCriticality threatActivity).band,
      (remediationPriority cvss exploitability assetCriticality threatActivity).slaDays) =
        banding (weighted cvss exploitability assetCriticality threatActivity) := by
  rw [← clamp_weighted]
  rfl

/-- Two scores get the same band and the same days if no threshold is between them. -/
theorem banding_eq_iff : banding x = banding y ↔ ∀ θ ∈ thresholds, θ ≤ x ↔ θ ≤ y := by
  simp only [thresholds, List.forall_mem_cons, List.not_mem_nil, false_implies, implies_true, and_true]
  unfold banding
  split_ifs <;> simp <;> grind

/-- A threshold is an even number of hundredths. -/
theorem exists_of_mem_thresholds (h : θ ∈ thresholds) :
    ∃ k : Int, k % 2 = 0 ∧ θ = (k : Rat) / (100 : Nat) := by
  simp only [thresholds, List.mem_cons, List.not_mem_nil, or_false] at h
  obtain rfl | rfl | rfl := h
  · exact ⟨8000, rfl, by norm_num⟩
  · exact ⟨5000, rfl, by norm_num⟩
  · exact ⟨2500, rfl, by norm_num⟩

theorem le_toParts_iff_of_threshold (h : θ ∈ thresholds) : θ ≤ toParts 100 w ↔ θ - 1 / 200 ≤ w := by
  obtain ⟨k, hk, rfl⟩ := exists_of_mem_thresholds h
  rw [le_toParts_iff_of_even (by norm_num) hk]
  norm_num

theorem toParts_le_iff_of_threshold (h : θ ∈ thresholds) : toParts 100 w ≤ θ ↔ w ≤ θ + 1 / 200 := by
  obtain ⟨k, hk, rfl⟩ := exists_of_mem_thresholds h
  rw [toParts_le_iff_of_even (by norm_num) hk]
  norm_num

/-- What is below a threshold, but is rounded to it. -/
def JustBelow (w : Rat) : Prop :=
  ∃ θ ∈ thresholds, θ - 1 / 200 ≤ w ∧ w < θ

theorem banding_toParts_iff : banding w = banding (toParts 100 w) ↔ ¬ JustBelow w := by
  rw [banding_eq_iff, JustBelow]
  push Not
  refine forall₂_congr fun θ hθ => ?_
  rw [le_toParts_iff_of_threshold hθ]
  constructor
  · intro h hrounded
    exact h.mpr hrounded
  · intro h
    exact ⟨fun hle => by linarith, h⟩

theorem weighted_mono {cvss' exploitability' assetCriticality' threatActivity' : Rat}
    (hcvss : cvss ≤ cvss') (hexploit : exploitability ≤ exploitability')
    (hcriticality : assetCriticality ≤ assetCriticality') (hthreat : threatActivity ≤ threatActivity') :
    weighted cvss exploitability assetCriticality threatActivity ≤
      weighted cvss' exploitability' assetCriticality' threatActivity' := by
  have hcvss := clamp_mono (mul_le_mul_of_nonneg_right hcvss (by norm_num : (0 : Rat) ≤ 10))
  have hexploit := clamp_mono hexploit
  have hcriticality := clamp_mono hcriticality
  have hthreat := clamp_mono hthreat
  unfold weighted
  linarith

end

/-! ### The list -/

def Band.rank : Band → Nat
  | .low => 0
  | .medium => 1
  | .high => 2
  | .critical => 3

theorem Band.rank_injective {a b : Band} (h : a.rank = b.rank) : a = b := by
  cases a <;> cases b <;> first | rfl | cases h

/-- One band is lower than another if a threshold is between the scores. -/
theorem rank_lt_iff {x y : Rat} :
    (banding x).1.rank < (banding y).1.rank ↔ ∃ θ ∈ thresholds, x < θ ∧ θ ≤ y := by
  simp only [thresholds, List.exists_mem_cons_iff, List.not_mem_nil, false_and, exists_false, or_false]
  unfold banding
  split_ifs <;> simp [Band.rank] <;> grind

def VulnerabilityFinding.weighted (finding : VulnerabilityFinding) : Rat :=
  Vuln.weighted finding.cvss finding.exploitability finding.assetCriticality finding.threatActivity

@[simp] theorem VulnerabilityFinding.scored_priority (finding : VulnerabilityFinding) :
    finding.scored.priority = toParts 100 finding.weighted :=
  remediationPriority_priority

@[simp] theorem VulnerabilityFinding.scored_band (finding : VulnerabilityFinding) :
    finding.scored.band = (banding finding.weighted).1 :=
  congrArg Prod.fst remediationPriority_banding

/-- No band is shown before a higher one, and one priority is in one band. -/
def Ranked (rows : List Scored) : Prop :=
  (rows.Pairwise fun a b => b.band.rank ≤ a.band.rank) ∧
    ∀ a ∈ rows, ∀ b ∈ rows, a.priority = b.priority → a.band = b.band

/-- One finding is just below a threshold, and the other on it or just above it. -/
def Straddles (a b : VulnerabilityFinding) : Prop :=
  ∃ θ ∈ thresholds,
    θ - 1 / 200 ≤ a.weighted ∧ a.weighted < θ ∧ θ ≤ b.weighted ∧ b.weighted ≤ θ + 1 / 200

theorem straddles_iff {a b : VulnerabilityFinding} : Straddles a b ↔
    a.scored.band.rank < b.scored.band.rank ∧ b.scored.priority ≤ a.scored.priority := by
  simp only [VulnerabilityFinding.scored_band, VulnerabilityFinding.scored_priority, rank_lt_iff]
  constructor
  · rintro ⟨θ, hθ, hreached, hbelow, habove, hnear⟩
    have hb := (toParts_le_iff_of_threshold hθ).mpr hnear
    have ha := (le_toParts_iff_of_threshold hθ).mpr hreached
    exact ⟨⟨θ, hθ, hbelow, habove⟩, hb.trans ha⟩
  · rintro ⟨⟨θ, hθ, hbelow, habove⟩, hle⟩
    -- the threshold is between the scores, so both of them are rounded to it
    have ha : toParts 100 a.weighted ≤ θ := (toParts_le_iff_of_threshold hθ).mpr (by linarith)
    have hb : θ ≤ toParts 100 b.weighted := (le_toParts_iff_of_threshold hθ).mpr (by linarith)
    exact ⟨θ, hθ, (le_toParts_iff_of_threshold hθ).mp (hb.trans hle), hbelow, habove,
      (toParts_le_iff_of_threshold hθ).mp (hle.trans ha)⟩

/-- A finding in a lower band has no higher priority. -/
theorem priority_le_of_rank_lt {a b : VulnerabilityFinding}
    (h : a.scored.band.rank < b.scored.band.rank) : a.scored.priority ≤ b.scored.priority := by
  simp only [VulnerabilityFinding.scored_band, VulnerabilityFinding.scored_priority, rank_lt_iff] at h ⊢
  obtain ⟨θ, -, hbelow, habove⟩ := h
  exact toParts_mono (hbelow.le.trans habove)

/-- `sorted(out, key=lambda item: item["priority"], reverse=True)` -/
def ranking (findings : List VulnerabilityFinding) : List Scored :=
  (findings.map (·.scored)).insertionSort fun a b => b.priority ≤ a.priority

theorem mem_ranking {findings : List VulnerabilityFinding} {row : Scored} :
    row ∈ ranking findings ↔ ∃ finding ∈ findings, finding.scored = row := by
  rw [ranking, List.mem_insertionSort, List.mem_map]

theorem pairwise_ranking (findings : List VulnerabilityFinding) :
    (ranking findings).Pairwise fun a b => b.priority ≤ a.priority := by
  have htotal : Std.Total fun a b : Scored => b.priority ≤ a.priority :=
    ⟨fun a b => le_total b.priority a.priority⟩
  have htrans : IsTrans Scored fun a b => b.priority ≤ a.priority :=
    ⟨fun _ _ _ hab hbc => hbc.trans hab⟩
  exact List.pairwise_insertionSort _ _

theorem ranked_iff {findings : List VulnerabilityFinding} :
    Ranked (ranking findings) ↔ ∀ a ∈ findings, ∀ b ∈ findings, ¬ Straddles a b := by
  constructor
  · rintro ⟨-, hbands⟩ a ha b hb hstraddles
    obtain ⟨hrank, hle⟩ := straddles_iff.mp hstraddles
    have heq := hle.antisymm (priority_le_of_rank_lt hrank)
    have hband := hbands _ (mem_ranking.mpr ⟨a, ha, rfl⟩) _ (mem_ranking.mpr ⟨b, hb, rfl⟩) heq.symm
    exact absurd (congrArg Band.rank hband) hrank.ne
  · intro h
    have hrank {a b : Scored} (ha : a ∈ ranking findings) (hb : b ∈ ranking findings)
        (hle : b.priority ≤ a.priority) : b.band.rank ≤ a.band.rank := by
      obtain ⟨finding, hfinding, rfl⟩ := mem_ranking.mp ha
      obtain ⟨finding', hfinding', rfl⟩ := mem_ranking.mp hb
      by_contra hlt
      exact h finding hfinding finding' hfinding' (straddles_iff.mpr ⟨not_le.mp hlt, hle⟩)
    refine ⟨(pairwise_ranking findings).imp_of_mem fun ha hb hle => hrank ha hb hle, ?_⟩
    intro a ha b hb heq
    exact Band.rank_injective ((hrank hb ha heq.le).antisymm (hrank ha hb heq.ge))

section

variable {rt : Runtime} {parse : String → Except Exn Rat}

theorem mapM_scored (rows : List JsonObject) :
    (rows.mapM fun row => (·.scored) <$> readFinding rt parse row) =
      List.map (·.scored) <$> rows.mapM (readFinding rt parse) := by
  induction rows with
  | nil => rfl
  | cons row rest ih =>
    rw [List.mapM_cons, List.mapM_cons, ih]
    simp only [map_eq_pure_bind, bind_assoc, pure_bind, List.map_cons]

/-- Rows that can be read are all scored, and listed by priority. -/
theorem importScannerFindings_eq (rows : List JsonObject) :
    importScannerFindings rt parse rows = ranking <$> rows.mapM (readFinding rt parse) := by
  unfold importScannerFindings
  rw [mapM_scored, bind_map_left, map_eq_pure_bind]
  rfl

end

/-- Bands and days are those of the reported priority unless the weighted inputs are just below a
threshold; the priority follows each input; and the list is ranked unless two of its findings
straddle a threshold. -/
theorem remediation_consistent_iff (rt : Runtime) (parse : String → Except Exn Rat) :
    (∀ cvss exploitability assetCriticality threatActivity : Rat,
      ((remediationPriority cvss exploitability assetCriticality threatActivity).band,
        (remediationPriority cvss exploitability assetCriticality threatActivity).slaDays) =
          banding
            (remediationPriority cvss exploitability assetCriticality threatActivity).priority ↔
        ¬ JustBelow (weighted cvss exploitability assetCriticality threatActivity)) ∧
      (∀ cvss exploitability assetCriticality threatActivity
          cvss' exploitability' assetCriticality' threatActivity' : Rat,
        cvss ≤ cvss' → exploitability ≤ exploitability' → assetCriticality ≤ assetCriticality' →
        threatActivity ≤ threatActivity' →
        (remediationPriority cvss exploitability assetCriticality threatActivity).priority ≤
          (remediationPriority cvss' exploitability' assetCriticality' threatActivity').priority) ∧
      ∀ (rows : List JsonObject) (findings : List VulnerabilityFinding),
        rows.mapM (readFinding rt parse) = .ok findings →
        ∃ out, importScannerFindings rt parse rows = .ok out ∧
          (Ranked out ↔ ∀ a ∈ findings, ∀ b ∈ findings, ¬ Straddles a b) := by
  refine ⟨?_, ?_, ?_⟩
  · intro cvss exploitability assetCriticality threatActivity
    rw [remediationPriority_banding, remediationPriority_priority]
    exact banding_toParts_iff
  · intro cvss exploitability assetCriticality threatActivity
      cvss' exploitability' assetCriticality' threatActivity' hcvss hexploit hcriticality hthreat
    rw [remediationPriority_priority, remediationPriority_priority]
    exact toParts_mono (weighted_mono hcvss hexploit hcriticality hthreat)
  · intro rows findings h
    refine ⟨ranking findings, ?_, ranked_iff⟩
    rw [importScannerFindings_eq, h]
    rfl

/-- Two rows of a scanner that differ in the criticality of the asset, 74.98 and 75. -/
def sampleRows : List JsonObject :=
  [[("cve", .str "CVE-2024-3094"), ("cvss", .int 10), ("epss", .int 100), ("criticality", .str "74.98")],
    [("cve", .str "CVE-2021-44228"), ("cvss", .int 10), ("epss", .int 100), ("criticality", .int 75)]]

def sampleParse (text : String) : Except Exn Rat :=
  if text = "74.98" then .ok (3749 / 50) else .error (.valueError text)

theorem remediation_consistent_iff_sample :
    ∃ findings, sampleRows.mapM (readFinding sampleRuntime sampleParse) = .ok findings ∧
      ∃ out, importScannerFindings sampleRuntime sampleParse sampleRows = .ok out ∧
        (Ranked out ↔ ∀ a ∈ findings, ∀ b ∈ findings, ¬ Straddles a b) :=
  ⟨_, rfl, (remediation_consistent_iff sampleRuntime sampleParse).2.2 sampleRows _ rfl⟩

/-- A score of 79.996 is shown as 80 with the band and the days below 80; next to a row that is there
with 80 itself, the lower band comes first. -/
theorem sampleRows_inconsistent :
    (remediationPriority 10 100 (3749 / 50) 0).priority = 80 ∧
      (remediationPriority 10 100 (3749 / 50) 0).band = .high ∧
      (remediationPriority 10 100 (3749 / 50) 0).slaDays = 14 ∧
      banding 80 = (.critical, 7) ∧
      (importScannerFindings sampleRuntime sampleParse sampleRows).map
          (·.map fun row => (row.priority, row.band)) =
        .ok [(80, .high), (80, .critical)] := by
  decide +kernel

end BlueTeam.Vuln
