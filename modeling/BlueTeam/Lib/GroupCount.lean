/- GID: BlueTeam/Lib/GroupCount
   generality: G
   digest: Rows counted in groups, as SQL counts them: NULL is a key of its own, but no value. -/

import Mathlib.Data.List.Dedup
import Mathlib.Data.List.Perm.Subperm

set_option autoImplicit false
set_option relaxedAutoImplicit false

namespace BlueTeam.Lib

/-- A row of the result: the key of a group, and how many distinct values and rows it has. -/
structure GroupCount (κ : Type) where
  key : κ
  distinct : Nat
  total : Nat
  deriving DecidableEq, Repr

section

variable {ρ σ κ ν : Type} [DecidableEq κ] [DecidableEq ν]

/-- `COUNT(DISTINCT column)`; a NULL does not count. -/
def countDistinct (column : ρ → Option ν) (rows : List ρ) : Nat :=
  (rows.filterMap column).dedup.length

/-- The rows of one group. -/
def grouped (keep : ρ → Bool) (key : ρ → κ) (k : κ) (rows : List ρ) : List ρ :=
  rows.filter fun r => keep r && key r = k

/-- `SELECT key, COUNT(DISTINCT column), COUNT(*) WHERE keep GROUP BY key
HAVING COUNT(DISTINCT column) >= least` -/
def groupCounts (keep : ρ → Bool) (key : ρ → κ) (column : ρ → Option ν) (least : Nat)
    (rows : List ρ) : List (GroupCount κ) :=
  (((rows.filter keep).map key).dedup.map fun k =>
    { key := k
      distinct := countDistinct column (grouped keep key k rows)
      total := (grouped keep key k rows).length : GroupCount κ }).filter fun c => least ≤ c.distinct

variable {keep : ρ → Bool} {key : ρ → κ} {column : ρ → Option ν} {least : Nat} {rows rows' : List ρ}

theorem mem_grouped {k : κ} {r : ρ} :
    r ∈ grouped keep key k rows ↔ r ∈ rows ∧ keep r = true ∧ key r = k := by
  simp [grouped]

theorem mem_groupCounts {c : GroupCount κ} :
    c ∈ groupCounts keep key column least rows ↔
      grouped keep key c.key rows ≠ [] ∧
        c.distinct = countDistinct column (grouped keep key c.key rows) ∧
        c.total = (grouped keep key c.key rows).length ∧ least ≤ c.distinct := by
  have hkey : ∀ k, k ∈ ((rows.filter keep).map key).dedup ↔ grouped keep key k rows ≠ [] := by
    intro k
    rw [List.mem_dedup, List.mem_map]
    constructor
    · rintro ⟨r, hr, rfl⟩
      obtain ⟨hmem, hkeep⟩ := List.mem_filter.mp hr
      exact List.ne_nil_of_mem (mem_grouped.mpr ⟨hmem, hkeep, rfl⟩)
    · intro hne
      obtain ⟨r, hr⟩ := List.exists_mem_of_ne_nil _ hne
      obtain ⟨hmem, hkeep, hk⟩ := mem_grouped.mp hr
      exact ⟨r, List.mem_filter.mpr ⟨hmem, hkeep⟩, hk⟩
  rw [groupCounts, List.mem_filter, List.mem_map, decide_eq_true_eq]
  constructor
  · rintro ⟨⟨k, hk, rfl⟩, hleast⟩
    exact ⟨(hkey k).mp hk, rfl, rfl, hleast⟩
  · rintro ⟨hne, hdistinct, htotal, hleast⟩
    refine ⟨⟨c.key, (hkey c.key).mpr hne, ?_⟩, hleast⟩
    rw [← hdistinct, ← htotal]

theorem groupCounts_map (f : σ → ρ) (items : List σ) :
    groupCounts keep key column least (items.map f) =
      groupCounts (fun a => keep (f a)) (fun a => key (f a)) (fun a => column (f a)) least items := by
  simp only [groupCounts, grouped, countDistinct, List.filter_map, List.map_map, List.filterMap_map,
    List.length_map]
  rfl

theorem groupCounts_congr {keep' : ρ → Bool} (h : ∀ r ∈ rows, keep r = keep' r) :
    groupCounts keep key column least rows = groupCounts keep' key column least rows := by
  have hfilter : rows.filter keep = rows.filter keep' := List.filter_congr h
  have hgrouped : ∀ k, grouped keep key k rows = grouped keep' key k rows := by
    intro k
    exact List.filter_congr fun r hr => by rw [h r hr]
  simp only [groupCounts, hfilter, hgrouped]

/-! ### Distinct values -/

theorem dedup_subset {as bs : List ν} (h : as ⊆ bs) : as.dedup ⊆ bs.dedup :=
  fun _ ha => List.mem_dedup.mpr (h (List.mem_dedup.mp ha))

theorem length_dedup_mono {as bs : List ν} (h : as ⊆ bs) : as.dedup.length ≤ bs.dedup.length :=
  ((List.nodup_dedup as).subperm (dedup_subset h)).length_le

theorem length_dedup_eq_iff {as bs : List ν} (h : as ⊆ bs) :
    as.dedup.length = bs.dedup.length ↔ bs ⊆ as := by
  constructor
  · intro hlength
    have hperm := ((List.nodup_dedup as).subperm (dedup_subset h)).perm_of_length_le
      (Nat.le_of_eq hlength.symm)
    intro b hb
    exact List.mem_dedup.mp (hperm.mem_iff.mpr (List.mem_dedup.mpr hb))
  · intro h'
    exact Nat.le_antisymm (length_dedup_mono h) (length_dedup_mono h')

theorem countDistinct_mono (h : rows ⊆ rows') :
    countDistinct column rows ≤ countDistinct column rows' :=
  length_dedup_mono (List.filterMap_subset column h)

/-- The column with a value in the place of NULL. -/
def defaulted (z : ν) (column : ρ → Option ν) (r : ρ) : Option ν :=
  some ((column r).getD z)

omit [DecidableEq ν] in
theorem filterMap_subset_defaulted (z : ν) (column : ρ → Option ν) (rows : List ρ) :
    rows.filterMap column ⊆ rows.filterMap (defaulted z column) := by
  intro v hv
  obtain ⟨r, hr, hcolumn⟩ := List.mem_filterMap.mp hv
  refine List.mem_filterMap.mpr ⟨r, hr, ?_⟩
  rw [defaulted, hcolumn]
  rfl

theorem countDistinct_le_defaulted (z : ν) :
    countDistinct column rows ≤ countDistinct (defaulted z column) rows :=
  length_dedup_mono (filterMap_subset_defaulted z column rows)

/-- The value in the place of NULL is one more, unless there is no NULL or the value was there. -/
theorem countDistinct_eq_defaulted_iff (z : ν) :
    countDistinct column rows = countDistinct (defaulted z column) rows ↔
      (∀ r ∈ rows, column r ≠ none) ∨ ∃ r ∈ rows, column r = some z := by
  rw [countDistinct, countDistinct, length_dedup_eq_iff (filterMap_subset_defaulted z column rows)]
  constructor
  · intro h
    by_cases hnull : ∃ r ∈ rows, column r = none
    · obtain ⟨r, hr, hcolumn⟩ := hnull
      have hz : z ∈ rows.filterMap column := h (List.mem_filterMap.mpr ⟨r, hr, by
        rw [defaulted, hcolumn]
        rfl⟩)
      exact .inr (List.mem_filterMap.mp hz)
    · exact .inl fun r hr hcolumn => hnull ⟨r, hr, hcolumn⟩
  · intro h v hv
    obtain ⟨r, hr, hdefault⟩ := List.mem_filterMap.mp hv
    cases hcolumn : column r with
    | some w =>
        rw [defaulted, hcolumn] at hdefault
        exact List.mem_filterMap.mpr ⟨r, hr, hcolumn.trans hdefault⟩
    | none =>
        rw [defaulted, hcolumn] at hdefault
        obtain rfl := Option.some.inj hdefault
        rcases h with h | ⟨r', hr', hz⟩
        · exact absurd hcolumn (h r hr)
        · exact List.mem_filterMap.mpr ⟨r', hr', hz⟩

/-! ### Values in the place of NULL -/

/-- The two results are the same set of rows, if a NULL key is read as `d`. -/
def SameCounts (d : κ) (counts : List (GroupCount (Option κ))) (counts' : List (GroupCount κ)) :
    Prop :=
  ∀ c : GroupCount κ,
    (∃ c' ∈ counts, c'.key.getD d = c.key ∧ c'.distinct = c.distinct ∧ c'.total = c.total) ↔
      c ∈ counts'

/-- Whether the two results agree on the rows of one key. -/
def SameAt (d a : κ) (counts : List (GroupCount (Option κ))) (counts' : List (GroupCount κ)) : Prop :=
  ∀ n total, (∃ k, k.getD d = a ∧ ⟨k, n, total⟩ ∈ counts) ↔ ⟨a, n, total⟩ ∈ counts'

omit [DecidableEq κ] in
theorem sameCounts_iff {d : κ} {counts : List (GroupCount (Option κ))}
    {counts' : List (GroupCount κ)} :
    SameCounts d counts counts' ↔ ∀ a, SameAt d a counts counts' := by
  constructor
  · intro h a n total
    rw [← h ⟨a, n, total⟩]
    constructor
    · rintro ⟨k, hk, hmem⟩
      exact ⟨_, hmem, hk, rfl, rfl⟩
    · rintro ⟨⟨k, n', total'⟩, hmem, hk, rfl, rfl⟩
      exact ⟨k, hk, hmem⟩
  · rintro h ⟨a, n, total⟩
    rw [← h a n total]
    constructor
    · rintro ⟨⟨k, n', total'⟩, hmem, hk, rfl, rfl⟩
      exact ⟨k, hk, hmem⟩
    · rintro ⟨k, hk, hmem⟩
      exact ⟨_, hmem, hk, rfl, rfl⟩

section

variable {nullable : ρ → Option κ} {d a : κ} {z : ν}

/-- The group of a key once NULL is read as `d`. -/
def merged (keep : ρ → Bool) (nullable : ρ → Option κ) (d a : κ) (rows : List ρ) : List ρ :=
  grouped keep (fun r => (nullable r).getD d) a rows

theorem grouped_sublist_merged {k : Option κ} (h : k.getD d = a) :
    (grouped keep nullable k rows).Sublist (merged keep nullable d a rows) := by
  refine List.monotone_filter_right rows fun r hr => ?_
  simp only [Bool.and_eq_true, decide_eq_true_eq] at hr ⊢
  exact ⟨hr.1, by rw [hr.2, h]⟩

theorem merged_counted (hne : merged keep nullable d a rows ≠ [])
    (hleast : least ≤ countDistinct (defaulted z column) (merged keep nullable d a rows)) :
    ⟨a, countDistinct (defaulted z column) (merged keep nullable d a rows),
        (merged keep nullable d a rows).length⟩ ∈
      groupCounts keep (fun r => (nullable r).getD d) (defaulted z column) least rows :=
  mem_groupCounts.mpr ⟨hne, rfl, rfl, hleast⟩

/-- A group whose rows have one key: the results agree if the value in the place of NULL does not
count, or the group is too small for both. -/
theorem sameAt_of_one {k : Option κ} (hk : k.getD d = a)
    (hone : ∀ r ∈ merged keep nullable d a rows, nullable r = k) :
    SameAt d a (groupCounts keep nullable column least rows)
        (groupCounts keep (fun r => (nullable r).getD d) (defaulted z column) least rows) ↔
      countDistinct (defaulted z column) (merged keep nullable d a rows) < least ∨
        countDistinct column (merged keep nullable d a rows) =
          countDistinct (defaulted z column) (merged keep nullable d a rows) := by
  have hsame : grouped keep nullable k rows = merged keep nullable d a rows := by
    refine List.filter_congr fun r hr => Bool.eq_iff_iff.mpr ?_
    simp only [Bool.and_eq_true, decide_eq_true_eq]
    constructor
    · rintro ⟨hkeep, hkey⟩
      exact ⟨hkeep, by rw [hkey, hk]⟩
    · rintro ⟨hkeep, hkey⟩
      exact ⟨hkeep, hone r (mem_grouped.mpr ⟨hr, hkeep, hkey⟩)⟩
  have hother : ∀ k', k'.getD d = a → grouped keep nullable k' rows ≠ [] → k' = k := by
    intro k' hk' hne
    obtain ⟨r, hr⟩ := List.exists_mem_of_ne_nil _ hne
    have hrk := hone r ((grouped_sublist_merged hk').subset hr)
    exact (mem_grouped.mp hr).2.2.symm.trans hrk
  have hle : countDistinct column (merged keep nullable d a rows) ≤
      countDistinct (defaulted z column) (merged keep nullable d a rows) :=
    countDistinct_le_defaulted z
  constructor
  · intro h
    by_cases hsmall : countDistinct (defaulted z column) (merged keep nullable d a rows) < least
    · exact .inl hsmall
    · right
      by_cases hnil : merged keep nullable d a rows = []
      · rw [hnil]
        rfl
      · obtain ⟨k', hk', hmem⟩ := (h _ _).mpr (merged_counted hnil (Nat.not_lt.mp hsmall))
        obtain ⟨hne, hdistinct, -, -⟩ := mem_groupCounts.mp hmem
        obtain rfl := hother k' hk' hne
        rw [hsame] at hdistinct
        exact hdistinct.symm
  · intro h n total
    rw [mem_groupCounts]
    constructor
    · rintro ⟨k', hk', hmem⟩
      obtain ⟨hne, hdistinct, htotal, hleast⟩ := mem_groupCounts.mp hmem
      obtain rfl := hother k' hk' hne
      simp only [hsame] at hne hdistinct htotal hleast
      rcases h with h | h
      · omega
      · exact ⟨hne, hdistinct.trans h, htotal, hleast⟩
    · rintro ⟨hne, hdistinct, htotal, hleast⟩
      refine ⟨k, hk, mem_groupCounts.mpr ?_⟩
      simp only [hsame]
      refine ⟨hne, ?_, htotal, hleast⟩
      rcases h with h | h
      · exact absurd hleast (by
          rw [hdistinct]
          exact Nat.not_le.mpr h)
      · exact hdistinct.trans h.symm

/-- Two keys that are read as one: no group of either is as large as both together. -/
theorem sameAt_of_two {r r' : ρ} (hr : r ∈ merged keep nullable d a rows)
    (hr' : r' ∈ merged keep nullable d a rows) (hne : nullable r ≠ nullable r') :
    SameAt d a (groupCounts keep nullable column least rows)
        (groupCounts keep (fun r => (nullable r).getD d) (defaulted z column) least rows) ↔
      countDistinct (defaulted z column) (merged keep nullable d a rows) < least := by
  constructor
  · intro h
    by_contra hlarge
    obtain ⟨k, hk, hmem⟩ := (h _ _).mpr
      (merged_counted (List.ne_nil_of_mem hr) (Nat.not_lt.mp hlarge))
    obtain ⟨-, -, htotal, -⟩ := mem_groupCounts.mp hmem
    have hsub : (grouped keep nullable k rows).Sublist (merged keep nullable d a rows) :=
      grouped_sublist_merged hk
    have hall := hsub.eq_of_length htotal.symm
    have hkey : ∀ x ∈ merged keep nullable d a rows, nullable x = k := by
      intro x hx
      rw [← hall] at hx
      exact (mem_grouped.mp hx).2.2
    exact hne ((hkey r hr).trans (hkey r' hr').symm)
  · intro h n total
    constructor
    · rintro ⟨k, hk, hmem⟩
      obtain ⟨-, hdistinct, -, hleast⟩ := mem_groupCounts.mp hmem
      have hsub : (grouped keep nullable k rows).Sublist (merged keep nullable d a rows) :=
        grouped_sublist_merged hk
      have hmono : countDistinct column (grouped keep nullable k rows) ≤
          countDistinct column (merged keep nullable d a rows) := countDistinct_mono hsub.subset
      have hle : countDistinct column (merged keep nullable d a rows) ≤
          countDistinct (defaulted z column) (merged keep nullable d a rows) :=
        countDistinct_le_defaulted z
      have hn : n = countDistinct column (grouped keep nullable k rows) := hdistinct
      have hleast : least ≤ n := hleast
      omega
    · intro hmem
      obtain ⟨-, hdistinct, -, hleast⟩ := mem_groupCounts.mp hmem
      exact absurd hleast (by
        rw [hdistinct]
        exact Nat.not_le.mpr h)

/-- Reading NULL as a key and as a value changes nothing exactly if, in each group that is large enough
then, all rows have the same key and the value does not count. -/
theorem sameCounts_defaulted_iff :
    SameCounts d (groupCounts keep nullable column least rows)
        (groupCounts keep (fun r => (nullable r).getD d) (defaulted z column) least rows) ↔
      ∀ a, countDistinct (defaulted z column) (merged keep nullable d a rows) < least ∨
        (∀ r ∈ merged keep nullable d a rows, ∀ r' ∈ merged keep nullable d a rows,
          nullable r = nullable r') ∧
        ((∀ r ∈ merged keep nullable d a rows, column r ≠ none) ∨
          ∃ r ∈ merged keep nullable d a rows, column r = some z) := by
  rw [sameCounts_iff]
  refine forall_congr' fun a => ?_
  by_cases hone : ∀ r ∈ merged keep nullable d a rows, ∀ r' ∈ merged keep nullable d a rows,
      nullable r = nullable r'
  · obtain ⟨k, hk, hkeys⟩ : ∃ k : Option κ, k.getD d = a ∧
        ∀ r ∈ merged keep nullable d a rows, nullable r = k := by
      by_cases hnil : merged keep nullable d a rows = []
      · exact ⟨some a, rfl, by simp [hnil]⟩
      · obtain ⟨r, hr⟩ := List.exists_mem_of_ne_nil _ hnil
        exact ⟨nullable r, (mem_grouped.mp hr).2.2, fun r' hr' => hone r' hr' r hr⟩
    rw [sameAt_of_one hk hkeys, countDistinct_eq_defaulted_iff, and_iff_right hone]
  · obtain ⟨r, hr, r', hr', hne⟩ : ∃ r ∈ merged keep nullable d a rows,
        ∃ r' ∈ merged keep nullable d a rows, nullable r ≠ nullable r' := by
      simpa using hone
    rw [sameAt_of_two hr hr' hne, or_iff_left fun h => hone h.1]

end

end

end BlueTeam.Lib
