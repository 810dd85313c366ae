/- GID: BlueTeam/Lib/Rounding
   generality: G
   source: none
   digest: Rounding of rational numbers to the nearest integer, ties to even. -/

import Mathlib.Algebra.Order.Ring.Unbundled.Rat
import Mathlib.Algebra.Ring.Rat
import Mathlib.Tactic.FieldSimp
import Mathlib.Tactic.Linarith

set_option autoImplicit false
set_option relaxedAutoImplicit false

namespace BlueTeam.Lib.Rounding

/-- The nearest integer; of two that are equally near, the even one. -/
def nearest (x : Rat) : Int :=
  let low := x.floor
  let rest := x - low
  if rest < 1 / 2 then low else if 1 / 2 < rest then low + 1
  else if low % 2 = 0 then low else low + 1

theorem floor_le_nearest (x : Rat) : x.floor ≤ nearest x := by
  simp only [nearest]
  split_ifs <;> omega

theorem nearest_le_floor_add_one (x : Rat) : nearest x ≤ x.floor + 1 := by
  simp only [nearest]
  split_ifs <;> omega

@[simp] theorem nearest_intCast (k : Int) : nearest (k : Rat) = k := by
  simp only [nearest, Rat.floor_intCast, sub_self]
  exact if_pos (by norm_num)

/-- What is rounded to an integer or to a larger one begins half a unit below it, and the half itself
goes to the even integer. -/
theorem le_nearest_iff {k : Int} {x : Rat} :
    k ≤ nearest x ↔ (k : Rat) - 1 / 2 < x ∨ (k : Rat) - 1 / 2 = x ∧ k % 2 = 0 := by
  have hle := Rat.floor_le x
  have hlt := Rat.lt_floor_add_one x
  push_cast at hlt
  obtain hk | rfl | hk : k ≤ x.floor ∨ k = x.floor + 1 ∨ x.floor + 2 ≤ k := by omega
  · have hcast : (k : Rat) ≤ x.floor := by exact_mod_cast hk
    exact iff_of_true (hk.trans (floor_le_nearest x)) (.inl (by linarith))
  · -- only here the rest is looked at
    have hcast : ((x.floor + 1 : Int) : Rat) = (x.floor : Rat) + 1 := by push_cast; rfl
    rw [hcast]
    simp only [nearest]
    split_ifs with hlow hhigh heven
    · refine iff_of_false (by omega) ?_
      rintro (h | ⟨h, -⟩) <;> linarith
    · exact iff_of_true le_rfl (.inl (by linarith))
    · refine iff_of_false (by omega) ?_
      rintro (h | ⟨-, h⟩)
      · linarith
      · omega
    · exact iff_of_true le_rfl (.inr ⟨by linarith, by omega⟩)
  · have hcast : (x.floor : Rat) + 2 ≤ k := by exact_mod_cast hk
    have hnearest := nearest_le_floor_add_one x
    refine iff_of_false (by omega) ?_
    rintro (h | ⟨h, -⟩) <;> linarith

theorem nearest_mono {x y : Rat} (h : x ≤ y) : nearest x ≤ nearest y := by
  obtain hx | ⟨hx, heven⟩ := le_nearest_iff.mp (le_refl (nearest x))
  · exact le_nearest_iff.mpr (.inl (hx.trans_le h))
  · obtain hlt | rfl := h.lt_or_eq
    · exact le_nearest_iff.mpr (.inl (hx.trans_lt hlt))
    · exact le_rfl

/-- An even integer is reached from half a unit below it. -/
theorem le_nearest_iff_of_even {k : Int} {x : Rat} (hk : k % 2 = 0) :
    k ≤ nearest x ↔ (k : Rat) - 1 / 2 ≤ x := by
  rw [le_nearest_iff, and_iff_left hk, ← le_iff_lt_or_eq]

/-- An even integer is left half a unit above it. -/
theorem nearest_le_iff_of_even {k : Int} {x : Rat} (hk : k % 2 = 0) :
    nearest x ≤ k ↔ x ≤ (k : Rat) + 1 / 2 := by
  have hodd : (k + 1) % 2 ≠ 0 := by omega
  have hcast : ((k + 1 : Int) : Rat) - 1 / 2 = (k : Rat) + 1 / 2 := by
    push_cast
    linarith
  rw [← not_lt, ← Int.add_one_le_iff, le_nearest_iff, hcast, or_iff_left fun h => hodd h.2, not_lt]

/-! ### Multiples of a part of one -/

/-- The nearest multiple of `1 / n`. -/
def toParts (n : Nat) (q : Rat) : Rat :=
  nearest (q * n) / n

section

variable {n : Nat} {q r : Rat} {k : Int}

theorem toParts_mono (h : q ≤ r) : toParts n q ≤ toParts n r := by
  have hscaled : q * n ≤ r * n := mul_le_mul_of_nonneg_right h (Nat.cast_nonneg n)
  have hnearest : (nearest (q * n) : Rat) ≤ nearest (r * n) := by
    exact_mod_cast nearest_mono hscaled
  exact div_le_div_of_nonneg_right hnearest (Nat.cast_nonneg n)

theorem toParts_div (hn : 0 < n) : toParts n ((k : Rat) / n) = k / n := by
  have hne : (n : Rat) ≠ 0 := by exact_mod_cast hn.ne'
  rw [toParts, div_mul_cancel₀ _ hne, nearest_intCast]

theorem le_toParts_iff_of_even (hn : 0 < n) (hk : k % 2 = 0) :
    (k : Rat) / n ≤ toParts n q ↔ (k : Rat) / n - 1 / (2 * n) ≤ q := by
  have hpos : (0 : Rat) < n := by exact_mod_cast hn
  have hhalf : (k : Rat) / n - 1 / (2 * n) = ((k : Rat) - 1 / 2) / n := by
    field_simp
  rw [toParts, div_le_div_iff_of_pos_right hpos, Int.cast_le, le_nearest_iff_of_even hk, hhalf,
    div_le_iff₀ hpos]

theorem toParts_le_iff_of_even (hn : 0 < n) (hk : k % 2 = 0) :
    toParts n q ≤ (k : Rat) / n ↔ q ≤ (k : Rat) / n + 1 / (2 * n) := by
  have hpos : (0 : Rat) < n := by exact_mod_cast hn
  have hhalf : (k : Rat) / n + 1 / (2 * n) = ((k : Rat) + 1 / 2) / n := by
    field_simp
  rw [toParts, div_le_div_iff_of_pos_right hpos, Int.cast_le, nearest_le_iff_of_even hk, hhalf,
    le_div_iff₀ hpos]

end

end BlueTeam.Lib.Rounding
