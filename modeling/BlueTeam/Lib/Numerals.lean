/- GID: BlueTeam/Lib/Numerals
   generality: G
   source: none
   digest: Decimal numerals of a fixed width are ordered like their numbers. -/

import Mathlib.Algebra.Group.Nat.Defs
import Mathlib.Data.List.Basic

set_option autoImplicit false
set_option relaxedAutoImplicit false

namespace BlueTeam.Lib.Numerals

section

variable {α : Type} [LT α] {u v s t : List α}

/-- Texts of one length that are in order stay in order whatever follows them. -/
theorem append_lt_append (hlength : u.length = v.length) (h : u < v) : u ++ s < v ++ t := by
  induction u generalizing v with
  | nil =>
    obtain rfl := List.length_eq_zero_iff.mp hlength.symm
    exact absurd h (List.not_lt_nil _)
  | cons a u ih =>
    cases v with
    | nil => cases hlength
    | cons b v =>
      obtain hab | ⟨rfl, htail⟩ := List.cons_lt_cons_iff.mp h
      · exact List.cons_lt_cons_iff.mpr (.inl hab)
      · exact List.cons_lt_cons_iff.mpr (.inr ⟨rfl, ih (Nat.succ.inj hlength) htail⟩)

end

/-- The last `w` decimal digits of a number. -/
def fixed : Nat → Nat → List Char
  | 0, _ => []
  | w + 1, n => fixed w (n / 10) ++ [Nat.digitChar (n % 10)]

variable {w n m : Nat}

@[simp] theorem length_fixed (w n : Nat) : (fixed w n).length = w := by
  induction w generalizing n with
  | zero => rfl
  | succ w ih => rw [fixed, List.length_append, ih, List.length_singleton]

theorem digitChar_lt_digitChar : ∀ m < 10, ∀ n < m, Nat.digitChar n < Nat.digitChar m := by
  decide

theorem fixed_lt_fixed (h : n < m) (hm : m < 10 ^ w) : fixed w n < fixed w m := by
  induction w generalizing n m with
  | zero => omega
  | succ w ih =>
    rw [Nat.pow_succ] at hm
    obtain hlt | ⟨heq, hlast⟩ : n / 10 < m / 10 ∨ n / 10 = m / 10 ∧ n % 10 < m % 10 := by omega
    · exact append_lt_append (by simp) (ih hlt (by omega))
    · rw [fixed, fixed, heq]
      have hdigit := digitChar_lt_digitChar (m % 10) (Nat.mod_lt m (by decide)) (n % 10) hlast
      exact List.append_left_lt (List.cons_lt_cons_iff.mpr (.inl hdigit))

theorem fixed_zero (w : Nat) : fixed w 0 = List.replicate w '0' := by
  induction w with
  | zero => rfl
  | succ w ih =>
    rw [fixed, Nat.zero_div, ih, List.replicate_succ']
    rfl

/-- A numeral with zeros in front of it, up to the width. -/
theorem replicate_append_toDigits (hw : 0 < w) (hn : n < 10 ^ w) :
    List.replicate (w - (Nat.toDigits 10 n).length) '0' ++ Nat.toDigits 10 n = fixed w n := by
  induction w generalizing n with
  | zero => exact absurd hw (Nat.lt_irrefl 0)
  | succ w ih =>
    by_cases hsmall : n < 10
    · rw [Nat.toDigits_of_lt_base hsmall, fixed, Nat.div_eq_of_lt hsmall, Nat.mod_eq_of_lt hsmall,
        fixed_zero]
      rfl
    · have hbase : 10 ≤ n := Nat.not_lt.mp hsmall
      have hpos : 0 < w := by
        by_contra hzero
        obtain rfl : w = 0 := by omega
        omega
      rw [Nat.pow_succ] at hn
      rw [Nat.toDigits_of_base_le (by decide) hbase, List.length_append, List.length_singleton,
        Nat.add_sub_add_right, ← List.append_assoc, ih hpos (by omega), fixed]

/-- The number can be read off its numeral. -/
theorem ofDigitChars_fixed (hn : n < 10 ^ w) : Nat.ofDigitChars 10 (fixed w n) 0 = n := by
  induction w generalizing n with
  | zero =>
    rw [Nat.pow_zero] at hn
    exact (Nat.lt_one_iff.mp hn).symm
  | succ w ih =>
    rw [Nat.pow_succ] at hn
    rw [fixed, Nat.ofDigitChars_append, ih (by omega),
      Nat.ofDigitChars_cons_digitChar_of_lt_ten (Nat.mod_lt n (by decide)), Nat.ofDigitChars_nil]
    omega

end BlueTeam.Lib.Numerals
