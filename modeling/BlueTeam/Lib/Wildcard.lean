/- GID: BlueTeam/Lib/Wildcard
   generality: G
   source: none
   digest: Patterns with wildcards as languages: prefixes, suffixes, infixes, looser patterns. -/

import Mathlib.Computability.Language
import Mathlib.Data.List.Forall2
import Mathlib.Data.List.Infix
import Mathlib.Order.CompletePartialOrder

set_option autoImplicit false
set_option relaxedAutoImplicit false

namespace BlueTeam.Lib

universe u

/-- A pattern over letters; `none` stands for any sequence of letters. -/
abbrev Wildcard (α : Type u) := List (Option α)

namespace Wildcard

variable {α : Type u}

def part : Option α → Language α
  | some a => {[a]}
  | none => ⊤

/-- The words that a pattern stands for. -/
def language (p : Wildcard α) : Language α :=
  (p.map part).prod

theorem mem_cons {x : Option α} {p : Wildcard α} {s : List α} :
    s ∈ language (x :: p) ↔ ∃ u ∈ part x, ∃ v ∈ language p, u ++ v = s := by
  unfold language
  rw [List.map_cons, List.prod_cons, Language.mem_mul]

theorem mem_append {p q : Wildcard α} {s : List α} :
    s ∈ language (p ++ q) ↔ ∃ u ∈ language p, ∃ v ∈ language q, u ++ v = s := by
  unfold language
  rw [List.map_append, List.prod_append, Language.mem_mul]

theorem mem_nil {s : List α} : s ∈ language ([] : Wildcard α) ↔ s = [] :=
  Language.mem_one s

theorem mem_cons_none {p : Wildcard α} {s : List α} :
    s ∈ language (none :: p) ↔ ∃ v ∈ language p, v <:+ s := by
  rw [mem_cons]
  constructor
  · rintro ⟨u, -, v, hv, rfl⟩
    exact ⟨v, hv, List.suffix_append u v⟩
  · rintro ⟨v, hv, u, rfl⟩
    exact ⟨u, trivial, v, hv, rfl⟩

/-- A pattern without wildcards stands for itself. -/
theorem mem_literal {w s : List α} : s ∈ language (w.map some) ↔ s = w := by
  induction w generalizing s with
  | nil => exact mem_nil
  | cons a w ih =>
    rw [List.map_cons, mem_cons]
    constructor
    · rintro ⟨u, hu, v, hv, rfl⟩
      obtain rfl : u = [a] := hu
      rw [ih.mp hv]
      rfl
    · rintro rfl
      exact ⟨[a], rfl, w, ih.mpr rfl, rfl⟩

theorem mem_concat_none {w s : List α} : s ∈ language (w.map some ++ [none]) ↔ w <+: s := by
  rw [mem_append]
  constructor
  · rintro ⟨u, hu, v, -, rfl⟩
    rw [mem_literal.mp hu]
    exact List.prefix_append w v
  · rintro ⟨v, rfl⟩
    exact ⟨w, mem_literal.mpr rfl, v, mem_cons_none.mpr ⟨[], mem_nil.mpr rfl, List.nil_suffix⟩, rfl⟩

theorem mem_none_literal {w s : List α} : s ∈ language (none :: w.map some) ↔ w <:+ s := by
  rw [mem_cons_none]
  constructor
  · rintro ⟨v, hv, hsuffix⟩
    rwa [← mem_literal.mp hv]
  · exact fun hsuffix => ⟨w, mem_literal.mpr rfl, hsuffix⟩

theorem mem_none_literal_none {w s : List α} :
    s ∈ language (none :: (w.map some ++ [none])) ↔ w <:+: s := by
  rw [mem_cons_none, List.infix_iff_prefix_suffix]
  constructor
  · rintro ⟨v, hv, hsuffix⟩
    exact ⟨v, mem_concat_none.mp hv, hsuffix⟩
  · rintro ⟨v, hprefix, hsuffix⟩
    exact ⟨v, mem_concat_none.mpr hprefix, hsuffix⟩

/-- The second pattern is the first one with some letters made wildcards. -/
abbrev Loosens (p q : Wildcard α) : Prop :=
  List.Forall₂ (fun x y => y = x ∨ y = none) p q

theorem language_of_loosens {p q : Wildcard α} (h : Loosens p q) : language p ≤ language q := by
  induction h with
  | nil => exact le_rfl
  | @cons x y p q hxy _ ih =>
    intro s hs
    obtain ⟨u, hu, v, hv, rfl⟩ := mem_cons.mp hs
    refine mem_cons.mpr ⟨u, ?_, v, ih hv, rfl⟩
    rcases hxy with rfl | rfl
    · exact hu
    · trivial

end Wildcard

end BlueTeam.Lib
