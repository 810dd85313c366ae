/- GID: BlueTeam/Lib/HashChain
   generality: G
   digest: Chains of records in which every record commits to the one before it. -/

import Mathlib.Data.List.Forall2
import Mathlib.Data.List.Induction

set_option autoImplicit false
set_option relaxedAutoImplicit false

namespace BlueTeam.Lib.HashChain

/-- How records are linked: the hash a record names, the hash it carries, and the hash it
should carry after a given one. -/
structure Scheme (ρ κ : Type*) where
  previous : ρ → κ
  record : ρ → κ
  digest : κ → ρ → κ

variable {ρ κ : Type*} (scheme : Scheme ρ κ)

/-- The hash that the next record has to name. -/
def Scheme.tip (start : κ) : List ρ → κ
  | [] => start
  | r :: rest => Scheme.tip (scheme.record r) rest

/-- Every record names the hash before it and carries the digest that it should. -/
def Scheme.Linked (start : κ) : List ρ → Prop
  | [] => True
  | r :: rest => scheme.previous r = start ∧ scheme.record r = scheme.digest start r ∧
      Scheme.Linked (scheme.record r) rest

variable {scheme} {start : κ}

theorem tip_append (l m : List ρ) :
    scheme.tip start (l ++ m) = scheme.tip (scheme.tip start l) m := by
  induction l generalizing start with
  | nil => rfl
  | cons r l ih => exact ih

theorem linked_append (l m : List ρ) :
    scheme.Linked start (l ++ m) ↔
      scheme.Linked start l ∧ scheme.Linked (scheme.tip start l) m := by
  induction l generalizing start with
  | nil => simp [Scheme.Linked, Scheme.tip]
  | cons r l ih => simp [Scheme.Linked, Scheme.tip, ih, and_assoc]

theorem linked_concat (l : List ρ) (r : ρ) :
    scheme.Linked start (l ++ [r]) ↔ scheme.Linked start l ∧
      scheme.previous r = scheme.tip start l ∧
        scheme.record r = scheme.digest (scheme.tip start l) r := by
  simp [linked_append, Scheme.Linked]

@[simp] theorem tip_concat (l : List ρ) (r : ρ) :
    scheme.tip start (l ++ [r]) = scheme.record r := by
  simp [tip_append, Scheme.tip]

theorem tip_eq_getLast? (l : List ρ) :
    scheme.tip start l = (l.getLast?.map scheme.record).getD start := by
  induction l using List.reverseRecOn with
  | nil => rfl
  | append_singleton l r _ => simp

/-- The digests of two chains tell their links apart: equal digests come from the same
previous hash and from records that agree. -/
def Scheme.Binding (scheme : Scheme ρ κ) (agree : ρ → ρ → Prop) (l m : List ρ) : Prop :=
  ∀ r ∈ l, ∀ s ∈ m, scheme.digest (scheme.previous r) r = scheme.digest (scheme.previous s) s →
    scheme.previous r = scheme.previous s ∧ agree r s

/-- Two chains from one start with the same tip agree link by link, provided no record
carries the hash of the start. -/
theorem Scheme.Linked.forall₂_of_tip_eq {agree : ρ → ρ → Prop} {l m : List ρ}
    (binding : scheme.Binding agree l m) (fresh : ∀ r ∈ l ++ m, scheme.record r ≠ start)
    (hl : scheme.Linked start l) (hm : scheme.Linked start m)
    (tips : scheme.tip start l = scheme.tip start m) : List.Forall₂ agree l m := by
  induction l using List.reverseRecOn generalizing m with
  | nil =>
      induction m using List.reverseRecOn with
      | nil => exact .nil
      | append_singleton m s _ =>
          rw [tip_concat] at tips
          exact absurd tips.symm (fresh s (by simp))
  | append_singleton l r ih =>
      induction m using List.reverseRecOn with
      | nil =>
          rw [tip_concat] at tips
          exact absurd tips (fresh r (by simp))
      | append_singleton m s _ =>
          obtain ⟨hl, hprev, hrecord⟩ := (linked_concat l r).mp hl
          obtain ⟨hm, hprev', hrecord'⟩ := (linked_concat m s).mp hm
          rw [tip_concat, tip_concat, hrecord, hrecord', ← hprev, ← hprev'] at tips
          obtain ⟨same, agrees⟩ := binding r (by simp) s (by simp) tips
          have prefixTips : scheme.tip start l = scheme.tip start m := by
            rw [← hprev, ← hprev', same]
          have rest : List.Forall₂ agree l m := by
            apply ih ?_ ?_ hl hm prefixTips
            · intro r' hr' s' hs'
              exact binding r' (by simp [hr']) s' (by simp [hs'])
            · intro r' hr'
              refine fresh r' ?_
              simp only [List.mem_append] at hr' ⊢
              tauto
          exact List.rel_append rest (.cons agrees .nil)

end BlueTeam.Lib.HashChain
