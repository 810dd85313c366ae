/- GID: BlueTeam/Lib/Chronicle
   generality: G
   digest: Append-only histories: how they start, how they go on, and their latest entries. -/

import Mathlib.Data.List.Chain
import Mathlib.Data.List.Sort

set_option autoImplicit false
set_option relaxedAutoImplicit false

namespace BlueTeam.Lib.Chronicle

variable {α : Type*} {start : α → Prop} {step : α → α → Prop}

/-- A history that starts at a start entry and goes from entry to entry by steps. -/
structure Path (start : α → Prop) (step : α → α → Prop) (entries : List α) : Prop where
  starts : ∃ first, entries.head? = some first ∧ start first
  steps : entries.IsChain step

theorem Path.first {a : α} (ha : start a) : Path start step [a] where
  starts := ⟨a, rfl, ha⟩
  steps := List.isChain_singleton a

theorem Path.ne_nil {entries : List α} (h : Path start step entries) : entries ≠ [] := by
  obtain ⟨first, hfirst, -⟩ := h.starts
  rintro rfl
  cases hfirst

/-- A step from the latest entry continues the history. -/
theorem Path.concat {entries : List α} {a b : α} (h : Path start step entries)
    (hlast : entries.getLast? = some a) (hstep : step a b) :
    Path start step (entries ++ [b]) := by
  obtain ⟨first, hfirst, hstart⟩ := h.starts
  constructor
  · refine ⟨first, ?_, hstart⟩
    rw [List.head?_append_of_ne_nil _ h.ne_nil]
    exact hfirst
  · apply h.steps.append (List.isChain_singleton b)
    intro x hx y hy
    obtain rfl : a = x := by
      rw [hlast] at hx
      exact Option.some.inj hx
    obtain rfl : b = y := Option.some.inj hy
    exact hstep

/-- What holds at the start and is handed on by every step holds of all entries. -/
theorem Path.all {entries : List α} (h : Path start step entries) (good : α → Prop)
    (hstart : ∀ a, start a → good a) (hstep : ∀ a b, step a b → good a → good b) :
    ∀ a ∈ entries, good a := by
  obtain ⟨first, hfirst, hs⟩ := h.starts
  have hgood : good first := hstart first hs
  have hsteps := h.steps
  clear h hs
  induction entries generalizing first with
  | nil => cases hfirst
  | cons a rest ih =>
      obtain rfl : a = first := Option.some.inj hfirst
      intro b hb
      rcases List.mem_cons.mp hb with rfl | hb
      · exact hgood
      · cases rest with
        | nil => cases hb
        | cons c rest =>
            obtain ⟨hac, htail⟩ := List.isChain_cons_cons.mp hsteps
            exact ih c rfl (hstep a c hac hgood) htail b hb

/-- Sorting entries by falling time turns a history with rising times around. -/
theorem insertionSort_eq_reverse (time : α → Int) {entries : List α}
    (h : entries.Pairwise fun a b => time a < time b) :
    entries.insertionSort (fun a b => time b ≤ time a) = entries.reverse := by
  have hrev : entries.reverse.Pairwise fun a b => time b ≤ time a := by
    rw [List.pairwise_reverse]
    exact h.imp fun hab => le_of_lt hab
  have hinj : ∀ a ∈ entries, ∀ b ∈ entries, time a = time b → a = b := by
    clear hrev
    induction h with
    | nil => simp
    | @cons x rest hx _ ih =>
        intro a ha b hb hab
        rcases List.mem_cons.mp ha with rfl | ha' <;> rcases List.mem_cons.mp hb with rfl | hb'
        · rfl
        · have := hx b hb'
          omega
        · have := hx a ha'
          omega
        · exact ih a ha' b hb' hab
  have hsorted : (entries.insertionSort fun a b => time b ≤ time a).Pairwise
      fun a b => time b ≤ time a := by
    have : Std.Total fun a b : α => time b ≤ time a := ⟨fun a b => le_total (time b) (time a)⟩
    have : IsTrans α fun a b => time b ≤ time a := ⟨fun _ _ _ hab hbc => le_trans hbc hab⟩
    exact List.pairwise_insertionSort _ entries
  have hperm : (entries.insertionSort fun a b => time b ≤ time a).Perm entries.reverse :=
    (List.perm_insertionSort _ entries).trans (List.reverse_perm entries).symm
  apply hperm.eq_of_pairwise ?_ hsorted hrev
  intro a b ha hb hab hba
  have ha' : a ∈ entries := (List.perm_insertionSort _ entries).mem_iff.mp ha
  have hb' : b ∈ entries := List.mem_reverse.mp hb
  exact hinj a ha' b hb' (le_antisymm hba hab)

/-- The latest entry with a property. -/
def latest (p : α → Bool) (entries : List α) : Option α :=
  entries.reverse.find? p

@[simp] theorem latest_nil (p : α → Bool) : latest p [] = none := rfl

theorem latest_concat (p : α → Bool) (entries : List α) (a : α) :
    latest p (entries ++ [a]) = if p a then some a else latest p entries := by
  show List.find? p (entries ++ [a]).reverse = _
  rw [List.reverse_append, List.reverse_singleton, List.singleton_append, List.find?_cons]
  cases p a <;> rfl

/-! ### Sorting by a key that stands for the time -/

section

variable {κ : Type*} [LinearOrder κ] (key : α → κ) (time : α → Int) {entries : List α}

theorem pairwise_insertionSort_key (entries : List α) :
    (entries.insertionSort fun a b => key a ≤ key b).Pairwise fun a b => key a ≤ key b := by
  have htotal : Std.Total fun a b : α => key a ≤ key b := ⟨fun a b => le_total (key a) (key b)⟩
  have htrans : IsTrans α fun a b => key a ≤ key b := ⟨fun _ _ _ hab hbc => hab.trans hbc⟩
  exact List.pairwise_insertionSort _ _

/-- Entries sorted by the key are in the order of time if and only if a smaller key never has the
later time; entries with one key are taken to have one time. -/
theorem pairwise_time_iff (hsorted : entries.Pairwise fun a b => key a ≤ key b)
    (hkey : ∀ a ∈ entries, ∀ b ∈ entries, key a = key b → time a = time b) :
    (entries.Pairwise fun a b => time a ≤ time b) ↔
      ∀ a ∈ entries, ∀ b ∈ entries, key a < key b → time a ≤ time b := by
  constructor
  · intro htime a ha b hb hlt
    have hboth := (hsorted.and htime).imp (S := fun a b =>
      key a ≤ key b ∧ time a ≤ time b ∨ key b ≤ key a ∧ time b ≤ time a) fun h => .inl h
    have hsymm : Std.Symm fun a b =>
        key a ≤ key b ∧ time a ≤ time b ∨ key b ≤ key a ∧ time b ≤ time a :=
      ⟨fun _ _ h => h.symm⟩
    have hne : a ≠ b := fun heq => hlt.ne (congrArg key heq)
    obtain ⟨-, hle⟩ | ⟨hge, -⟩ := hboth.forall ha hb hne
    · exact hle
    · exact absurd hlt hge.not_gt
  · intro h
    refine hsorted.imp_of_mem fun {a b} ha hb hle => ?_
    obtain hlt | heq := hle.lt_or_eq
    · exact h a ha b hb hlt
    · exact (hkey a ha b hb heq).le

end

end BlueTeam.Lib.Chronicle
