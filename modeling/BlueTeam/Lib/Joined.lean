/- GID: BlueTeam/Lib/Joined
   generality: G
   digest: Texts joined by a separator, and when the parts can be read back. -/

import Mathlib.Data.List.Basic

set_option autoImplicit false
set_option relaxedAutoImplicit false

namespace BlueTeam.Lib

section

variable {α : Type} {sep : α} {a b a' b' : List α}

/-- Two pairs are joined to one text if they are the same pair, or a part that ends with the
separator moves from the one side to the other. -/
theorem joined_eq_iff : a ++ sep :: b = a' ++ sep :: b' ↔
    (a = a' ∧ b = b') ∨ (∃ part, a' = a ++ sep :: part ∧ b = part ++ sep :: b') ∨
      ∃ part, a = a' ++ sep :: part ∧ b' = part ++ sep :: b := by
  constructor
  · intro h
    rcases List.append_eq_append_iff.mp h with ⟨mid, rfl, hmid⟩ | ⟨mid, rfl, hmid⟩
    · cases mid with
      | nil => exact .inl ⟨(List.append_nil a).symm, (List.cons.inj hmid).2⟩
      | cons x part =>
          obtain ⟨rfl, hb⟩ := List.cons.inj hmid
          exact .inr (.inl ⟨part, rfl, hb⟩)
    · cases mid with
      | nil => exact .inl ⟨List.append_nil a', (List.cons.inj hmid).2.symm⟩
      | cons x part =>
          obtain ⟨rfl, hb⟩ := List.cons.inj hmid
          exact .inr (.inr ⟨part, rfl, hb⟩)
  · rintro (⟨rfl, rfl⟩ | ⟨part, rfl, rfl⟩ | ⟨part, rfl, rfl⟩) <;> simp

theorem joined_inj (h : sep ∉ a) (h' : sep ∉ a') :
    a ++ sep :: b = a' ++ sep :: b' ↔ a = a' ∧ b = b' := by
  rw [joined_eq_iff, or_iff_left]
  rintro (⟨part, rfl, -⟩ | ⟨part, rfl, -⟩)
  · exact h' (by simp)
  · exact h (by simp)

theorem joined_inj_right (h : sep ∉ b) (h' : sep ∉ b') :
    a ++ sep :: b = a' ++ sep :: b' ↔ a = a' ∧ b = b' := by
  rw [joined_eq_iff, or_iff_left]
  rintro (⟨part, -, rfl⟩ | ⟨part, -, rfl⟩)
  · exact h (by simp)
  · exact h' (by simp)

end

/-! ### Many parts, with separators of several kinds -/

section

variable {α : Type}

/-- A first part, and further parts each with the separator before it, written one after another. -/
def joined (first : List α) : List (α × List α) → List α
  | [] => first
  | (sep, part) :: rest => first ++ sep :: joined part rest

/-- The one text ends a part where the other's part goes on with the separator itself; after that they
read the same. -/
inductive Reads : List α → List (α × List α) → List α → List (α × List α) → Prop
  | done (a : List α) : Reads a [] a []
  | both (a : List α) (sep : α) {b b' : List α} {P Q : List (α × List α)} :
      Reads b P b' Q → Reads a ((sep, b) :: P) a ((sep, b') :: Q)
  | left (a : List α) (sep : α) {b b' : List α} {P Q : List (α × List α)} :
      Reads b P b' Q → Reads (a ++ sep :: b) P a ((sep, b') :: Q)
  | right (a : List α) (sep : α) {b b' : List α} {P Q : List (α × List α)} :
      Reads b P b' Q → Reads a ((sep, b) :: P) (a ++ sep :: b') Q

theorem joined_append (a b : List α) (sep : α) (P : List (α × List α)) :
    joined (a ++ sep :: b) P = a ++ sep :: joined b P := by
  cases P with
  | nil => rfl
  | cons p P => simp [joined]

theorem joined_eq (a : List α) (P : List (α × List α)) :
    joined a P = a ++ P.flatMap fun p => p.1 :: p.2 := by
  induction P generalizing a with
  | nil => simp [joined]
  | cons p P ih => rw [joined, ih, List.flatMap_cons, List.cons_append]

/-- The separator stands before every part but the first. -/
theorem intercalate_cons (sep : α) (first : List α) (parts : List (List α)) :
    [sep].intercalate (first :: parts) = first ++ parts.flatMap fun part => sep :: part := by
  induction parts generalizing first with
  | nil => simp
  | cons part parts ih =>
      rw [List.intercalate_cons_cons, ih, List.flatMap_cons]
      simp

theorem Reads.joined_eq {a b : List α} {P Q : List (α × List α)} (h : Reads a P b Q) :
    joined a P = joined b Q := by
  induction h with
  | done a => rfl
  | both a sep _ ih => rw [joined, joined, ih]
  | left a sep _ ih => rw [joined_append, joined, ih]
  | right a sep _ ih => rw [joined_append, joined, ih]

theorem reads_of_joined (a : List α) (P : List (α × List α)) (b : List α)
    (Q : List (α × List α)) (h : joined a P = joined b Q) : Reads a P b Q := by
  match P, Q with
  | [], [] =>
      obtain rfl : a = b := h
      exact .done a
  | [], (sep, b') :: Q =>
      obtain rfl : a = b ++ sep :: joined b' Q := h
      exact .left b sep (reads_of_joined _ [] b' Q rfl)
  | (sep, a') :: P, [] =>
      obtain rfl : a ++ sep :: joined a' P = b := h
      exact .right a sep (reads_of_joined a' P _ [] rfl)
  | (sep, a') :: P, (sep', b') :: Q =>
      rcases List.append_eq_append_iff.mp h with ⟨mid, rfl, hmid⟩ | ⟨mid, rfl, hmid⟩
      · cases mid with
        | nil =>
            obtain ⟨rfl, hrest⟩ := List.cons.inj hmid
            rw [List.append_nil]
            exact .both a sep (reads_of_joined a' P b' Q hrest)
        | cons x part =>
            obtain ⟨rfl, hrest⟩ := List.cons.inj hmid
            exact .right a sep (reads_of_joined a' P part ((sep', b') :: Q) hrest)
      · cases mid with
        | nil =>
            obtain ⟨rfl, hrest⟩ := List.cons.inj hmid
            rw [List.append_nil]
            exact .both b sep' (reads_of_joined a' P b' Q hrest.symm)
        | cons x part =>
            obtain ⟨rfl, hrest⟩ := List.cons.inj hmid
            exact .left b sep' (reads_of_joined part ((sep, a') :: P) b' Q hrest.symm)
termination_by P.length + Q.length

/-- Two texts read the same, but at some place the part of one ends with a separator that stands inside
the part of the other. -/
inductive Confused : List α → List (α × List α) → List α → List (α × List α) → Prop
  | left (a : List α) (sep : α) {b b' : List α} {P Q : List (α × List α)} :
      Reads b P b' Q → Confused (a ++ sep :: b) P a ((sep, b') :: Q)
  | right (a : List α) (sep : α) {b b' : List α} {P Q : List (α × List α)} :
      Reads b P b' Q → Confused a ((sep, b) :: P) (a ++ sep :: b') Q
  | later (a : List α) (sep : α) {b b' : List α} {P Q : List (α × List α)} :
      Confused b P b' Q → Confused a ((sep, b) :: P) a ((sep, b') :: Q)

section

variable {a b : List α} {P Q : List (α × List α)}

theorem Confused.reads (h : Confused a P b Q) : Reads a P b Q := by
  induction h with
  | left a sep h => exact .left a sep h
  | right a sep h => exact .right a sep h
  | later a sep _ ih => exact .both a sep ih

theorem Confused.differ (h : Confused a P b Q) : ¬ (a = b ∧ P = Q) := by
  induction h with
  | left a sep _ =>
      rintro ⟨hsame, -⟩
      simpa using congrArg List.length hsame
  | right a sep _ =>
      rintro ⟨hsame, -⟩
      simpa using congrArg List.length hsame
  | later a sep _ ih =>
      rintro ⟨-, hsame⟩
      obtain ⟨hfirst, hrest⟩ := List.cons.inj hsame
      exact ih ⟨(Prod.mk.inj hfirst).2, hrest⟩

theorem Reads.same_or_confused (h : Reads a P b Q) : (a = b ∧ P = Q) ∨ Confused a P b Q := by
  induction h with
  | done a => exact .inl ⟨rfl, rfl⟩
  | both a sep _ ih =>
      rcases ih with ⟨rfl, rfl⟩ | hconfused
      · exact .inl ⟨rfl, rfl⟩
      · exact .inr (.later a sep hconfused)
  | left a sep h => exact .inr (.left a sep h)
  | right a sep h => exact .inr (.right a sep h)

/-- What is written one after another is the same for the same parts, and for confused ones. -/
theorem joined_parts_iff : joined a P = joined b Q ↔ (a = b ∧ P = Q) ∨ Confused a P b Q := by
  constructor
  · exact fun h => (reads_of_joined a P b Q h).same_or_confused
  · rintro (⟨rfl, rfl⟩ | h)
    · rfl
    · exact h.reads.joined_eq

/-- Parts in which no separator of the other ones occurs are not confused. -/
theorem not_confused_of_plain {plain : α → Prop} (ha : ∀ x ∈ a, plain x)
    (hP : ∀ p ∈ P, ¬ plain p.1 ∧ ∀ x ∈ p.2, plain x) (hb : ∀ x ∈ b, plain x)
    (hQ : ∀ p ∈ Q, ¬ plain p.1 ∧ ∀ x ∈ p.2, plain x) : ¬ Confused a P b Q := by
  intro h
  induction h with
  | left a sep _ => exact (hQ _ List.mem_cons_self).1 (ha sep (by simp))
  | right a sep _ => exact (hP _ List.mem_cons_self).1 (hb sep (by simp))
  | later a sep _ ih =>
      rw [List.forall_mem_cons] at hP hQ
      exact ih hP.1.2 hP.2 hQ.1.2 hQ.2

end

end

end BlueTeam.Lib
