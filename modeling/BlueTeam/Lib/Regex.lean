/- GID: BlueTeam/Lib/Regex
   generality: G
   source: none
   digest: Backtracking regular expressions: every way to read on, the preferred one first. -/

import Mathlib.Data.List.Forall2
import Mathlib.Data.List.Infix
import Mathlib.Order.Basic

set_option autoImplicit false
set_option relaxedAutoImplicit false

namespace BlueTeam.Lib

universe u v

/-- Regular expressions over letters of any kind; letters are recognised by tests. -/
inductive Regex (α : Type u)
  | empty
  | one (p : α → Bool)
  | seq (a b : Regex α)
  | alt (a b : Regex α)
  /-- as often as possible first -/
  | star (a : Regex α)
  | group (name : String) (a : Regex α)
  /-- between a letter of a word and none -/
  | boundary (word : α → Bool)
  /-- at the end, or before a last letter of this kind -/
  | atEnd (newline : α → Bool)

/-- A place in a text: what was read, the last letter first, what is left, and the groups that were
read so far. -/
structure Cursor (α : Type u) where
  before : List α
  after : List α
  groups : List (String × List α) := []

namespace Regex

variable {α : Type u}

/-- The letters between two cursors. -/
def between (s t : Cursor α) : List α :=
  (t.before.take (t.before.length - s.before.length)).reverse

/-- Turns of a loop; a turn that reads nothing is not taken. -/
def iterate (f : Cursor α → List (Cursor α)) : Nat → Cursor α → List (Cursor α)
  | 0, s => [s]
  | n + 1, s =>
      ((f s).filter fun t => t.after.length < s.after.length).flatMap (iterate f n) ++ [s]

/-- Where the expression may read to, in the order in which this is tried. -/
def run : Regex α → Cursor α → List (Cursor α)
  | empty, s => [s]
  | one p, s =>
      match s.after with
      | c :: rest => if p c then [{ s with before := c :: s.before, after := rest }] else []
      | [] => []
  | seq a b, s => (a.run s).flatMap b.run
  | alt a b, s => a.run s ++ b.run s
  | star a, s => iterate a.run s.after.length s
  | group name a, s =>
      (a.run s).map fun t => { t with groups := t.groups ++ [(name, between s t)] }
  | boundary word, s =>
      if s.before.head?.any word = s.after.head?.any word then [] else [s]
  | atEnd newline, s =>
      match s.after with
      | [] => [s]
      | [c] => if newline c then [s] else []
      | _ => []

def plus (a : Regex α) : Regex α :=
  .seq a (.star a)

/-- `a?` -/
def optional (a : Regex α) : Regex α :=
  .alt a .empty

/-- Each of the expressions, one after the other. -/
def all : List (Regex α) → Regex α
  | [] => .empty
  | a :: rest => .seq a (all rest)

/-- `a{n}` -/
def times (n : Nat) (a : Regex α) : Regex α :=
  all (List.replicate n a)

/-- `a{0,n}` -/
def upTo : Nat → Regex α → Regex α
  | 0, _ => .empty
  | n + 1, a => optional (.seq a (upTo n a))

/-- The reading that is preferred. -/
def first (r : Regex α) (s : Cursor α) : Option (Cursor α) :=
  (r.run s).head?

/-- A match at the beginning of a text. -/
def matchStart (r : Regex α) (text : List α) : Option (Cursor α) :=
  r.first ⟨[], text, []⟩

/-- The first match from here on. -/
def searchFrom (r : Regex α) (before : List α) : List α → Option (Cursor α)
  | [] => r.first ⟨before, [], []⟩
  | c :: rest =>
      match r.first ⟨before, c :: rest, []⟩ with
      | some t => some t
      | none => searchFrom r (c :: before) rest

def search (r : Regex α) (text : List α) : Option (Cursor α) :=
  searchFrom r [] text

/-- A text as a search goes through it: the letters that are in no match, and the matches, each with
the cursor behind it. -/
inductive Part (α : Type u)
  | kept (c : α)
  | found (w : List α) (t : Cursor α)

def turns (r : Regex α) : Nat → List α → List α → List (Part α)
  | 0, _, _ => []
  | n + 1, before, after =>
      match r.first ⟨before, after, []⟩ with
      | some t =>
          .found (between ⟨before, after, []⟩ t) t ::
            if t.after.length < after.length then turns r n t.before t.after
            else match after with
              | [] => []
              | c :: rest => .kept c :: turns r n (c :: before) rest
      | none =>
          match after with
          | [] => []
          | c :: rest => .kept c :: turns r n (c :: before) rest

/-- The parts of what is left; a turn for each letter is enough, and one for the end. -/
def parts (r : Regex α) (before after : List α) : List (Part α) :=
  turns r (after.length + 1) before after

def Part.found? : Part α → Option (Cursor α)
  | .kept _ => none
  | .found _ t => some t

def Part.kept? : Part α → Option α
  | .kept c => some c
  | .found _ _ => none

/-- The matches, one behind the other. -/
def findAll (r : Regex α) (text : List α) : List (Cursor α) :=
  (parts r [] text).filterMap Part.found?

/-- What a letter or a match becomes where each match is replaced. -/
def Part.replaced (new : List α) : Part α → List α
  | .kept c => [c]
  | .found _ _ => new

/-- `re.sub` -/
def sub (r : Regex α) (new text : List α) : List α :=
  (parts r [] text).flatMap (Part.replaced new)

/-- What stands before the first match, and each match with what stands behind it. -/
def pieces : List (Part α) → List α × List (List α × List α)
  | [] => ([], [])
  | .kept c :: l => (c :: (pieces l).1, (pieces l).2)
  | .found w _ :: l => ([], (w, (pieces l).1) :: (pieces l).2)

/-! ### What is read -/

section

variable {a b r : Regex α} {s t u : Cursor α} {name : String} {p : α → Bool}
  {before w w' rest : List α} {groups : List (String × List α)}

theorem run_one_cons {c : α} : (one p).run ⟨before, c :: rest, groups⟩ =
    if p c then [⟨c :: before, rest, groups⟩] else [] :=
  rfl

theorem run_one_nil : (one p).run ⟨before, [], groups⟩ = [] :=
  rfl

theorem run_seq : (seq a b).run s = (a.run s).flatMap b.run :=
  rfl

theorem run_alt : (alt a b).run s = a.run s ++ b.run s :=
  rfl

theorem run_group : (group name a).run s =
    (a.run s).map fun t => { t with groups := t.groups ++ [(name, between s t)] } :=
  rfl

theorem eq_of_mem_one (ht : t ∈ (one p).run s) : ∃ c, s.after = c :: t.after ∧ p c = true ∧
    t.before = c :: s.before ∧ t.groups = s.groups := by
  obtain ⟨before, _ | ⟨c, rest⟩, groups⟩ := s
  · cases ht
  · rw [run_one_cons] at ht
    split at ht
    · rename_i hc
      rw [List.mem_singleton.mp ht]
      exact ⟨c, rfl, hc, rfl, rfl⟩
    · cases ht

theorem mem_one (ht : t ∈ (one p).run s) : ∃ c, s.after = c :: t.after ∧ p c = true := by
  obtain ⟨c, hafter, hc, -⟩ := eq_of_mem_one ht
  exact ⟨c, hafter, hc⟩

theorem mem_seq (ht : t ∈ (seq a b).run s) : ∃ m ∈ a.run s, t ∈ b.run m :=
  List.mem_flatMap.mp ht

theorem mem_boundary {word : α → Bool} (ht : t ∈ (boundary word).run s) : t = s := by
  unfold run at ht
  split at ht
  · cases ht
  · exact List.mem_singleton.mp ht

theorem mem_atEnd {newline : α → Bool} (ht : t ∈ (atEnd newline).run s) : t = s := by
  unfold run at ht
  split at ht
  · exact List.mem_singleton.mp ht
  · split at ht
    · exact List.mem_singleton.mp ht
    · cases ht
  · cases ht

/-- The second cursor is reached from the first by reading on. -/
def Ahead (s t : Cursor α) : Prop :=
  ∃ w, s.after = w ++ t.after ∧ t.before = w.reverse ++ s.before

theorem Ahead.refl (s : Cursor α) : Ahead s s :=
  ⟨[], rfl, rfl⟩

theorem Ahead.trans (h : Ahead s t) (h' : Ahead t u) : Ahead s u := by
  obtain ⟨w, hw, hb⟩ := h
  obtain ⟨w', hw', hb'⟩ := h'
  exact ⟨w ++ w', by rw [hw, hw', List.append_assoc], by rw [hb', hb]; simp⟩

theorem mem_iterate {f : Cursor α → List (Cursor α)} {R : Cursor α → Cursor α → Prop}
    (hrefl : ∀ s, R s s) (htrans : ∀ {s t u}, t ∈ f s → R t u → R s u) (n : Nat)
    (ht : t ∈ iterate f n s) : R s t := by
  induction n generalizing s with
  | zero =>
    rw [List.mem_singleton.mp ht]
    exact hrefl s
  | succ n ih =>
    rcases List.mem_append.mp ht with ht | ht
    · obtain ⟨m, hm, ht⟩ := List.mem_flatMap.mp ht
      exact htrans (List.mem_filter.mp hm).1 (ih ht)
    · rw [List.mem_singleton.mp ht]
      exact hrefl s

theorem ahead_of_mem_run (ht : t ∈ r.run s) : Ahead s t := by
  induction r generalizing s t with
  | empty =>
    rw [List.mem_singleton.mp ht]
    exact .refl s
  | one p =>
    obtain ⟨c, hafter, -, hbefore, -⟩ := eq_of_mem_one ht
    exact ⟨[c], hafter, hbefore⟩
  | seq a b iha ihb =>
    obtain ⟨m, hm, ht⟩ := List.mem_flatMap.mp ht
    exact (iha hm).trans (ihb ht)
  | alt a b iha ihb =>
    rcases List.mem_append.mp ht with ht | ht
    · exact iha ht
    · exact ihb ht
  | star a iha => exact mem_iterate Ahead.refl (fun hm h => (iha hm).trans h) _ ht
  | group name a iha =>
    obtain ⟨m, hm, rfl⟩ := List.mem_map.mp ht
    obtain ⟨w, hafter, hbefore⟩ := iha hm
    exact ⟨w, hafter, hbefore⟩
  | boundary word =>
    rw [mem_boundary ht]
    exact .refl s
  | atEnd newline =>
    rw [mem_atEnd ht]
    exact .refl s

theorem between_of_ahead (hb : t.before = w.reverse ++ s.before) : between s t = w := by
  unfold between
  rw [hb]
  simp

/-! ### The preferred reading -/

theorem first_empty : (empty : Regex α).first s = some s :=
  rfl

theorem first_one {c : α} (h : p c = true) :
    (one p).first ⟨before, c :: rest, groups⟩ = some ⟨c :: before, rest, groups⟩ := by
  simp [first, run_one_cons, h]

theorem first_seq (ha : a.first s = some t) (hb : b.first t = some u) :
    (seq a b).first s = some u := by
  unfold first at ha hb ⊢
  obtain ⟨later, hrun⟩ := List.head?_eq_some_iff.mp ha
  rw [run_seq, hrun, List.flatMap_cons, List.head?_append, hb]
  rfl

theorem first_alt_left (ha : a.first s = some t) : (alt a b).first s = some t := by
  unfold first at ha ⊢
  rw [run_alt, List.head?_append, ha]
  rfl

theorem first_alt_right (ha : a.first s = none) : (alt a b).first s = b.first s := by
  show (a.run s ++ b.run s).head? = _
  rw [List.head?_append, show (a.run s).head? = none from ha]
  rfl

theorem first_group (ha : a.first s = some t) :
    (group name a).first s = some { t with groups := t.groups ++ [(name, between s t)] } := by
  unfold first at ha ⊢
  rw [run_group, List.head?_map, ha]
  rfl

/-- A loop over letters reads as many as there are. -/
theorem first_star_one (hw : ∀ c ∈ w, p c = true) (hrest : ∀ c ∈ rest.head?, p c = false) :
    (star (one p)).first ⟨before, w ++ rest, groups⟩ =
      some ⟨w.reverse ++ before, rest, groups⟩ := by
  have hloop : ∀ n, w.length ≤ n →
      (iterate (one p).run n ⟨before, w ++ rest, groups⟩).head? =
        some ⟨w.reverse ++ before, rest, groups⟩ := by
    induction w generalizing before with
    | nil =>
      intro n _
      cases n with
      | zero => rfl
      | succ n =>
        have hnone : (one p).run ⟨before, rest, groups⟩ = [] := by
          cases rest with
          | nil => exact run_one_nil
          | cons c rest => simp [run_one_cons, hrest c rfl]
        unfold iterate
        rw [List.nil_append, hnone]
        rfl
    | cons c w ih =>
      intro n hn
      obtain ⟨n, rfl⟩ : ∃ m, n = m + 1 := ⟨n - 1, by simp at hn; omega⟩
      have hone : (one p).run ⟨before, (c :: w) ++ rest, groups⟩ =
          [⟨c :: before, w ++ rest, groups⟩] := by
        simp [run_one_cons, hw c List.mem_cons_self]
      unfold iterate
      rw [hone]
      have hnext := @ih (c :: before) (fun d hd => hw d (List.mem_cons_of_mem _ hd)) n
        (by simp at hn; omega)
      simp only [List.cons_append, List.length_cons, Nat.lt_succ_self, decide_true,
        List.filter_cons_of_pos, List.filter_nil, List.flatMap_cons, List.flatMap_nil,
        List.append_nil, List.head?_append, hnext]
      simp
  exact hloop _ (by simp)

/-! ### No reading -/

theorem first_eq_none_iff : r.first s = none ↔ r.run s = [] :=
  List.head?_eq_none_iff

theorem seq_none_left (h : a.run s = []) : (seq a b).run s = [] := by
  rw [run_seq, h]
  rfl

theorem alt_none (ha : a.run s = []) (hb : b.run s = []) : (alt a b).run s = [] := by
  rw [run_alt, ha, hb]
  rfl

/-- What a loop over letters may read. -/
theorem mem_star_one (ht : t ∈ (star (one p)).run s) :
    ∃ w, (∀ c ∈ w, p c = true) ∧ s.after = w ++ t.after ∧ t.before = w.reverse ++ s.before := by
  refine mem_iterate (R := fun s t => ∃ w, (∀ c ∈ w, p c = true) ∧ s.after = w ++ t.after ∧
    t.before = w.reverse ++ s.before) (fun s => ⟨[], by simp, rfl, rfl⟩) ?_ _ ht
  rintro s m t hm ⟨w, hw, hafter, hbefore⟩
  obtain ⟨c, hs, hc, hm, -⟩ := eq_of_mem_one hm
  refine ⟨c :: w, ?_, ?_, ?_⟩
  · intro d hd
    rcases List.mem_cons.mp hd with rfl | hd
    · exact hc
    · exact hw d hd
  · rw [hs, List.cons_append, ← hafter]
  · rw [hbefore, hm, List.reverse_cons, List.append_assoc]
    rfl

theorem mem_group (ht : t ∈ (group name a).run s) : ∃ m ∈ a.run s, m.after = t.after := by
  obtain ⟨m, hm, rfl⟩ := List.mem_map.mp ht
  exact ⟨m, hm, rfl⟩

theorem mem_plus_one (ht : t ∈ (plus (one p)).run s) :
    ∃ w, w ≠ [] ∧ (∀ c ∈ w, p c = true) ∧ s.after = w ++ t.after := by
  obtain ⟨m, hm, ht⟩ := mem_seq ht
  obtain ⟨c, hs, hc⟩ := mem_one hm
  obtain ⟨w, hw, hafter, -⟩ := mem_star_one ht
  refine ⟨c :: w, List.cons_ne_nil c w, ?_, ?_⟩
  · intro d hd
    rcases List.mem_cons.mp hd with rfl | hd
    · exact hc
    · exact hw d hd
  · rw [hs, hafter, List.cons_append]

/-- No group is read. -/
def Groupless : Regex α → Prop
  | empty => True
  | one _ => True
  | seq a b => Groupless a ∧ Groupless b
  | alt a b => Groupless a ∧ Groupless b
  | star a => Groupless a
  | group _ _ => False
  | boundary _ => True
  | atEnd _ => True

theorem groups_of_mem_run (h : Groupless r) (ht : t ∈ r.run s) : t.groups = s.groups := by
  induction r generalizing s t with
  | empty => rw [List.mem_singleton.mp ht]
  | one p =>
    obtain ⟨c, -, -, -, hgroups⟩ := eq_of_mem_one ht
    exact hgroups
  | seq a b iha ihb =>
    obtain ⟨m, hm, ht⟩ := mem_seq ht
    exact (ihb h.2 ht).trans (iha h.1 hm)
  | alt a b iha ihb =>
    rcases List.mem_append.mp ht with ht | ht
    · exact iha h.1 ht
    · exact ihb h.2 ht
  | star a iha =>
    exact mem_iterate (R := fun s t => t.groups = s.groups) (fun _ => rfl)
      (fun hm hgroups => hgroups.trans (iha h hm)) _ ht
  | group name a iha => exact h.elim
  | boundary word => rw [mem_boundary ht]
  | atEnd newline => rw [mem_atEnd ht]

theorem exists_of_first_seq (h : (seq a b).first s = some t) :
    ∃ m ∈ a.run s, b.first m = some t := by
  rw [first, run_seq, List.head?_flatMap] at h
  exact List.exists_of_findSome?_eq_some h

theorem exists_of_first_group (h : (group name a).first s = some t) :
    ∃ m, a.first s = some m ∧ t = { m with groups := m.groups ++ [(name, between s m)] } := by
  rw [first, run_group, List.head?_map] at h
  obtain ⟨m, hm, rfl⟩ := Option.map_eq_some_iff.mp h
  exact ⟨m, hm, rfl⟩

theorem first_seq_empty : (seq a empty).first s = a.first s := by
  have hrun : (a.run s).flatMap empty.run = a.run s := List.flatMap_singleton' _
  unfold first
  rw [← hrun]
  rfl

/-! ### Expressions that read a given text -/

/-- With this behind it, the expression first reads the text, and these groups. -/
def Reads (r : Regex α) (w rest : List α) (found : List (String × List α)) : Prop :=
  ∀ before groups, r.first ⟨before, w ++ rest, groups⟩ =
    some ⟨w.reverse ++ before, rest, groups ++ found⟩

theorem reads_empty : Reads (empty : Regex α) [] rest [] := by
  intro before groups
  simp [first, run]

theorem reads_one {c : α} (h : p c = true) : Reads (one p) [c] rest [] := by
  intro before groups
  rw [List.append_nil]
  exact first_one h

theorem reads_star_one (hw : ∀ c ∈ w, p c = true) (hrest : ∀ c ∈ rest.head?, p c = false) :
    Reads (star (one p)) w rest [] := by
  intro before groups
  rw [List.append_nil]
  exact first_star_one hw hrest

theorem Reads.seq {w₁ w₂ : List α} {found₁ found₂ : List (String × List α)}
    (ha : Reads a w₁ (w₂ ++ rest) found₁) (hb : Reads b w₂ rest found₂) :
    Reads (.seq a b) (w₁ ++ w₂) rest (found₁ ++ found₂) := by
  intro before groups
  rw [List.append_assoc]
  refine (first_seq (ha before groups) (hb _ _)).trans ?_
  simp

theorem Reads.alt_left {found : List (String × List α)} (ha : Reads a w rest found) :
    Reads (.alt a b) w rest found :=
  fun before groups => first_alt_left (ha before groups)

theorem Reads.alt_right {found : List (String × List α)}
    (ha : ∀ before groups, a.run ⟨before, w ++ rest, groups⟩ = []) (hb : Reads b w rest found) :
    Reads (.alt a b) w rest found := by
  intro before groups
  rw [first_alt_right (first_eq_none_iff.mpr (ha before groups))]
  exact hb before groups

theorem Reads.group {found : List (String × List α)} (ha : Reads a w rest found) :
    Reads (.group name a) w rest (found ++ [(name, w)]) := by
  intro before groups
  rw [first_group (ha before groups), between_of_ahead rfl, List.append_assoc]

theorem reads_plus_one (hne : w ≠ []) (hw : ∀ c ∈ w, p c = true)
    (hrest : ∀ c ∈ rest.head?, p c = false) : Reads (plus (one p)) w rest [] := by
  obtain ⟨c, w, rfl⟩ := List.exists_cons_of_ne_nil hne
  exact (reads_one (hw c List.mem_cons_self)).seq
    (reads_star_one (fun d hd => hw d (List.mem_cons_of_mem _ hd)) hrest)

/-- A loop over letters reads as many as there are. -/
theorem exists_of_first_plus_one (h : (plus (one p)).first s = some t) :
    ∃ w, w ≠ [] ∧ (∀ c ∈ w, p c = true) ∧ s.after = w ++ t.after ∧
      ∀ c ∈ t.after.head?, p c = false := by
  have hsplit := List.takeWhile_append_dropWhile (p := p) (l := s.after)
  have hall : ∀ c ∈ s.after.takeWhile p, p c = true := fun c hc => by
    simpa using List.all_eq_true.mp List.all_takeWhile c hc
  have hrest : ∀ c ∈ (s.after.dropWhile p).head?, p c = false := by
    intro c hc
    have hnot := List.head?_dropWhile_not p s.after
    rw [hc] at hnot
    simpa using hnot
  by_cases hne : s.after.takeWhile p = []
  · obtain ⟨w, hw, hletters, hafter⟩ := mem_plus_one (List.mem_of_head? h)
    obtain ⟨c, w, rfl⟩ := List.exists_cons_of_ne_nil hw
    rw [hafter, List.cons_append, List.takeWhile_cons_of_pos (hletters c List.mem_cons_self)] at hne
    cases hne
  · have hread := reads_plus_one hne hall hrest s.before s.groups
    rw [hsplit] at hread
    obtain rfl := Option.some.inj (h.symm.trans hread)
    exact ⟨_, hne, hall, hsplit.symm, hrest⟩

theorem Reads.cons {w₁ w₂ : List α} {found₁ found₂ : List (String × List α)} {l : List (Regex α)}
    (ha : Reads a w₁ (w₂ ++ rest) found₁) (hl : Reads (all l) w₂ rest found₂) :
    Reads (all (a :: l)) (w₁ ++ w₂) rest (found₁ ++ found₂) :=
  ha.seq hl

theorem reads_all_nil : Reads (all ([] : List (Regex α))) [] rest [] :=
  reads_empty

theorem Reads.last {found : List (String × List α)} (ha : Reads a w rest found) :
    Reads (all [a]) w rest found := by
  have hread : Reads a w ([] ++ rest) found := ha
  simpa using hread.cons reads_all_nil

/-- A text that is given letter by letter. -/
theorem reads_letters {γ : Type v} {test : γ → α → Bool} {l : List γ}
    (h : List.Forall₂ (fun c d => test c d = true) l w) :
    Reads (all (l.map fun c => one (test c))) w rest [] := by
  induction h with
  | nil => exact reads_empty
  | cons hcd _ ih => exact (reads_one hcd).cons ih

theorem mem_letters {γ : Type v} {test : γ → α → Bool} {l : List γ}
    (ht : t ∈ (all (l.map fun c => one (test c))).run s) :
    ∃ w, List.Forall₂ (fun c d => test c d = true) l w ∧ s.after = w ++ t.after := by
  induction l generalizing s with
  | nil =>
    rw [List.mem_singleton.mp ht]
    exact ⟨[], .nil, rfl⟩
  | cons c w ih =>
    obtain ⟨m, hm, ht⟩ := mem_seq ht
    obtain ⟨d, hs, hd⟩ := mem_one hm
    obtain ⟨w', hw', hafter⟩ := ih ht
    exact ⟨d :: w', .cons hd hw', by rw [hs, hafter, List.cons_append]⟩

/-- As many letters as there are, if they are not too many. -/
theorem reads_upTo {n : Nat} (hlength : w.length ≤ n) (hw : ∀ c ∈ w, p c = true)
    (hrest : ∀ c ∈ rest.head?, p c = false) : Reads (upTo n (one p)) w rest [] := by
  induction n generalizing w with
  | zero =>
    obtain rfl : w = [] := List.length_eq_zero_iff.mp (by omega)
    exact reads_empty
  | succ n ih =>
    cases w with
    | nil =>
      refine Reads.alt_right (fun before groups => seq_none_left ?_) reads_empty
      unfold run
      cases rest with
      | nil => rfl
      | cons c rest => simp [hrest c rfl]
    | cons c w =>
      have hw' : ∀ d ∈ w, p d = true := fun d hd => hw d (List.mem_cons_of_mem _ hd)
      exact ((reads_one (hw c List.mem_cons_self)).seq (ih (by simpa using hlength) hw')).alt_left

theorem first_boundary {word : α → Bool} (h : s.before.head?.any word ≠ s.after.head?.any word) :
    (boundary word).first s = some s := by
  unfold first run
  rw [if_neg h]
  rfl

theorem reads_atEnd {newline : α → Bool} : Reads (atEnd newline) [] [] [] := by
  intro before groups
  simp [first, run]

/-! ### Searches -/

theorem searchFrom_here (h : r.first ⟨before, rest, []⟩ = some t) :
    searchFrom r before rest = some t := by
  cases rest with
  | nil => exact h
  | cons c rest =>
    unfold searchFrom
    rw [h]

/-- A search goes on behind letters where no match begins. -/
theorem searchFrom_skip (h : ∀ w₁ w₂, w = w₁ ++ w₂ → w₂ ≠ [] →
      r.first ⟨w₁.reverse ++ before, w₂ ++ rest, []⟩ = none) :
    searchFrom r before (w ++ rest) = searchFrom r (w.reverse ++ before) rest := by
  induction w generalizing before with
  | nil => rfl
  | cons c w ih =>
    have hhere := h [] (c :: w) rfl (List.cons_ne_nil c w)
    have hnext := @ih (c :: before) (fun w₁ w₂ hw hne => by
      have hlater := h (c :: w₁) w₂ (by rw [hw]; rfl) hne
      simpa using hlater)
    show (match r.first ⟨before, c :: (w ++ rest), []⟩ with
      | some t => some t
      | none => searchFrom r (c :: before) (w ++ rest)) = _
    rw [show r.first ⟨before, c :: (w ++ rest), []⟩ = none from hhere]
    simpa using hnext

theorem searchFrom_isSome (h : (r.first ⟨w.reverse ++ before, rest, []⟩).isSome = true) :
    (searchFrom r before (w ++ rest)).isSome = true := by
  induction w generalizing before with
  | nil =>
    obtain ⟨t, ht⟩ := Option.isSome_iff_exists.mp h
    rw [List.reverse_nil, List.nil_append] at ht
    rw [List.nil_append, searchFrom_here ht]
    rfl
  | cons c w ih =>
    show (match r.first ⟨before, c :: (w ++ rest), []⟩ with
      | some t => some t
      | none => searchFrom r (c :: before) (w ++ rest)).isSome = true
    cases r.first ⟨before, c :: (w ++ rest), []⟩ with
    | some t => rfl
    | none =>
      refine ih ?_
      simpa using h

/-! ### Texts between two letters that are not read -/

/-- The expression reads no such letter, and sees no difference between it and the end of the
text. -/
def Avoids (x : α) : Regex α → Prop
  | empty => True
  | one p => p x = false
  | seq a b => Avoids x a ∧ Avoids x b
  | alt a b => Avoids x a ∧ Avoids x b
  | star a => Avoids x a
  | group _ a => Avoids x a
  | boundary word => word x = false
  | atEnd _ => False

/-- The cursor in a longer text, in which its text stands between two of these letters. -/
def within (x : α) (front back : List α) (s : Cursor α) : Cursor α :=
  ⟨s.before ++ x :: front, s.after ++ x :: back, s.groups⟩

variable {x : α} {front back : List α}

theorem length_after_within : (within x front back s).after.length =
    s.after.length + (back.length + 1) := by
  simp [within]

theorem between_within : between (within x front back s) (within x front back t) = between s t := by
  unfold between within
  have hlength : (t.before ++ x :: front).length - (s.before ++ x :: front).length =
      t.before.length - s.before.length := by
    simp only [List.length_append]
    omega
  rw [hlength, List.take_append_of_le_length (Nat.sub_le _ _)]

/-- More turns than there are letters make no difference. -/
theorem iterate_enough (f : Cursor α → List (Cursor α)) {n m : Nat} (hn : s.after.length ≤ n)
    (hm : s.after.length ≤ m) : iterate f n s = iterate f m s := by
  have hnone : s.after.length = 0 →
      ((f s).filter fun t => t.after.length < s.after.length) = [] := by
    intro h
    simp [h]
  induction n generalizing m s with
  | zero =>
    cases m with
    | zero => rfl
    | succ m =>
      unfold iterate
      rw [hnone (by omega)]
      rfl
  | succ n ih =>
    cases m with
    | zero =>
      unfold iterate
      rw [hnone (by omega)]
      rfl
    | succ m =>
      unfold iterate
      congr 1
      refine List.flatMap_congr fun t ht => ?_
      have hless : t.after.length < s.after.length := by
        simpa using (List.mem_filter.mp ht).2
      exact ih (by omega) (by omega) fun h => by simp [h]

theorem iterate_within {f : Cursor α → List (Cursor α)}
    (hf : ∀ s, f (within x front back s) = (f s).map (within x front back)) (n : Nat) :
    iterate f n (within x front back s) = (iterate f n s).map (within x front back) := by
  induction n generalizing s with
  | zero => rfl
  | succ n ih =>
    unfold iterate
    rw [hf, List.map_append, List.map_flatMap, List.filter_map, List.flatMap_map]
    congr 1
    have hsame : ((f s).filter ((fun t => decide (t.after.length <
        (within x front back s).after.length)) ∘ within x front back)) =
        (f s).filter fun t => t.after.length < s.after.length := by
      refine List.filter_congr fun t _ => ?_
      simp only [Function.comp_apply, length_after_within]
      simp
    rw [hsame]
    exact List.flatMap_congr fun t _ => ih

theorem run_within (h : Avoids x r) :
    r.run (within x front back s) = (r.run s).map (within x front back) := by
  induction r generalizing s with
  | empty => rfl
  | one p =>
    have hx : p x = false := h
    unfold run
    cases hafter : s.after with
    | nil => simp [within, hafter, hx]
    | cons c rest =>
      by_cases hc : p c = true
      · simp [within, hafter, hc]
      · simp [within, hafter, hc]
  | seq a b iha ihb =>
    show ((a.run _).flatMap b.run) = ((a.run s).flatMap b.run).map _
    rw [iha h.1, List.flatMap_map, List.map_flatMap]
    exact List.flatMap_congr fun t _ => ihb h.2
  | alt a b iha ihb =>
    show a.run _ ++ b.run _ = (a.run s ++ b.run s).map _
    rw [iha h.1, ihb h.2, List.map_append]
  | star a iha =>
    show iterate a.run _ _ = (iterate a.run s.after.length s).map _
    rw [iterate_within fun s => iha h]
    congr 1
    exact iterate_enough _ (by rw [length_after_within]; omega) le_rfl
  | group name a iha =>
    show (a.run _).map _ = ((a.run s).map _).map _
    rw [iha h, List.map_map, List.map_map]
    refine List.map_congr_left fun t _ => ?_
    simp only [Function.comp_apply, between_within]
    rfl
  | boundary word =>
    have hx : word x = false := h
    have hbefore : (within x front back s).before.head?.any word = s.before.head?.any word := by
      unfold within
      cases s.before with
      | nil => exact hx
      | cons c rest => rfl
    have hafter : (within x front back s).after.head?.any word = s.after.head?.any word := by
      unfold within
      cases s.after with
      | nil => exact hx
      | cons c rest => rfl
    unfold run
    rw [hbefore, hafter]
    split <;> rfl
  | atEnd newline => exact h.elim

theorem first_within (h : Avoids x r) :
    r.first (within x front back s) = (r.first s).map (within x front back) := by
  unfold first
  rw [run_within h, List.head?_map]

/-- A search finds the same in the longer text, or goes on behind the shorter one. -/
theorem searchFrom_within (h : Avoids x r) (before w : List α) :
    searchFrom r (before ++ x :: front) (w ++ x :: back) =
      ((searchFrom r before w).map (within x front back)).or
        (searchFrom r (w.reverse ++ before ++ x :: front) (x :: back)) := by
  induction w generalizing before with
  | nil =>
    have hfirst := @first_within _ r ⟨before, [], []⟩ x front back h
    cases hhere : r.first ⟨before, [], []⟩ with
    | none =>
      rw [show searchFrom r before [] = none from hhere]
      rfl
    | some t =>
      rw [hhere] at hfirst
      rw [show searchFrom r before [] = some t from hhere]
      exact searchFrom_here hfirst
  | cons c w ih =>
    have hfirst := @first_within _ r ⟨before, c :: w, []⟩ x front back h
    show (match r.first (within x front back ⟨before, c :: w, []⟩) with
      | some t => some t
      | none => searchFrom r (c :: before ++ x :: front) (w ++ x :: back)) =
      (Option.map (within x front back) (match r.first ⟨before, c :: w, []⟩ with
        | some t => some t
        | none => searchFrom r (c :: before) w)).or _
    rw [hfirst]
    cases r.first ⟨before, c :: w, []⟩ with
    | some t => rfl
    | none =>
      refine (ih (c :: before)).trans ?_
      simp

/-! ### The parts of a text -/

theorem turns_enough {after : List α} {n m : Nat} (hn : after.length < n) (hm : after.length < m) :
    turns r n before after = turns r m before after := by
  induction n generalizing m before after with
  | zero => omega
  | succ n ih =>
    obtain ⟨m, rfl⟩ : ∃ k, m = k + 1 := ⟨m - 1, by omega⟩
    have hon : ∀ {before' after' : List α}, after'.length < after.length →
        turns r n before' after' = turns r m before' after' :=
      fun h => ih (by omega) (by omega)
    unfold turns
    cases after with
    | nil => split <;> simp
    | cons c rest =>
      have hrest : turns r n (c :: before) rest = turns r m (c :: before) rest := hon (by simp)
      split
      · rename_i t _
        dsimp only
        by_cases hless : t.after.length < (c :: rest).length
        · rw [if_pos hless, if_pos hless, hon hless]
        · rw [if_neg hless, if_neg hless, hrest]
      · dsimp only
        rw [hrest]

theorem parts_nil (h : r.first ⟨before, [], []⟩ = none) : parts r before [] = [] := by
  unfold parts turns
  rw [h]

theorem parts_kept {c : α} (h : r.first ⟨before, c :: rest, []⟩ = none) :
    parts r before (c :: rest) = .kept c :: parts r (c :: before) rest := by
  unfold parts
  conv_lhs => unfold turns
  rw [h]
  rfl

theorem parts_found {after : List α} (h : r.first ⟨before, after, []⟩ = some t)
    (hless : t.after.length < after.length) :
    parts r before after =
      .found (between ⟨before, after, []⟩ t) t :: parts r t.before t.after := by
  unfold parts
  conv_lhs => unfold turns
  rw [h]
  dsimp only
  rw [if_pos hless]
  congr 1
  exact turns_enough hless (Nat.lt_succ_self _)

theorem head?_findAll (text : List α) : (findAll r text).head? = search r text := by
  unfold findAll search
  generalize hbefore : ([] : List α) = before
  clear hbefore
  induction text generalizing before with
  | nil =>
    unfold parts turns searchFrom
    cases r.first ⟨before, [], []⟩ <;> rfl
  | cons c rest ih =>
    unfold searchFrom
    cases h : r.first ⟨before, c :: rest, []⟩ with
    | none =>
      rw [parts_kept h]
      exact ih (c :: before)
    | some t =>
      unfold parts turns
      rw [h]
      rfl

/-- The letters that are not put in are those in no match. -/
theorem mem_sub {new text : List α} {c : α} (hc : c ∉ new) :
    c ∈ sub r new text ↔ c ∈ (parts r [] text).filterMap Part.kept? := by
  unfold sub
  rw [List.mem_flatMap, List.mem_filterMap]
  refine exists_congr fun part => and_congr_right fun _ => ?_
  cases part with
  | kept d => simp [Part.replaced, Part.kept?, eq_comm]
  | found w t => simp [Part.replaced, Part.kept?, hc]

theorem flatMap_replaced (new : List α) (l : List (Part α)) :
    l.flatMap (Part.replaced new) = (pieces l).1 ++ (pieces l).2.flatMap fun p => new ++ p.2 := by
  induction l with
  | nil => rfl
  | cons part l ih =>
    cases part with
    | kept c => simp [pieces, Part.replaced, ih]
    | found w t => simp [pieces, Part.replaced, ih]

end

/-! ### Letters that are looked at through a function -/

section

variable {β : Type v} (f : α → β)

/-- The expression on letters of which it sees only this much. -/
def comap : Regex β → Regex α
  | empty => .empty
  | one p => .one (p ∘ f)
  | seq a b => .seq a.comap b.comap
  | alt a b => .alt a.comap b.comap
  | star a => .star a.comap
  | group name a => .group name a.comap
  | boundary word => .boundary (word ∘ f)
  | atEnd newline => .atEnd (newline ∘ f)

/-- The same place in the text as it is seen. -/
def seen (s : Cursor α) : Cursor β :=
  ⟨s.before.map f, s.after.map f, s.groups.map fun g => (g.1, g.2.map f)⟩

variable {f} {r : Regex β} {s t : Cursor α}

theorem comap_all (l : List (Regex β)) : (all l).comap f = all (l.map (comap f)) := by
  induction l with
  | nil => rfl
  | cons a l ih => exact congrArg (Regex.seq (a.comap f)) ih

theorem between_seen : between (seen f s) (seen f t) = (between s t).map f := by
  simp [between, seen, List.map_take, List.map_reverse]

theorem iterate_seen {g : Cursor β → List (Cursor β)} {g' : Cursor α → List (Cursor α)}
    (hg : ∀ s, g (seen f s) = (g' s).map (seen f)) (n : Nat) :
    iterate g n (seen f s) = (iterate g' n s).map (seen f) := by
  induction n generalizing s with
  | zero => rfl
  | succ n ih =>
    have hlength : ∀ t : Cursor α, (seen f t).after.length = t.after.length := by
      simp [seen]
    have hsame : (g' s).filter ((fun t => decide (t.after.length < (seen f s).after.length)) ∘
        seen f) = (g' s).filter fun t => t.after.length < s.after.length := by
      refine List.filter_congr fun t _ => ?_
      simp only [Function.comp_apply, hlength]
    unfold iterate
    rw [hg, List.map_append, List.map_flatMap, List.filter_map, List.flatMap_map, hsame]
    congr 1
    exact List.flatMap_congr fun t _ => ih

/-- An expression reads the same in the text as it is seen. -/
theorem run_seen : r.run (seen f s) = ((r.comap f).run s).map (seen f) := by
  induction r generalizing s with
  | empty => rfl
  | one p =>
    show _ = ((one (p ∘ f)).run s).map _
    unfold run
    cases hafter : s.after with
    | nil => simp [seen, hafter]
    | cons c rest =>
      by_cases hc : p (f c) = true
      · simp [seen, hafter, hc]
      · simp [seen, hafter, hc]
  | seq a b iha ihb =>
    show (a.run _).flatMap b.run = (((a.comap f).run s).flatMap (b.comap f).run).map _
    rw [iha, List.flatMap_map, List.map_flatMap]
    exact List.flatMap_congr fun t _ => ihb
  | alt a b iha ihb =>
    show a.run _ ++ b.run _ = ((a.comap f).run s ++ (b.comap f).run s).map _
    rw [iha, ihb, List.map_append]
  | star a iha =>
    show iterate a.run _ _ = (iterate (a.comap f).run s.after.length s).map _
    rw [iterate_seen fun s => iha]
    simp [seen]
  | group name a iha =>
    show (a.run _).map _ = (((a.comap f).run s).map _).map _
    rw [iha, List.map_map, List.map_map]
    refine List.map_congr_left fun t _ => ?_
    simp only [Function.comp_apply, between_seen]
    simp [seen]
  | boundary word =>
    show _ = ((boundary (word ∘ f)).run s).map _
    have hany : ∀ l : List α, (l.map f).head?.any word = l.head?.any (word ∘ f) := by
      intro l
      cases l <;> rfl
    unfold run
    simp only [seen, hany]
    split <;> rfl
  | atEnd newline =>
    show _ = ((atEnd (newline ∘ f)).run s).map _
    unfold run
    rcases hafter : s.after with _ | ⟨c, _ | ⟨d, rest⟩⟩
    · simp [seen, hafter]
    · by_cases hc : newline (f c) = true
      · simp [seen, hafter, hc]
      · simp [seen, hafter, hc]
    · simp [seen, hafter]

theorem first_seen : r.first (seen f s) = ((r.comap f).first s).map (seen f) := by
  unfold first
  rw [run_seen, List.head?_map]

def Part.seen (f : α → β) : Part α → Part β
  | .kept c => .kept (f c)
  | .found w t => .found (w.map f) (Regex.seen f t)

theorem parts_seen (before after : List α) :
    parts r (before.map f) (after.map f) = (parts (r.comap f) before after).map (Part.seen f) := by
  have hturns : ∀ n (before after : List α), turns r n (before.map f) (after.map f) =
      (turns (r.comap f) n before after).map (Part.seen f) := by
    intro n
    induction n with
    | zero => exact fun _ _ => rfl
    | succ n ih =>
      intro before after
      have hfirst := @first_seen _ _ f r ⟨before, after, []⟩
      have hkept : ∀ {c : α} {rest : List α}, turns r n (f c :: before.map f) (rest.map f) =
          (turns (r.comap f) n (c :: before) rest).map (Part.seen f) :=
        fun {c rest} => ih (c :: before) rest
      unfold turns
      rw [show r.first ⟨before.map f, after.map f, []⟩ = _ from hfirst]
      cases (r.comap f).first ⟨before, after, []⟩ with
      | none =>
        cases after with
        | nil => rfl
        | cons c rest => exact congrArg _ hkept
      | some t =>
        have hbetween := @between_seen _ _ f ⟨before, after, []⟩ t
        simp only [Option.map_some, List.map_cons, Part.seen]
        congr 1
        · exact congrArg (Part.found · _) hbetween
        · by_cases hless : t.after.length < after.length
          · rw [if_pos hless, if_pos (by simpa [seen] using hless)]
            exact ih t.before t.after
          · rw [if_neg hless, if_neg (by simpa [seen] using hless)]
            cases after with
            | nil => rfl
            | cons c rest => exact congrArg _ hkept
  unfold parts
  rw [List.length_map]
  exact hturns _ _ _

theorem sub_seen (new text : List α) :
    sub r (new.map f) (text.map f) = (sub (r.comap f) new text).map f := by
  unfold sub
  rw [show ([] : List β) = ([] : List α).map f from rfl, parts_seen, List.flatMap_map,
    List.map_flatMap]
  refine List.flatMap_congr fun part _ => ?_
  cases part <;> rfl

theorem pieces_seen (l : List (Part α)) :
    pieces (l.map (Part.seen f)) =
      ((pieces l).1.map f, (pieces l).2.map fun p => (p.1.map f, p.2.map f)) := by
  induction l with
  | nil => rfl
  | cons part l ih =>
    cases part <;> simp [pieces, Part.seen, ih]

end

end Regex

end BlueTeam.Lib
