/- GID: BlueTeam/Python/Re
   generality: G
   source: none
   digest: What the regular expressions of Python look up of letters, and the pieces that patterns
   share. -/

import BlueTeam.Lib.Regex
import Mathlib.Data.List.Forall2

set_option autoImplicit false
set_option relaxedAutoImplicit false

namespace BlueTeam.Python.Re

open BlueTeam.Lib BlueTeam.Lib.Regex

/-- The tables of Unicode that `re` looks up: `\d`, `\s`, `\w`, and the letters that are the same
where case is ignored. -/
structure CharTables where
  digit : Char → Bool
  space : Char → Bool
  word : Char → Bool
  fold : Char → Char

def isAsciiSpace (c : Char) : Bool :=
  c = ' ' || (9 ≤ c.toNat && c.toNat ≤ 13) || (28 ≤ c.toNat && c.toNat ≤ 31)

/-- What the tables say of ASCII. -/
structure CharTables.Ascii (u : CharTables) : Prop where
  digit : ∀ c : Char, c.toNat < 128 → u.digit c = c.isDigit
  space : ∀ c : Char, c.toNat < 128 → u.space c = isAsciiSpace c
  word : ∀ c : Char, c.toNat < 128 → u.word c = (c.isAlphanum || c = '_')
  fold : ∀ c : Char, c.toNat < 128 → u.fold c = c.toLower

section

variable (u : CharTables)

def digit : Regex Char := .one u.digit

def spaces : Regex Char := plus (.one u.space)

/-- `\S+` -/
def solid : Regex Char := plus (.one fun c => !u.space c)

def literal (text : String) : Regex Char :=
  all (text.toList.map fun c => .one fun d => c = d)

/-- A text in lower case, whatever the case of its letters. -/
def anyCase (text : String) : Regex Char :=
  all (text.toList.map fun c => .one fun d => c = u.fold d)

end

section

variable {u : CharTables}

/-- What holds of the letters of a list one after the other. -/
theorem forall_of_all {P : Char → Prop} [DecidablePred P] {l : List Char}
    (h : (l.all fun c => decide (P c)) = true) : ∀ c ∈ l, P c := by
  simpa using h

theorem ascii_of_isDigit {c : Char} (h : c.isDigit = true) : c.toNat < 128 := by
  simp only [Char.isDigit, Bool.and_eq_true, decide_eq_true_eq] at h
  have hle : c.val.toNat ≤ 57 := UInt32.le_iff_toNat_le.mp h.2
  show c.val.toNat < 128
  omega

theorem reads_literal (text : String) {rest : List Char} :
    Reads (literal text) text.toList rest [] :=
  reads_letters (List.forall₂_same.mpr fun _ _ => decide_eq_true rfl)

theorem mem_literal {text : String} {s t : Cursor Char} (ht : t ∈ (literal text).run s) :
    s.after = text.toList ++ t.after := by
  obtain ⟨w, hw, hafter⟩ := mem_letters ht
  have hsame : text.toList = w := by
    refine List.forall₂_eq_eq_eq ▸ hw.imp fun c d hcd => of_decide_eq_true hcd
  rw [hafter, hsame]

theorem mem_anyCase {word : String} {s t : Cursor Char} (ht : t ∈ (anyCase u word).run s) :
    word.toList <+: s.after.map u.fold := by
  obtain ⟨w, hw, hafter⟩ := mem_letters ht
  have hsame : word.toList = w.map u.fold := by
    rw [← List.forall₂_eq_eq_eq, List.forall₂_map_right_iff]
    exact hw.imp fun c d hcd => of_decide_eq_true hcd
  rw [hafter, List.map_append, ← hsame]
  exact List.prefix_append _ _

variable (hu : u.Ascii)

include hu

theorem map_fold {w : List Char} (h : ∀ c ∈ w, c.toNat < 128) :
    w.map u.fold = w.map Char.toLower :=
  List.map_congr_left fun c hc => hu.fold c (h c hc)

/-- The text that is known begins otherwise. -/
theorem anyCase_none {word : String} {known more before : List Char}
    {groups : List (String × List Char)} (hascii : ∀ c ∈ known, c.toNat < 128)
    (h : ¬ word.toList <+: known.map Char.toLower)
    (h' : ¬ known.map Char.toLower <+: word.toList) :
    (anyCase u word).run ⟨before, known ++ more, groups⟩ = [] := by
  refine List.eq_nil_iff_forall_not_mem.mpr fun t ht => ?_
  have hword := mem_anyCase ht
  rw [List.map_append, map_fold hu hascii] at hword
  rcases List.prefix_or_prefix_of_prefix hword (List.prefix_append _ _) with hle | hle
  · exact h hle
  · exact h' hle

theorem reads_anyCase {word : String} {w rest : List Char} (hascii : ∀ c ∈ w, c.toNat < 128)
    (h : w.map Char.toLower = word.toList) : Reads (anyCase u word) w rest [] := by
  refine reads_letters ?_
  rw [← h, ← map_fold hu hascii, List.forall₂_map_left_iff]
  exact List.forall₂_same.mpr fun c _ => decide_eq_true rfl

end

/-! ### Samples -/

def asciiTables : CharTables where
  digit := Char.isDigit
  space := isAsciiSpace
  word c := c.isAlphanum || c = '_'
  fold := Char.toLower

theorem ascii_asciiTables : asciiTables.Ascii :=
  ⟨fun _ _ => rfl, fun _ _ => rfl, fun _ _ => rfl, fun _ _ => rfl⟩

end BlueTeam.Python.Re
