/- GID: BlueTeam/BlueQL/Parser
   generality: I
   source: packages/blueql/blueteam_blueql/engine.py
   digest: The scanner and the recursive-descent parser of the hunting language. -/

import BlueTeam.BlueQL.Engine
import Mathlib.Data.List.DropRight

set_option autoImplicit false
set_option relaxedAutoImplicit false

namespace BlueTeam.BlueQL

open BlueTeam.Python BlueTeam.Schema BlueTeam.Lib

/-- What the scanner asks of Python's texts: the classes and the upper case of the characters beyond
ASCII, the floats and `repr`. -/
structure Lexis where
  isSpace : Char → Bool
  isAlnum : Char → Bool
  /-- the value of a character that is a decimal digit -/
  decimal : Char → Option Nat
  upper : Char → List Char
  /-- `float` of a text, with its `str` -/
  float : String → PyFloat × String
  repr : String → String

/-- The text from the position on: `text[pos:]`. -/
abbrev Text := List Char

def fail {α : Type} (message : String) : Result α :=
  .error (.blueQLError message)

@[simp] theorem ok_bind {α β : Type} (a : α) (f : α → Result β) :
    ((.ok a : Result α) >>= f) = f a :=
  rfl

/-! ### Characters -/

namespace Lexis

variable (u : Lexis)

def space (c : Char) : Bool :=
  if c.toNat < 128 then 9 ≤ c.toNat && c.toNat ≤ 13 || 28 ≤ c.toNat && c.toNat ≤ 32
  else u.isSpace c

def alnum (c : Char) : Bool :=
  if c.toNat < 128 then c.isAlphanum else u.isAlnum c

def digit (c : Char) : Option Nat :=
  if c.toNat < 128 then (if c.isDigit then some (c.toNat - 48) else none) else u.decimal c

def upperOf (c : Char) : List Char :=
  if c.toNat < 128 then [c.toUpper] else u.upper c

/-- `\d` -/
def isDigit (c : Char) : Bool :=
  (u.digit c).isSome

/-- `int` of digits -/
def number (digits : Text) : Nat :=
  digits.foldl (fun n c => 10 * n + (u.digit c).getD 0) 0

end Lexis

/-- The first character of `IDENTIFIER`. -/
def identStart (c : Char) : Bool :=
  c.isAlpha || c = '_'

def identPart (c : Char) : Bool :=
  c.isAlphanum || c = '_' || c = '.'

/-! ### The scanner -/

/-- The tokens that `_Lexer` refuses anywhere in a query. -/
def forbiddenTokens : List String :=
  [";", "--", "/*", "*/", "UNION", "DROP", "INSERT", "UPDATE", "DELETE"]

section

variable (u : Lexis)

/-- `_skip`; `peek` gives what is left. -/
def skip (text : Text) : Text :=
  text.dropWhile u.space

/-- `text.strip()` -/
def strip (text : Text) : Text :=
  (text.dropWhile u.space).rdropWhile u.space

/-- `take_keyword(word)`: every call names one word. What follows the word must not be a letter or a
digit. No character beyond ASCII has an upper case that spells more than one letter of a keyword,
so the word takes as many characters of the text as it has letters. -/
def takeKeyword (word : String) (text : Text) : Option Text :=
  let text := skip u text
  let rest := text.drop word.length
  if word.toList.isPrefixOf (text.flatMap u.upperOf) && rest.head?.all (!u.alnum ·) then some rest
  else none

def takeIdent (text : Text) : Result (String × Text) :=
  let text := skip u text
  if text.head?.any identStart then
    .ok (String.ofList (text.takeWhile identPart), text.dropWhile identPart)
  else fail ("expected identifier at " ++ u.repr (String.ofList (text.take 16)))

end

/-- The rest of `STRING` after its opening quote: what stands before the closing one, with its
escapes as they are written, and what comes after it. -/
def takeString : Text → Option (Text × Text)
  | [] => none
  | '"' :: rest => some ([], rest)
  | ['\\'] => none
  | '\\' :: c :: rest =>
      if c = '\n' then none
      else (takeString rest).map fun found => ('\\' :: c :: found.1, found.2)
  | c :: rest => (takeString rest).map fun found => (c :: found.1, found.2)

section

variable (u : Lexis)

/-- `-?\d+(?:\.\d+)?` -/
def takeNumber (text : Text) : Option (Literal × Text) :=
  let minus := text.head? = some '-'
  let body := if minus then text.tail else text
  let whole := body.takeWhile u.isDigit
  let rest := body.dropWhile u.isDigit
  if whole.isEmpty then none
  else
    let fraction := rest.tail.takeWhile u.isDigit
    if rest.head? = some '.' ∧ !fraction.isEmpty then
      let matched := (if minus then ['-'] else []) ++ whole ++ '.' :: fraction
      let value := u.float (String.ofList matched)
      some (.float value.1 value.2, rest.tail.dropWhile u.isDigit)
    else some (.int (if minus then -(u.number whole : Int) else u.number whole), rest)

/-- A literal that is no string. -/
def takeUnquoted (text : Text) : Result (Literal × Text) :=
  match takeKeyword u "TRUE" text, takeKeyword u "FALSE" text, takeNumber u text with
  | some rest, _, _ => .ok (.bool true, rest)
  | none, some rest, _ => .ok (.bool false, rest)
  | none, none, some (value, rest) => .ok (value, rest)
  | none, none, none => fail "expected literal"

def takeValue (text : Text) : Result (Literal × Text) :=
  match skip u text with
  | '"' :: rest =>
      match takeString rest with
      | some (raw, rest) => .ok (.str (String.ofList raw), rest)
      | none => fail "unterminated string"
  | text => takeUnquoted u text

/-- `_duration` -/
def takeDuration (text : Text) : Result (Nat × Text) :=
  let text := skip u text
  let digits := text.takeWhile u.isDigit
  if digits.isEmpty then fail "expected duration like 5m"
  else match text.dropWhile u.isDigit with
    | 's' :: rest => .ok (u.number digits, rest)
    | 'm' :: rest => .ok (u.number digits * 60, rest)
    | 'h' :: rest => .ok (u.number digits * 3600, rest)
    | _ => fail "expected duration like 5m"

def takeComparator (text : Text) : Option (Comparator × Text) :=
  match skip u text with
  | '>' :: '=' :: rest => some (.ge, rest)
  | '<' :: '=' :: rest => some (.le, rest)
  | '!' :: '=' :: rest => some (.ne, rest)
  | '=' :: rest => some (.eq, rest)
  | '>' :: rest => some (.gt, rest)
  | '<' :: rest => some (.lt, rest)
  | _ => none

/-! ### The parser

The recursion and the loops are bounded by a number of calls; `parse` allows more than any text can
take. -/

/-- The values of a list after the first one. -/
def moreValues : Nat → Text → Result (List Literal × Text)
  | 0, _ => .error .recursionError
  | n + 1, text =>
      match skip u text with
      | ',' :: rest => do
          let (value, rest) ← takeValue u rest
          let (values, rest) ← moreValues n rest
          pure (value :: values, rest)
      | text => .ok ([], text)

/-- `IN` and its list, after a field. -/
def inList (field : String) (text : Text) : Result (Pred × Text) :=
  match skip u text with
  | '(' :: rest => do
      let (value, rest) ← takeValue u rest
      let (values, rest) ← moreValues u (rest.length + 1) rest
      match rest with
      | ')' :: rest => pure (.isIn field (value :: values), rest)
      | _ => fail "missing ) after IN list"
  | _ => fail "IN requires a parenthesised list"

/-- A comparison, or a membership in a list. -/
def comparison (text : Text) : Result (Pred × Text) := do
  let (field, rest) ← takeIdent u text
  match takeKeyword u "IN" rest with
  | some rest => inList u field rest
  | none =>
      match takeComparator u rest with
      | some (op, rest) => do
          let (value, rest) ← takeValue u rest
          pure (.cmp field op value, rest)
      | none => fail ("expected comparator after " ++ field)

mutual

/-- `_or_expr` -/
def orExpr : Nat → Text → Result (Pred × Text)
  | 0, _ => .error .recursionError
  | n + 1, text => do
      let (left, rest) ← andExpr n text
      orLoop n left rest

def orLoop : Nat → Pred → Text → Result (Pred × Text)
  | 0, _, _ => .error .recursionError
  | n + 1, left, text =>
      match takeKeyword u "OR" text with
      | none => .ok (left, text)
      | some rest => do
          let (right, rest) ← andExpr n rest
          orLoop n (.or left right) rest

/-- `_and_expr` -/
def andExpr : Nat → Text → Result (Pred × Text)
  | 0, _ => .error .recursionError
  | n + 1, text => do
      let (left, rest) ← primary n text
      andLoop n left rest

def andLoop : Nat → Pred → Text → Result (Pred × Text)
  | 0, _, _ => .error .recursionError
  | n + 1, left, text =>
      match takeKeyword u "AND" text with
      | none => .ok (left, text)
      | some rest => do
          let (right, rest) ← primary n rest
          andLoop n (.and left right) rest

/-- `_primary` -/
def primary : Nat → Text → Result (Pred × Text)
  | 0, _ => .error .recursionError
  | n + 1, text =>
      match takeKeyword u "NOT" text with
      | some rest => do
          let (pred, rest) ← primary n rest
          pure (.not pred, rest)
      | none =>
          match skip u text with
          | '(' :: rest => do
              let (pred, rest) ← orExpr n rest
              match skip u rest with
              | ')' :: rest => pure (pred, rest)
              | _ => fail "missing )"
          | text => comparison u text

end

/-- The steps after the first one. -/
def followedBy : Nat → Text → Result (List Pred × Text)
  | 0, _ => .error .recursionError
  | n + 1, text =>
      match takeKeyword u "FOLLOWED_BY" text with
      | none => .ok ([], text)
      | some rest => do
          let (step, rest) ← orExpr u n rest
          let (steps, rest) ← followedBy n rest
          pure (step :: steps, rest)

/-- `FROM` is taken. -/
def entityQuery (n : Nat) (text : Text) : Result (Query × Text) := do
  let (entity, rest) ← takeIdent u text
  match takeKeyword u "WHERE" rest with
  | none => fail "FROM requires WHERE"
  | some rest => do
      let (pred, rest) ← orExpr u n rest
      pure (.entity entity pred, rest)

def stepsQuery (n : Nat) (text : Text) : Result (Query × Text) := do
  let (first, rest) ← orExpr u n text
  let (more, rest) ← followedBy u n rest
  match takeKeyword u "WITHIN" rest with
  | none => pure (.steps none first more, rest)
  | some rest => do
      let (within, rest) ← takeDuration u rest
      pure (.steps (some within) first more, rest)

/-- The root of the tree, with what is left of the text. -/
def rootQuery (n : Nat) (text : Text) : Result (Query × Text) :=
  match takeKeyword u "FROM" text with
  | some rest => entityQuery u n rest
  | none => stepsQuery u n text

def parse (query : String) : Result Query :=
  if forbiddenTokens.any (hasInfix · query) then
    fail "SQL/control tokens are not legal in BlueQL"
  else do
    let text := strip u query.toList
    let calls := 3 * text.length + 3
    let (root, rest) ← rootQuery u calls text
    match skip u rest with
    | [] => pure root
    | leftover => fail ("unexpected input " ++ u.repr (String.ofList leftover))

/-- `execute` -/
def execute (rt : Runtime) (query : String) (events : List CanonicalEvent) :
    Result (List CanonicalEvent) := do
  let ast ← parse u query
  ast.execute rt events

end

/-- Python on texts of ASCII characters. -/
def sampleLexis : Lexis where
  isSpace _ := false
  isAlnum _ := false
  decimal _ := none
  upper c := [c]
  float text := (.nan, text)
  repr text := text

/-! ### What the scanner takes -/

section

variable (u : Lexis)

theorem Lexis.space_blank : u.space ' ' = true := by
  simp [Lexis.space]

@[simp] theorem skip_nil : skip u [] = [] :=
  rfl

theorem skip_of_not_space {c : Char} (hc : u.space c = false) (text : Text) :
    skip u (c :: text) = c :: text := by
  unfold skip
  rw [List.dropWhile_cons_of_neg (by simp [hc])]

theorem skip_blanks (k : Nat) (text : Text) :
    skip u (List.replicate k ' ' ++ text) = skip u text := by
  induction k with
  | zero => rfl
  | succ k ih =>
      rw [List.replicate_succ, List.cons_append]
      unfold skip at ih ⊢
      rw [List.dropWhile_cons_of_pos u.space_blank, ih]

theorem skip_blank (text : Text) : skip u (' ' :: text) = skip u text :=
  skip_blanks u 1 text

theorem skip_skip (text : Text) : skip u (skip u text) = skip u text :=
  List.dropWhile_idempotent u.space text

theorem length_skip_le (text : Text) : (skip u text).length ≤ text.length :=
  (List.dropWhile_sublist u.space).length_le

@[simp] theorem takeKeyword_skip (word : String) (text : Text) :
    takeKeyword u word (skip u text) = takeKeyword u word text := by
  unfold takeKeyword
  rw [skip_skip]

/-- A text of ASCII characters, in upper case. -/
theorem flatMap_upperOf {text : Text} (h : ∀ c ∈ text, c.toNat < 128) :
    text.flatMap u.upperOf = text.map Char.toUpper := by
  induction text with
  | nil => rfl
  | cons c text ih =>
      have hc : u.upperOf c = [c.toUpper] := if_pos (h c List.mem_cons_self)
      rw [List.flatMap_cons, hc, ih fun c' hc' => h c' (List.mem_cons_of_mem c hc')]
      rfl

/-- A visible character of ASCII. -/
def plain (c : Char) : Bool :=
  33 ≤ c.toNat && c.toNat < 128

theorem ascii_of_plain {text : Text} (h : text.all plain = true) : ∀ c ∈ text, c.toNat < 128 := by
  intro c hc
  have hplain := List.all_eq_true.mp h c hc
  simp only [plain, Bool.and_eq_true, decide_eq_true_eq] at hplain
  exact hplain.2

theorem space_of_plain {c : Char} (h : plain c = true) : u.space c = false := by
  simp only [plain, Bool.and_eq_true, decide_eq_true_eq] at h
  unfold Lexis.space
  rw [if_pos h.2]
  simp only [Bool.or_eq_false_iff, Bool.and_eq_false_iff, decide_eq_false_iff_not]
  omega

theorem skip_of_plain {spelt : Text} (hne : spelt ≠ []) (h : spelt.all plain = true) (rest : Text) :
    skip u (spelt ++ rest) = spelt ++ rest := by
  cases spelt with
  | nil => exact absurd rfl hne
  | cons c spelt =>
      rw [List.all_cons, Bool.and_eq_true] at h
      exact skip_of_not_space u (space_of_plain u h.1) _

theorem flatMap_upperOf_append {spelt : Text} (h : spelt.all plain = true) (rest : Text) :
    (spelt ++ rest).flatMap u.upperOf = spelt.map Char.toUpper ++ rest.flatMap u.upperOf := by
  rw [List.flatMap_append, flatMap_upperOf u (ascii_of_plain h)]

/-- A keyword in any case, and no letter or digit after it. -/
theorem takeKeyword_of_spelt {word : String} {spelt rest : Text} (hne : spelt ≠ [])
    (hplain : spelt.all plain = true) (hword : spelt.map Char.toUpper = word.toList)
    (hrest : rest.head?.all (!u.alnum ·) = true) :
    takeKeyword u word (spelt ++ rest) = some rest := by
  have hlength : word.length = spelt.length := by
    rw [← String.length_toList, ← hword, List.length_map]
  have hdrop : (spelt ++ rest).drop word.length = rest := by
    rw [hlength, List.drop_left]
  have hstarts : word.toList.isPrefixOf ((spelt ++ rest).flatMap u.upperOf) = true := by
    rw [flatMap_upperOf_append u hplain, hword, List.isPrefixOf_iff_prefix]
    exact List.prefix_append _ _
  unfold takeKeyword
  rw [skip_of_plain u hne hplain]
  simp only [hdrop, hstarts, hrest, Bool.and_self, if_true]

/-- Neither text begins with the other. -/
def Apart (word : String) (spelt : Text) : Prop :=
  ¬ word.toList <+: spelt.map Char.toUpper ∧ ¬ spelt.map Char.toUpper <+: word.toList

instance (word : String) (spelt : Text) : Decidable (Apart word spelt) :=
  inferInstanceAs (Decidable (_ ∧ _))

theorem takeKeyword_of_apart {word : String} {spelt : Text} (hne : spelt ≠ [])
    (hplain : spelt.all plain = true) (h : Apart word spelt) (rest : Text) :
    takeKeyword u word (spelt ++ rest) = none := by
  have hstarts : word.toList.isPrefixOf ((spelt ++ rest).flatMap u.upperOf) = false := by
    rw [flatMap_upperOf_append u hplain, Bool.eq_false_iff]
    intro hpre
    rcases List.prefix_or_prefix_of_prefix (List.isPrefixOf_iff_prefix.mp hpre)
      (List.prefix_append _ _) with hword | hspelt
    · exact h.1 hword
    · exact h.2 hspelt
  unfold takeKeyword
  rw [skip_of_plain u hne hplain]
  simp only [hstarts, Bool.false_and, Bool.false_eq_true, if_false]

theorem toUpper_of_lt {c : Char} (hc : c.toNat < 97) : c.toUpper = c := by
  unfold Char.toUpper
  rw [dif_neg]
  rintro ⟨hlow, -⟩
  have hle : 97 ≤ c.toNat := by simpa [UInt32.le_iff_toNat_le] using hlow
  omega

theorem apart_of_head {word : String} {c w : Char} (hword : word.toList.head? = some w)
    (hc : c.toUpper ≠ w) (spelt : Text) : Apart word (c :: spelt) := by
  cases hlist : word.toList with
  | nil =>
      rw [hlist] at hword
      cases hword
  | cons w' ws =>
      rw [hlist, List.head?_cons] at hword
      obtain rfl := Option.some.inj hword
      constructor
      · rw [hlist, List.map_cons, List.cons_prefix_cons]
        intro hpre
        exact hc hpre.1.symm
      · rw [hlist, List.map_cons, List.cons_prefix_cons]
        intro hpre
        exact hc hpre.1

theorem takeKeyword_blanks (word : String) (k : Nat) (text : Text) :
    takeKeyword u word (List.replicate k ' ' ++ text) = takeKeyword u word text := by
  rw [← takeKeyword_skip, skip_blanks, takeKeyword_skip]

theorem takeKeyword_nil {word : String} (h : word.toList ≠ []) : takeKeyword u word [] = none := by
  unfold takeKeyword
  cases hword : word.toList with
  | nil => exact absurd hword h
  | cons c cs => rfl

/-- A keyword takes what stands before the rest, and at least one character. -/
theorem takeKeyword_length {word : String} (h : word ≠ "") {text rest : Text}
    (htake : takeKeyword u word text = some rest) : rest.length < text.length := by
  simp only [takeKeyword] at htake
  split at htake
  · rename_i hcond
    have hword : 0 < word.length := by
      rw [← String.length_toList]
      exact List.length_pos_iff.mpr fun hnil => h (String.toList_eq_nil_iff.mp hnil)
    have hne : skip u text ≠ [] := by
      intro hnil
      rw [hnil, Bool.and_eq_true, List.isPrefixOf_iff_prefix] at hcond
      have hlen := hcond.1.length_le
      rw [String.length_toList, List.flatMap_nil, List.length_nil] at hlen
      omega
    have hskip := length_skip_le u text
    have hpos := List.length_pos_iff.mpr hne
    have hrest := congrArg List.length (Option.some.inj htake)
    rw [List.length_drop] at hrest
    omega
  · cases htake

/-- Scanning stops where the rest begins. -/
theorem takeWhile_append_of_stop {p : Char → Bool} {text rest : Text} (htext : ∀ c ∈ text, p c = true)
    (hrest : ∀ c ∈ rest.head?, p c = false) :
    (text ++ rest).takeWhile p = text ∧ (text ++ rest).dropWhile p = rest := by
  rw [List.takeWhile_append_of_pos htext, List.dropWhile_append_of_pos htext]
  cases rest with
  | nil => simp
  | cons c rest =>
      have hc : p c = false := hrest c rfl
      rw [List.takeWhile_cons_of_neg (by simp [hc]), List.dropWhile_cons_of_neg (by simp [hc])]
      simp

end

/-! ### How many calls a text takes -/

/-- The calls were enough, so that only a `BlueQLError` is raised, and less than `n` characters are
left. -/
structure Ends {α : Type} (n : Nat) (r : Result (α × Text)) : Prop where
  raised : ∀ e, r = .error e → ∃ message, e = .blueQLError message
  left : ∀ a rest, r = .ok (a, rest) → rest.length < n

section

variable {α β : Type} {n n' : Nat}

theorem ends_ok {a : α} {rest : Text} (h : rest.length < n) :
    Ends n (.ok (a, rest) : Result (α × Text)) where
  raised e hr := by cases hr
  left a' rest' hr := by
    obtain ⟨rfl, rfl⟩ := Prod.mk.inj (Except.ok.inj hr)
    exact h

theorem ends_fail (message : String) : Ends n (fail message : Result (α × Text)) where
  raised e hr := ⟨message, (Except.error.inj hr).symm⟩
  left a rest hr := by cases hr

theorem Ends.mono {r : Result (α × Text)} (h : Ends n r) (hn : n ≤ n') : Ends n' r where
  raised := h.raised
  left a rest hr := Nat.lt_of_lt_of_le (h.left a rest hr) hn

theorem Ends.bind {r : Result (α × Text)} {f : α × Text → Result (β × Text)} (h : Ends n r)
    (hf : ∀ a rest, rest.length < n → Ends n' (f (a, rest))) : Ends n' (r >>= f) := by
  rcases r with e | ⟨a, rest⟩
  · refine ⟨fun e' hr => h.raised e' ?_, fun b rest hr => by cases hr⟩
    exact congrArg Except.error (Except.error.inj hr)
  · exact hf a rest (h.left a rest rfl)

end

section

variable (u : Lexis)

theorem takeIdent_ends (text : Text) : Ends text.length (takeIdent u text) := by
  unfold takeIdent
  simp only
  cases htext : skip u text with
  | nil => exact ends_fail _
  | cons c cs =>
      have hlength := length_skip_le u text
      rw [htext, List.length_cons] at hlength
      split
      · rename_i hstart
        have hpart : identPart c = true := by
          have hc : identStart c = true := by simpa using hstart
          simp only [identStart, Bool.or_eq_true] at hc
          simp only [identPart, Char.isAlphanum, Bool.or_eq_true]
          tauto
        apply ends_ok
        rw [List.dropWhile_cons_of_pos hpart]
        have hdrop := (List.dropWhile_sublist (l := cs) identPart).length_le
        omega
      · exact ends_fail _

theorem takeString_length {text raw rest : Text} (h : takeString text = some (raw, rest)) :
    rest.length < text.length := by
  fun_induction takeString text generalizing raw with
  | case1 => cases h
  | case2 rest' =>
      obtain ⟨-, rfl⟩ := Prod.mk.inj (Option.some.inj h)
      simp
  | case3 => cases h
  | case4 => cases h
  | case5 c rest' hc ih =>
      obtain ⟨⟨raw', rest''⟩, hfound, hsame⟩ := Option.map_eq_some_iff.mp h
      obtain ⟨-, rfl⟩ := Prod.mk.inj hsame
      have hlength : rest''.length < rest'.length := ih hfound
      simp only [List.length_cons]
      omega
  | case6 c rest' _ _ _ ih =>
      obtain ⟨⟨raw', rest''⟩, hfound, hsame⟩ := Option.map_eq_some_iff.mp h
      obtain ⟨-, rfl⟩ := Prod.mk.inj hsame
      have hlength : rest''.length < rest'.length := ih hfound
      simp only [List.length_cons]
      omega

theorem takeNumber_length {text rest : Text} {value : Literal}
    (h : takeNumber u text = some (value, rest)) : rest.length < text.length := by
  have hbody : (if text.head? = some '-' then text.tail else text).length ≤ text.length := by
    split
    · exact (List.tail_sublist text).length_le
    · exact Nat.le_refl _
  simp only [takeNumber] at h
  generalize (if text.head? = some '-' then text.tail else text) = body at h hbody
  have hsplit : (body.takeWhile u.isDigit).length + (body.dropWhile u.isDigit).length =
      body.length := by
    rw [← List.length_append, List.takeWhile_append_dropWhile]
  split at h
  · cases h
  · rename_i hwhole
    have hpos : 0 < (body.takeWhile u.isDigit).length := by
      rw [List.length_pos_iff]
      simpa using hwhole
    split at h
    · obtain ⟨-, rfl⟩ := Prod.mk.inj (Option.some.inj h)
      have htail := (List.tail_sublist (body.dropWhile u.isDigit)).length_le
      have hdrop := (List.dropWhile_sublist (l := (body.dropWhile u.isDigit).tail) u.isDigit).length_le
      omega
    · obtain ⟨-, rfl⟩ := Prod.mk.inj (Option.some.inj h)
      omega

theorem takeUnquoted_ends (text : Text) : Ends text.length (takeUnquoted u text) := by
  unfold takeUnquoted
  split
  · rename_i rest hfound
    exact ends_ok (takeKeyword_length u (by decide) hfound)
  · rename_i rest _ hfound
    exact ends_ok (takeKeyword_length u (by decide) hfound)
  · rename_i value rest _ _ hfound
    exact ends_ok (takeNumber_length u hfound)
  · exact ends_fail _

theorem takeValue_ends (text : Text) : Ends text.length (takeValue u text) := by
  have hlength := length_skip_le u text
  unfold takeValue
  split
  · rename_i rest htext
    rw [htext, List.length_cons] at hlength
    split
    · rename_i raw rest' hfound
      have hrest := takeString_length hfound
      exact ends_ok (by omega)
    · exact ends_fail _
  · exact (takeUnquoted_ends u _).mono hlength

theorem takeDuration_ends (text : Text) : Ends text.length (takeDuration u text) := by
  have hskip := length_skip_le u text
  have hdrop := (List.dropWhile_sublist (l := skip u text) u.isDigit).length_le
  unfold takeDuration
  simp only
  split
  · exact ends_fail _
  · split
    · rename_i rest hrest
      rw [hrest, List.length_cons] at hdrop
      exact ends_ok (by omega)
    · rename_i rest hrest
      rw [hrest, List.length_cons] at hdrop
      exact ends_ok (by omega)
    · rename_i rest hrest
      rw [hrest, List.length_cons] at hdrop
      exact ends_ok (by omega)
    · exact ends_fail _

theorem takeComparator_length {text rest : Text} {op : Comparator}
    (h : takeComparator u text = some (op, rest)) : rest.length < text.length := by
  have hskip := length_skip_le u text
  unfold takeComparator at h
  split at h
  case h_7 => cases h
  all_goals
    rename_i htext
    obtain ⟨-, rfl⟩ := Prod.mk.inj (Option.some.inj h)
    rw [htext] at hskip
    simp only [List.length_cons] at hskip
    omega

theorem moreValues_ends (n : Nat) (text : Text) (hn : text.length < n) :
    Ends (text.length + 1) (moreValues u n text) := by
  induction n generalizing text with
  | zero => omega
  | succ n ih =>
      have hskip := length_skip_le u text
      unfold moreValues
      split
      · rename_i rest htext
        rw [htext, List.length_cons] at hskip
        refine (takeValue_ends u rest).bind fun value rest' hrest' => ?_
        refine (ih rest' (by omega)).bind fun values rest'' hrest'' => ?_
        exact ends_ok (by omega)
      · exact ends_ok (by omega)

theorem inList_ends (field : String) (text : Text) : Ends text.length (inList u field text) := by
  have hskip := length_skip_le u text
  unfold inList
  split
  · rename_i rest htext
    rw [htext, List.length_cons] at hskip
    refine (takeValue_ends u rest).bind fun value after hafter => ?_
    refine (moreValues_ends u _ after (by omega)).bind fun values close hclose => ?_
    simp only
    split
    · rename_i left hleft
      rw [List.length_cons] at hclose
      exact ends_ok (by omega)
    · exact ends_fail _
  · exact ends_fail _

theorem comparison_ends (text : Text) : Ends text.length (comparison u text) := by
  unfold comparison
  refine (takeIdent_ends u text).bind fun field rest hrest => ?_
  simp only
  split
  · rename_i after hfound
    have hafter := takeKeyword_length u (by decide) hfound
    exact (inList_ends u field after).mono (by omega)
  · split
    · rename_i op after hfound
      have hafter := takeComparator_length u hfound
      refine (takeValue_ends u after).bind fun value left hleft => ?_
      exact ends_ok (show left.length < text.length by omega)
    · exact ends_fail _

/-- Three calls for each character, and those of the levels above. -/
theorem expr_ends (n : Nat) :
    (∀ text : Text, 3 * text.length + 1 ≤ n → Ends text.length (primary u n text)) ∧
    (∀ left (text : Text), 3 * text.length + 1 ≤ n →
      Ends (text.length + 1) (andLoop u n left text)) ∧
    (∀ text : Text, 3 * text.length + 2 ≤ n → Ends text.length (andExpr u n text)) ∧
    (∀ left (text : Text), 3 * text.length + 1 ≤ n →
      Ends (text.length + 1) (orLoop u n left text)) ∧
    (∀ text : Text, 3 * text.length + 3 ≤ n → Ends text.length (orExpr u n text)) := by
  induction n with
  | zero => refine ⟨?_, ?_, ?_, ?_, ?_⟩ <;> intros <;> omega
  | succ n ih =>
      obtain ⟨hprimary, handLoop, handExpr, horLoop, horExpr⟩ := ih
      refine ⟨?_, ?_, ?_, ?_, ?_⟩
      · intro text hn
        have hskip := length_skip_le u text
        unfold primary
        split
        · rename_i rest hfound
          have hrest := takeKeyword_length u (by decide) hfound
          refine (hprimary rest (by omega)).bind fun pred after hafter => ?_
          exact ends_ok (by omega)
        · split
          · rename_i rest htext
            rw [htext, List.length_cons] at hskip
            refine (horExpr rest (by omega)).bind fun pred after hafter => ?_
            have hskip' := length_skip_le u after
            simp only
            split
            · rename_i left hleft
              rw [hleft, List.length_cons] at hskip'
              exact ends_ok (by omega)
            · exact ends_fail _
          · exact (comparison_ends u _).mono hskip
      · intro left text hn
        unfold andLoop
        split
        · exact ends_ok (by omega)
        · rename_i rest hfound
          have hrest := takeKeyword_length u (by decide) hfound
          refine (hprimary rest (by omega)).bind fun right after hafter => ?_
          exact (handLoop _ after (by omega)).mono (by omega)
      · intro text hn
        unfold andExpr
        refine (hprimary text (by omega)).bind fun left rest hrest => ?_
        exact (handLoop left rest (by omega)).mono (by omega)
      · intro left text hn
        unfold orLoop
        split
        · exact ends_ok (by omega)
        · rename_i rest hfound
          have hrest := takeKeyword_length u (by decide) hfound
          refine (handExpr rest (by omega)).bind fun right after hafter => ?_
          exact (horLoop _ after (by omega)).mono (by omega)
      · intro text hn
        unfold orExpr
        refine (handExpr text (by omega)).bind fun left rest hrest => ?_
        exact (horLoop left rest (by omega)).mono (by omega)

theorem orExpr_ends {n : Nat} {text : Text} (hn : 3 * text.length + 3 ≤ n) :
    Ends text.length (orExpr u n text) :=
  (expr_ends u n).2.2.2.2 text hn

theorem followedBy_ends (n : Nat) (text : Text) (hn : 3 * text.length + 1 ≤ n) :
    Ends (text.length + 1) (followedBy u n text) := by
  induction n generalizing text with
  | zero => omega
  | succ n ih =>
      unfold followedBy
      split
      · exact ends_ok (by omega)
      · rename_i rest hfound
        have hrest := takeKeyword_length u (by decide) hfound
        refine (orExpr_ends u (by omega)).bind fun step after hafter => ?_
        refine (ih after (by omega)).bind fun steps left hleft => ?_
        exact ends_ok (by omega)

theorem entityQuery_ends {n : Nat} {text : Text} (hn : 3 * text.length + 3 ≤ n) :
    Ends text.length (entityQuery u n text) := by
  unfold entityQuery
  refine (takeIdent_ends u text).bind fun entity rest hrest => ?_
  simp only
  split
  · exact ends_fail _
  · rename_i after hfound
    have hafter := takeKeyword_length u (by decide) hfound
    refine (orExpr_ends u (by omega)).bind fun pred left hleft => ?_
    exact ends_ok (show left.length < text.length by omega)

theorem stepsQuery_ends {n : Nat} {text : Text} (hn : 3 * text.length + 3 ≤ n) :
    Ends (text.length + 1) (stepsQuery u n text) := by
  unfold stepsQuery
  refine (orExpr_ends u hn).bind fun first rest hrest => ?_
  refine (followedBy_ends u n rest (by omega)).bind fun more after hafter => ?_
  simp only
  split
  · exact ends_ok (by omega)
  · rename_i left hfound
    have hleft := takeKeyword_length u (by decide) hfound
    refine (takeDuration_ends u left).bind fun within last hlast => ?_
    exact ends_ok (show last.length < text.length + 1 by omega)

theorem rootQuery_ends {n : Nat} {text : Text} (hn : 3 * text.length + 3 ≤ n) :
    Ends (text.length + 1) (rootQuery u n text) := by
  unfold rootQuery
  split
  · rename_i rest hfound
    have hrest := takeKeyword_length u (by decide) hfound
    exact (entityQuery_ends u (by omega)).mono (by omega)
  · exact stepsQuery_ends u hn

/-- Whatever the text, `parse` allows enough calls: it raises nothing but a `BlueQLError`. -/
theorem parse_error {query : String} {e : QueryExn} (h : parse u query = .error e) :
    ∃ message, e = .blueQLError message := by
  unfold parse at h
  split at h
  · exact ⟨_, (Except.error.inj h).symm⟩
  · rcases except_error_of_bind h with hroot | ⟨⟨root, rest⟩, -, hleft⟩
    · exact (rootQuery_ends u (Nat.le_refl _)).raised e hroot
    · simp only at hleft
      split at hleft
      · cases hleft
      · exact ⟨_, (Except.error.inj hleft).symm⟩

end

end BlueTeam.BlueQL
