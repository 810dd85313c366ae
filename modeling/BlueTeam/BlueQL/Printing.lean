/- GID: BlueTeam/BlueQL/Printing
   generality: I
   source: packages/blueql/blueteam_blueql/engine.py
   digest: Printed queries, fully and sparsely parenthesised, and what the parser makes of them. -/

import BlueTeam.BlueQL.Parser

set_option autoImplicit false
set_option relaxedAutoImplicit false

namespace BlueTeam.BlueQL

open BlueTeam.Python BlueTeam.Schema BlueTeam.Lib

/-! ### Printed queries -/

/-- The fields of `_field_value`. -/
def fieldNames : List String :=
  ["process.name", "parent.name", "user.name", "src_ip", "dst_ip", "category", "event_type",
    "outcome", "action", "network.external", "auth.failures", "auth.success", "privilege.change"]

/-- What `STRING` takes between two quotes. -/
def rawString : Text → Bool
  | [] => true
  | ['\\'] => false
  | '\\' :: c :: rest => c ≠ '\n' && rawString rest
  | c :: rest => c ≠ '"' && rawString rest

def quoted (raw : Text) : Text :=
  '"' :: (raw ++ ['"'])

def Literal.spelling : Literal → Text
  | .str s => quoted s.toList
  | .bool b => if b then "true".toList else "false".toList
  | .int i => (toString i).toList
  | .float _ text => text.toList

def Comparator.spelling : Comparator → Text
  | .ge => ">=".toList
  | .le => "<=".toList
  | .ne => "!=".toList
  | .eq => "=".toList
  | .gt => ">".toList
  | .lt => "<".toList

/-- Brackets with `k` blanks inside them. -/
def bracketed (k : Nat) (text : Text) : Text :=
  '(' :: (List.replicate k ' ' ++ text ++ List.replicate k ' ' ++ [')'])

/-- The values of a list after the first one. -/
def moreSpelling (k : Nat) (values : List Literal) : Text :=
  values.flatMap fun value => List.replicate k ' ' ++ ", ".toList ++ value.spelling

def listSpelling (k : Nat) : List Literal → Text
  | [] => bracketed k []
  | value :: values => bracketed k (value.spelling ++ moreSpelling k values)

def cmpSpelling (field : String) (op : Comparator) (value : Literal) : Text :=
  field.toList ++ ' ' :: op.spelling ++ ' ' :: value.spelling

def inSpelling (k : Nat) (field : String) (values : List Literal) : Text :=
  field.toList ++ " IN ".toList ++ listSpelling k values

/-- Every operand of `AND` and `OR` and every argument of `NOT` in brackets. -/
def Pred.fully (k : Nat) : Pred → Text
  | .and left right => bracketed k (left.fully k) ++ " AND ".toList ++ bracketed k (right.fully k)
  | .or left right => bracketed k (left.fully k) ++ " OR ".toList ++ bracketed k (right.fully k)
  | .not pred => "NOT ".toList ++ bracketed k (pred.fully k)
  | .isIn field values => inSpelling k field values
  | .cmp field op value => cmpSpelling field op value

/-- How tightly a predicate binds: `NOT` and the comparisons most, `OR` least. -/
inductive Level
  | or
  | and
  | primary
  deriving DecidableEq, Repr

/-- Brackets only where a looser operator stands under a tighter one, or to the right of itself. -/
def Pred.sparsely (k : Nat) : Level → Pred → Text
  | .or, .or left right => left.sparsely k .or ++ " OR ".toList ++ right.sparsely k .and
  | _, .or left right =>
      bracketed k (left.sparsely k .or ++ " OR ".toList ++ right.sparsely k .and)
  | .primary, .and left right =>
      bracketed k (left.sparsely k .and ++ " AND ".toList ++ right.sparsely k .primary)
  | _, .and left right => left.sparsely k .and ++ " AND ".toList ++ right.sparsely k .primary
  | _, .not pred => "NOT ".toList ++ pred.sparsely k .primary
  | _, .isIn field values => inSpelling k field values
  | _, .cmp field op value => cmpSpelling field op value

/-- The steps after the first one. -/
def stepsSpelling (print : Pred → Text) (steps : List Pred) : Text :=
  steps.flatMap fun step => " FOLLOWED_BY ".toList ++ print step

def withinSpelling (within : Option Nat) : Text :=
  within.elim [] fun seconds => " WITHIN ".toList ++ Nat.toDigits 10 seconds ++ ['s']

/-- A query, given how its predicates are printed. -/
def Query.spelling (print : Pred → Text) : Query → Text
  | .entity name pred =>
      "FROM".toList ++ ' ' :: (name.toList ++ ' ' :: ("WHERE".toList ++ ' ' :: print pred))
  | .steps within first more => print first ++ (stepsSpelling print more ++ withinSpelling within)

def Query.fully (k : Nat) (q : Query) : String :=
  String.ofList (q.spelling (Pred.fully k))

def Query.sparsely (k : Nat) (q : Query) : String :=
  String.ofList (q.spelling (Pred.sparsely k .or))

/-! ### What can be printed -/

def Literal.Printable : Literal → Prop
  | .str s => rawString s.toList = true
  | .bool _ | .int _ => True
  | .float _ _ => False

instance : DecidablePred Literal.Printable
  | .str s => inferInstanceAs (Decidable (rawString s.toList = true))
  | .bool _ | .int _ => inferInstanceAs (Decidable True)
  | .float _ _ => inferInstanceAs (Decidable False)

def Pred.Printable : Pred → Prop
  | .and left right | .or left right => left.Printable ∧ right.Printable
  | .not pred => pred.Printable
  | .isIn field values => field ∈ fieldNames ∧ values ≠ [] ∧ ∀ value ∈ values, value.Printable
  | .cmp field _ value => field ∈ fieldNames ∧ value.Printable

instance Pred.decidablePrintable : (pred : Pred) → Decidable pred.Printable
  | .and left right | .or left right =>
      @instDecidableAnd _ _ (decidablePrintable left) (decidablePrintable right)
  | .not pred => decidablePrintable pred
  | .isIn field values =>
      inferInstanceAs (Decidable
        (field ∈ fieldNames ∧ values ≠ [] ∧ ∀ value ∈ values, value.Printable))
  | .cmp field _ value => inferInstanceAs (Decidable (field ∈ fieldNames ∧ value.Printable))

def identifier (name : String) : Prop :=
  name.toList.head?.any identStart = true ∧ ∀ c ∈ name.toList, identPart c = true

instance : DecidablePred identifier := fun name =>
  decidable_of_iff
    (name.toList.head?.any identStart = true ∧ name.toList.all identPart = true)
    (by rw [identifier, List.all_eq_true])

def Query.Printable : Query → Prop
  | .entity name p => identifier name ∧ p.Printable
  | .steps _ first more => first.Printable ∧ ∀ step ∈ more, step.Printable

instance : DecidablePred Query.Printable
  | .entity _ _ => inferInstanceAs (Decidable (_ ∧ _))
  | .steps _ _ _ => inferInstanceAs (Decidable (_ ∧ _))

/-- No token that `_Lexer` refuses. -/
def Clean (query : String) : Prop :=
  forbiddenTokens.any (hasInfix · query) = false

instance : DecidablePred Clean :=
  fun _ => inferInstanceAs (Decidable (_ = false))

/-- The texts of a predicate at a level, with any brackets that change nothing. -/
inductive Spells (k : Nat) : Level → Pred → Text → Prop
  | isIn {field : String} {values : List Literal} (hfield : field ∈ fieldNames)
      (hvalues : values ≠ []) (h : ∀ value ∈ values, value.Printable) :
      Spells k .primary (.isIn field values) (inSpelling k field values)
  | cmp {field : String} {op : Comparator} {value : Literal} (hfield : field ∈ fieldNames)
      (h : value.Printable) : Spells k .primary (.cmp field op value) (cmpSpelling field op value)
  | not {pred : Pred} {text : Text} (h : Spells k .primary pred text) :
      Spells k .primary (.not pred) ("NOT ".toList ++ text)
  | bracketed {pred : Pred} {text : Text} (h : Spells k .or pred text) :
      Spells k .primary pred (bracketed k text)
  | primary {pred : Pred} {text : Text} (h : Spells k .primary pred text) : Spells k .and pred text
  | and {left right : Pred} {a b : Text} (hleft : Spells k .and left a)
      (hright : Spells k .primary right b) :
      Spells k .and (.and left right) (a ++ " AND ".toList ++ b)
  | level {pred : Pred} {text : Text} (h : Spells k .and pred text) : Spells k .or pred text
  | or {left right : Pred} {a b : Text} (hleft : Spells k .or left a)
      (hright : Spells k .and right b) :
      Spells k .or (.or left right) (a ++ " OR ".toList ++ b)

theorem Spells.anywhere {k : Nat} {pred : Pred} {text : Text} (h : Spells k .primary pred text)
    (level : Level) : Spells k level pred text := by
  cases level with
  | or => exact h.primary.level
  | and => exact h.primary
  | primary => exact h

theorem spells_fully (k : Nat) {pred : Pred} (h : pred.Printable) :
    Spells k .or pred (pred.fully k) := by
  induction pred with
  | and left right hleft hright =>
      exact (Spells.and (hleft h.1).bracketed.primary (hright h.2).bracketed).level
  | or left right hleft hright =>
      exact .or (hleft h.1).bracketed.primary.level (hright h.2).bracketed.primary
  | not pred ih => exact (Spells.not (ih h).bracketed).anywhere .or
  | isIn field values => exact (Spells.isIn h.1 h.2.1 h.2.2).anywhere .or
  | cmp field op value => exact (Spells.cmp h.1 h.2).anywhere .or

theorem spells_sparsely (k : Nat) {pred : Pred} (h : pred.Printable) (level : Level) :
    Spells k level pred (pred.sparsely k level) := by
  induction pred generalizing level with
  | and left right hleft hright =>
      have hand := Spells.and (hleft h.1 .and) (hright h.2 .primary)
      cases level with
      | or => exact hand.level
      | and => exact hand
      | primary => exact hand.level.bracketed
  | or left right hleft hright =>
      have hor := Spells.or (hleft h.1 .or) (hright h.2 .and)
      cases level with
      | or => exact hor
      | and => exact hor.bracketed.anywhere .and
      | primary => exact hor.bracketed
  | not pred ih =>
      have hnot := Spells.not (ih h .primary)
      cases level <;> exact hnot.anywhere _
  | isIn field values =>
      have hin := Spells.isIn (k := k) h.1 h.2.1 h.2.2
      cases level <;> exact hin.anywhere _
  | cmp field op value =>
      have hcmp : Spells k .primary (.cmp field op value) _ := Spells.cmp h.1 h.2
      cases level <;> exact hcmp.anywhere _

/-! ### Tokens -/

/-- What may follow a token of a printed query. -/
def Boundary (rest : Text) : Prop :=
  ∀ c ∈ rest.head?, c = ' ' ∨ c = ')' ∨ c = ','

theorem boundary_nil : Boundary [] := by
  intro c hc
  cases hc

theorem boundary_cons {c : Char} (hc : c = ' ' ∨ c = ')' ∨ c = ',') (rest : Text) :
    Boundary (c :: rest) := by
  intro c' hc'
  obtain rfl : c = c' := by simpa using hc'
  exact hc

section

variable (u : Lexis)

theorem Boundary.alnum {rest : Text} (h : Boundary rest) :
    rest.head?.all (!u.alnum ·) = true := by
  cases rest with
  | nil => rfl
  | cons c rest =>
      rcases h c rfl with rfl | rfl | rfl <;> simp [Lexis.alnum]

theorem Boundary.digit {rest : Text} (h : Boundary rest) :
    ∀ c ∈ rest.head?, u.isDigit c = false := by
  intro c hc
  rcases h c hc with rfl | rfl | rfl <;> simp [Lexis.isDigit, Lexis.digit]

theorem toNat_of_isDigit {c : Char} (hc : c.isDigit = true) : 48 ≤ c.toNat ∧ c.toNat ≤ 57 := by
  simp only [Char.isDigit, Bool.and_eq_true, decide_eq_true_eq, ge_iff_le,
    UInt32.le_iff_toNat_le] at hc
  exact hc

theorem digit_of_isDigit {c : Char} (hc : c.isDigit = true) :
    u.digit c = some (c.toNat - 48) := by
  have hrange := toNat_of_isDigit hc
  have hascii : c.toNat < 128 := by omega
  unfold Lexis.digit
  rw [if_pos hascii, if_pos hc]

theorem isDigit_of_mem_toDigits {n : Nat} {c : Char} (hc : c ∈ Nat.toDigits 10 n) :
    c.isDigit = true :=
  Nat.isDigit_of_mem_toDigits (by decide) (by decide) hc

theorem foldl_digits {digits : Text} (h : ∀ c ∈ digits, c.isDigit = true) (n : Nat) :
    digits.foldl (fun n c => 10 * n + (u.digit c).getD 0) n = Nat.ofDigitChars 10 digits n := by
  induction digits generalizing n with
  | nil => rfl
  | cons c digits ih =>
      have hc := digit_of_isDigit u (h c List.mem_cons_self)
      rw [List.foldl_cons, hc, ih fun c' hc' => h c' (List.mem_cons_of_mem c hc'),
        Nat.ofDigitChars_cons]
      rfl

theorem number_toDigits (n : Nat) : u.number (Nat.toDigits 10 n) = n := by
  unfold Lexis.number
  rw [foldl_digits u fun c hc => isDigit_of_mem_toDigits hc]
  exact Nat.ofDigitChars_toDigits (by decide) (by decide)

/-- The digits of a number, up to the rest. -/
theorem scan_toDigits (n : Nat) {rest : Text} (h : Boundary rest) :
    (Nat.toDigits 10 n ++ rest).takeWhile u.isDigit = Nat.toDigits 10 n ∧
      (Nat.toDigits 10 n ++ rest).dropWhile u.isDigit = rest := by
  refine takeWhile_append_of_stop (fun c hc => ?_) (h.digit u)
  unfold Lexis.isDigit
  rw [digit_of_isDigit u (isDigit_of_mem_toDigits hc)]
  rfl

theorem toDigits_cons (n : Nat) : ∃ c cs, Nat.toDigits 10 n = c :: cs ∧ c.isDigit = true := by
  cases hdigits : Nat.toDigits 10 n with
  | nil => exact absurd hdigits Nat.toDigits_ne_nil
  | cons c cs =>
      refine ⟨c, cs, rfl, isDigit_of_mem_toDigits (n := n) ?_⟩
      rw [hdigits]
      exact List.mem_cons_self

/-- What `takeNumber` makes of the digits after the sign. -/
theorem takeNumber_spelling (i : Int) {rest : Text} (h : Boundary rest) :
    takeNumber u ((toString i).toList ++ rest) = some (.int i, rest) := by
  have hpoint : rest.head? ≠ some '.' := by
    intro hhead
    rcases h '.' hhead with hc | hc | hc <;> cases hc
  cases i with
  | ofNat n =>
      have htext : (toString (Int.ofNat n)).toList = Nat.toDigits 10 n := Nat.toList_repr
      obtain ⟨htake, hdrop⟩ := scan_toDigits u n h
      obtain ⟨c, cs, hdigits, hc⟩ := toDigits_cons n
      have hminus : (Nat.toDigits 10 n ++ rest).head? ≠ some '-' := by
        rw [hdigits]
        intro hhead
        obtain rfl : c = '-' := Option.some.inj hhead
        cases hc
      have hne : (Nat.toDigits 10 n).isEmpty = false := by rw [hdigits]; rfl
      simp only [takeNumber, htext, hminus, if_false, htake, hdrop, hne, hpoint, false_and,
        Bool.false_eq_true, number_toDigits]
      rfl
  | negSucc n =>
      have htext : (toString (Int.negSucc n)).toList = '-' :: Nat.toDigits 10 (n + 1) := by
        have hrepr : toString (Int.negSucc n) = "-" ++ Nat.repr (n + 1) := rfl
        rw [hrepr, String.toList_append, Nat.toList_repr]
        rfl
      obtain ⟨htake, hdrop⟩ := scan_toDigits u (n + 1) h
      obtain ⟨c, cs, hdigits, hc⟩ := toDigits_cons (n + 1)
      have hne : (Nat.toDigits 10 (n + 1)).isEmpty = false := by rw [hdigits]; rfl
      simp only [takeNumber, htext, List.cons_append, List.head?_cons, if_true, List.tail_cons,
        htake, hdrop, hne, hpoint, false_and, Bool.false_eq_true, if_false,
        number_toDigits]
      rfl

theorem takeString_raw {raw : Text} (h : rawString raw = true) (rest : Text) :
    takeString (raw ++ '"' :: rest) = some (raw, rest) := by
  fun_induction rawString raw with
  | case1 => rfl
  | case2 => cases h
  | case3 c raw ih =>
      simp only [Bool.and_eq_true, decide_eq_true_eq] at h
      have htail := ih h.2
      simp only [List.cons_append, takeString, if_neg h.1, htail, Option.map_some]
  | case4 c raw hlast hescape ih =>
      simp only [Bool.and_eq_true, decide_eq_true_eq] at h
      have htail := ih h.2
      have hslash : c ≠ '\\' := by
        intro hc
        cases raw with
        | nil => exact hlast hc rfl
        | cons c' raw => exact hescape c' raw hc rfl
      rw [List.cons_append, takeString.eq_5]
      · rw [htail]
        rfl
      · exact h.1
      · intro hc
        exact absurd hc hslash
      · intro c' rest' hc
        exact absurd hc hslash

/-- Each taker skips the blanks first. -/
theorem takeValue_blanks (k : Nat) (text : Text) :
    takeValue u (List.replicate k ' ' ++ text) = takeValue u text := by
  unfold takeValue
  rw [skip_blanks]

theorem takeValue_of_plain {c : Char} (hc : plain c = true) (hquote : c ≠ '"') (text : Text) :
    takeValue u (c :: text) = takeUnquoted u (c :: text) := by
  unfold takeValue
  rw [skip_of_not_space u (space_of_plain u hc)]
  split
  · rename_i hcons
    exact absurd (List.cons.inj hcons).1 hquote
  · rfl

theorem plain_of_isDigit {c : Char} (hc : c.isDigit = true) : plain c = true := by
  have hrange := toNat_of_isDigit hc
  simp only [plain, Bool.and_eq_true, decide_eq_true_eq]
  omega

/-- A number begins with a digit or with its sign. -/
theorem toString_int_cons (i : Int) :
    ∃ c cs, (toString i).toList = c :: cs ∧ (c = '-' ∨ c.isDigit = true) := by
  cases i with
  | ofNat n =>
      obtain ⟨c, cs, hdigits, hc⟩ := toDigits_cons n
      exact ⟨c, cs, (Nat.toList_repr (n := n)).trans hdigits, .inr hc⟩
  | negSucc n =>
      refine ⟨'-', Nat.toDigits 10 (n + 1), ?_, .inl rfl⟩
      have hrepr : toString (Int.negSucc n) = "-" ++ Nat.repr (n + 1) := rfl
      rw [hrepr, String.toList_append, Nat.toList_repr]
      rfl

theorem takeValue_spelling {value : Literal} (hvalue : value.Printable) {rest : Text}
    (hrest : Boundary rest) : takeValue u (value.spelling ++ rest) = .ok (value, rest) := by
  cases value with
  | str s =>
      have hraw := takeString_raw hvalue rest
      have hspace : u.space '"' = false := space_of_plain u rfl
      have htext : (Literal.str s).spelling ++ rest = '"' :: (s.toList ++ '"' :: rest) := by
        simp [Literal.spelling, quoted]
      unfold takeValue
      rw [htext, skip_of_not_space u hspace]
      simp only [hraw, String.ofList_toList]
  | bool b =>
      cases b with
      | true =>
          have htake : takeKeyword u "TRUE" ("true".toList ++ rest) = some rest :=
            takeKeyword_of_spelt u (by decide) (by decide) (by decide) (hrest.alnum u)
          refine (takeValue_of_plain u (c := 't') rfl (by decide) ("rue".toList ++ rest)).trans ?_
          change takeUnquoted u ("true".toList ++ rest) = _
          simp only [takeUnquoted, htake]
      | false =>
          have htrue : takeKeyword u "TRUE" ("false".toList ++ rest) = none :=
            takeKeyword_of_apart u (by decide) (by decide) (by decide) rest
          have htake : takeKeyword u "FALSE" ("false".toList ++ rest) = some rest :=
            takeKeyword_of_spelt u (by decide) (by decide) (by decide) (hrest.alnum u)
          refine (takeValue_of_plain u (c := 'f') rfl (by decide) ("alse".toList ++ rest)).trans ?_
          change takeUnquoted u ("false".toList ++ rest) = _
          simp only [takeUnquoted, htrue, htake]
  | int i =>
      have htake := takeNumber_spelling u i hrest
      obtain ⟨c, cs, htext, hc⟩ := toString_int_cons i
      have hplain : plain c = true := by
        rcases hc with rfl | hc
        · rfl
        · exact plain_of_isDigit hc
      have hquote : c ≠ '"' := by
        rintro rfl
        rcases hc with hc | hc <;> cases hc
      have hlow : c.toNat < 58 := by
        rcases hc with rfl | hc
        · decide
        · have hrange := toNat_of_isDigit hc
          omega
      have hletter : ∀ w : Char, 58 ≤ w.toNat → c.toUpper ≠ w := by
        rintro w hw rfl
        rw [toUpper_of_lt (by omega)] at hw
        omega
      have htrue := takeKeyword_of_apart u (List.cons_ne_nil c []) (by simp [hplain])
        (@apart_of_head "TRUE" _ _ rfl (hletter 'T' (by decide)) []) (cs ++ rest)
      have hfalse := takeKeyword_of_apart u (List.cons_ne_nil c []) (by simp [hplain])
        (@apart_of_head "FALSE" _ _ rfl (hletter 'F' (by decide)) []) (cs ++ rest)
      simp only [Literal.spelling] 
      rw [htext] at htake ⊢
      rw [List.cons_append, takeValue_of_plain u hplain hquote]
      simp only [List.cons_append, List.nil_append] at htrue hfalse htake
      simp only [takeUnquoted, htrue, hfalse, htake]
  | float value text => exact absurd hvalue id

theorem takeIdent_blanks (k : Nat) (text : Text) :
    takeIdent u (List.replicate k ' ' ++ text) = takeIdent u text := by
  unfold takeIdent
  simp only [skip_blanks]

theorem plain_of_identPart {c : Char} (hc : identPart c = true) : plain c = true := by
  have hrange : 33 ≤ c.toNat ∧ c.toNat < 128 := by
    delta identPart Char.isAlphanum Char.isAlpha Char.isUpper Char.isLower Char.isDigit at hc
    simp only [Bool.or_eq_true, Bool.and_eq_true, decide_eq_true_eq, ge_iff_le,
      UInt32.le_iff_toNat_le] at hc
    have hnat : c.toNat = c.val.toNat := rfl
    rcases hc with (((hc | hc) | hc) | rfl) | rfl
    all_goals simp at *
    all_goals omega
  simp only [plain, Bool.and_eq_true, decide_eq_true_eq]
  exact hrange

/-- A name, and a blank after it. -/
theorem takeIdent_of_identifier {name : String} (h : identifier name) (rest : Text) :
    takeIdent u (name.toList ++ ' ' :: rest) = .ok (name, ' ' :: rest) := by
  obtain ⟨hstart, hpart⟩ := h
  have hspace : skip u (name.toList ++ ' ' :: rest) = name.toList ++ ' ' :: rest := by
    refine skip_of_plain u ?_ (List.all_eq_true.mpr fun c hc => plain_of_identPart (hpart c hc)) _
    rintro hnil
    rw [hnil] at hstart
    cases hstart
  have hhead : (name.toList ++ ' ' :: rest).head?.any identStart = true := by
    cases hname : name.toList with
    | nil =>
        rw [hname] at hstart
        cases hstart
    | cons c cs =>
        rw [hname] at hstart
        exact hstart
  obtain ⟨htake, hdrop⟩ := @takeWhile_append_of_stop _ _ (' ' :: rest) hpart (by
    intro c hc
    obtain rfl : ' ' = c := Option.some.inj hc
    rfl)
  unfold takeIdent
  simp only [hspace, hhead, if_true, htake, hdrop, String.ofList_toList]

theorem takeComparator_spelling (op : Comparator) (rest : Text) :
    takeComparator u (' ' :: (op.spelling ++ ' ' :: rest)) = some (op, ' ' :: rest) := by
  have hskip : skip u (' ' :: (op.spelling ++ ' ' :: rest)) = op.spelling ++ ' ' :: rest := by
    rw [skip_blank]
    cases op <;> exact skip_of_plain u (by decide) (by decide) _
  unfold takeComparator
  rw [hskip]
  cases op <;> rfl

theorem fieldNames_identifier : ∀ field ∈ fieldNames, identifier field := by
  decide

end

theorem Boundary.blanks {rest : Text} (h : Boundary rest) (k : Nat) :
    Boundary (List.replicate k ' ' ++ rest) := by
  cases k with
  | zero => exact h
  | succ k => exact boundary_cons (.inl rfl) _

/-- What stands behind a value in a list. -/
theorem boundary_moreSpelling (k : Nat) (values : List Literal) (rest : Text) :
    Boundary (moreSpelling k values ++ (List.replicate k ' ' ++ ')' :: rest)) := by
  cases values with
  | nil => exact (boundary_cons (.inr (.inl rfl)) rest).blanks k
  | cons value values =>
      simp only [moreSpelling, List.flatMap_cons, List.append_assoc]
      exact (boundary_cons (.inr (.inr rfl)) _).blanks k

section

variable (u : Lexis)

theorem takeKeyword_blank (word : String) (text : Text) :
    takeKeyword u word (' ' :: text) = takeKeyword u word text :=
  takeKeyword_blanks u word 1 text

theorem takeValue_blank (text : Text) : takeValue u (' ' :: text) = takeValue u text :=
  takeValue_blanks u 1 text

theorem skip_close (k : Nat) (rest : Text) :
    skip u (List.replicate k ' ' ++ ')' :: rest) = ')' :: rest := by
  rw [skip_blanks]
  exact skip_of_not_space u (space_of_plain u rfl) rest

theorem moreValues_spelling (k : Nat) {values : List Literal}
    (h : ∀ value ∈ values, value.Printable) {n : Nat} (hn : values.length < n) (rest : Text) :
    moreValues u n (moreSpelling k values ++ (List.replicate k ' ' ++ ')' :: rest)) =
      .ok (values, ')' :: rest) := by
  induction values generalizing n with
  | nil =>
      obtain ⟨n, rfl⟩ := Nat.exists_eq_succ_of_ne_zero (Nat.ne_of_gt hn)
      have hskip := skip_close u k rest
      simp only [moreSpelling, List.flatMap_nil, List.nil_append, moreValues, hskip]
      rfl
  | cons value values ih =>
      rw [List.length_cons] at hn
      obtain ⟨n, rfl⟩ := Nat.exists_eq_succ_of_ne_zero (Nat.ne_of_gt (Nat.zero_lt_of_lt hn))
      have hmore := ih (fun v hv => h v (List.mem_cons_of_mem _ hv)) (n := n) (by omega)
      have hvalue := takeValue_spelling u (h value List.mem_cons_self)
        (boundary_moreSpelling k values rest)
      have htext : moreSpelling k (value :: values) ++ (List.replicate k ' ' ++ ')' :: rest) =
          List.replicate k ' ' ++ ',' :: ' ' :: (value.spelling ++
            (moreSpelling k values ++ (List.replicate k ' ' ++ ')' :: rest))) := by
        simp [moreSpelling]
      have hskip := skip_of_not_space u (space_of_plain u (c := ',') rfl)
      rw [htext]
      simp only [moreValues, skip_blanks, hskip, takeValue_blank, hvalue, ok_bind, hmore]
      rfl

theorem length_values_le (k : Nat) (values : List Literal) :
    values.length ≤ (moreSpelling k values).length := by
  induction values with
  | nil => exact Nat.le_refl _
  | cons value values ih =>
      have hcons : moreSpelling k (value :: values) =
          (List.replicate k ' ' ++ ", ".toList ++ value.spelling) ++ moreSpelling k values := by
        simp [moreSpelling]
      have hcomma : (", ".toList : Text).length = 2 := rfl
      rw [hcons, List.length_append, List.length_append, List.length_append, hcomma,
        List.length_cons]
      omega

theorem inList_spelling (k : Nat) (field : String) {values : List Literal} (hne : values ≠ [])
    (h : ∀ value ∈ values, value.Printable) (rest : Text) :
    inList u field (' ' :: (listSpelling k values ++ rest)) = .ok (.isIn field values, rest) := by
  cases values with
  | nil => exact absurd rfl hne
  | cons value values =>
      have hmore := moreValues_spelling u k (fun v hv => h v (List.mem_cons_of_mem _ hv))
        (n := (moreSpelling k values ++ (List.replicate k ' ' ++ ')' :: rest)).length + 1)
        (by
          have hlength := length_values_le k values
          rw [List.length_append]
          omega) rest
      have hvalue := takeValue_spelling u (h value List.mem_cons_self)
        (boundary_moreSpelling k values rest)
      have htext : listSpelling k (value :: values) ++ rest =
          '(' :: (List.replicate k ' ' ++ (value.spelling ++
            (moreSpelling k values ++ (List.replicate k ' ' ++ ')' :: rest)))) := by
        simp [listSpelling, bracketed]
      have hskip := skip_of_not_space u (space_of_plain u (c := '(') rfl)
      rw [htext]
      simp only [inList, skip_blank, hskip, takeValue_blanks, hvalue, ok_bind, hmore]
      rfl

theorem comparison_inSpelling (k : Nat) {field : String} (hfield : field ∈ fieldNames)
    {values : List Literal} (hne : values ≠ []) (h : ∀ value ∈ values, value.Printable)
    (rest : Text) :
    comparison u (inSpelling k field values ++ rest) = .ok (.isIn field values, rest) := by
  have htext : inSpelling k field values ++ rest =
      field.toList ++ ' ' :: ("IN".toList ++ ' ' :: (listSpelling k values ++ rest)) := by
    simp [inSpelling]
  have hident := takeIdent_of_identifier u (fieldNames_identifier field hfield)
    ("IN".toList ++ ' ' :: (listSpelling k values ++ rest))
  have hkeyword : takeKeyword u "IN" ("IN".toList ++ ' ' :: (listSpelling k values ++ rest)) =
      some (' ' :: (listSpelling k values ++ rest)) :=
    takeKeyword_of_spelt u (by decide) (by decide) (by decide)
      ((boundary_cons (.inl rfl) _).alnum u)
  rw [htext]
  simp only [comparison, hident, ok_bind, takeKeyword_blank, hkeyword]
  exact inList_spelling u k field hne h rest

theorem comparison_cmpSpelling {field : String} (hfield : field ∈ fieldNames) (op : Comparator)
    {value : Literal} (h : value.Printable) {rest : Text} (hrest : Boundary rest) :
    comparison u (cmpSpelling field op value ++ rest) = .ok (.cmp field op value, rest) := by
  have htext : cmpSpelling field op value ++ rest =
      field.toList ++ ' ' :: (op.spelling ++ ' ' :: (value.spelling ++ rest)) := by
    simp [cmpSpelling]
  have hident := takeIdent_of_identifier u (fieldNames_identifier field hfield)
    (op.spelling ++ ' ' :: (value.spelling ++ rest))
  have hkeyword : takeKeyword u "IN" (op.spelling ++ ' ' :: (value.spelling ++ rest)) = none := by
    cases op <;> exact takeKeyword_of_apart u (by decide) (by decide) (by decide) _
  have hop := takeComparator_spelling u op (value.spelling ++ rest)
  have hvalue := takeValue_spelling u h hrest
  rw [htext]
  simp only [comparison, hident, ok_bind, takeKeyword_blank, hkeyword, hop, takeValue_blank, hvalue]
  rfl

end

end BlueTeam.BlueQL
