/- GID: BlueTeam/BlueQL/RoundTrip
   generality: I
   source: packages/blueql/blueteam_blueql/engine.py
   digest: Parsing a printed query gives the query back. -/

import BlueTeam.BlueQL.Printing

set_option autoImplicit false
set_option relaxedAutoImplicit false

namespace BlueTeam.BlueQL

open BlueTeam.Python BlueTeam.Schema BlueTeam.Lib

section

variable (u : Lexis)

/-! ### Blanks before an expression -/

theorem primary_blanks (n k : Nat) (text : Text) :
    primary u n (List.replicate k ' ' ++ text) = primary u n text := by
  cases n with
  | zero => rfl
  | succ n => simp only [primary, takeKeyword_blanks, skip_blanks]

theorem andExpr_blanks (n k : Nat) (text : Text) :
    andExpr u n (List.replicate k ' ' ++ text) = andExpr u n text := by
  cases n with
  | zero => rfl
  | succ n => simp only [andExpr, primary_blanks]

theorem orExpr_blanks (n k : Nat) (text : Text) :
    orExpr u n (List.replicate k ' ' ++ text) = orExpr u n text := by
  cases n with
  | zero => rfl
  | succ n => simp only [orExpr, andExpr_blanks]

/-! ### Expressions -/

theorem andLoop_stop {n : Nat} (hn : 0 < n) (pred : Pred) {rest : Text}
    (h : takeKeyword u "AND" rest = none) : andLoop u n pred rest = .ok (pred, rest) := by
  obtain ⟨n, rfl⟩ := Nat.exists_eq_succ_of_ne_zero (Nat.ne_of_gt hn)
  simp only [andLoop, h]

theorem orLoop_stop {n : Nat} (hn : 0 < n) (pred : Pred) {rest : Text}
    (h : takeKeyword u "OR" rest = none) : orLoop u n pred rest = .ok (pred, rest) := by
  obtain ⟨n, rfl⟩ := Nat.exists_eq_succ_of_ne_zero (Nat.ne_of_gt hn)
  simp only [orLoop, h]

/-- A field is no keyword that an expression or a query may begin with. -/
theorem takeKeyword_field {field word : String} (hfield : field ∈ fieldNames)
    (hword : word ∈ ["NOT", "FROM"]) (rest : Text) :
    takeKeyword u word (field.toList ++ rest) = none := by
  have happart : ∀ field ∈ fieldNames, ∀ word ∈ ["NOT", "FROM"],
      field.toList ≠ [] ∧ field.toList.all plain = true ∧ Apart word field.toList := by
    decide
  obtain ⟨hne, hplain, hapart⟩ := happart field hfield word hword
  exact takeKeyword_of_apart u hne hplain hapart rest

/-- What begins with a field is a comparison. -/
theorem primary_field {field : String} (hfield : field ∈ fieldNames) (n : Nat) (rest : Text) :
    primary u (n + 1) (field.toList ++ rest) = comparison u (field.toList ++ rest) := by
  have hstart : ∀ field ∈ fieldNames, field.toList ≠ [] ∧ field.toList.all plain = true ∧
      field.toList.head? ≠ some '(' := by
    decide
  obtain ⟨hne, hplain, hbracket⟩ := hstart field hfield
  have hnot := @takeKeyword_field u field "NOT" hfield (by simp) rest
  simp only [primary, hnot, skip_of_plain u hne hplain]
  split
  · rename_i text hcons
    cases hname : field.toList with
    | nil => exact absurd hname hne
    | cons c cs =>
        rw [hname] at hcons hbracket
        obtain rfl : c = '(' := (List.cons.inj hcons).1
        exact absurd rfl hbracket
  · rfl

/-- What parsing at a level makes of a text before `rest`, with `n` calls for it: the predicate, or a
loop that has it as its left operand. -/
def Reads (level : Level) (n : Nat) (text : Text) (pred : Pred) (rest : Text) : Prop :=
  match level with
  | .primary => primary u n (text ++ rest) = .ok (pred, rest)
  | .and => ∃ m, n ≤ m + text.length + 1 ∧ andExpr u n (text ++ rest) = andLoop u m pred rest
  | .or =>
      takeKeyword u "AND" rest = none →
        ∃ m, n ≤ m + text.length + 1 ∧ orExpr u n (text ++ rest) = orLoop u m pred rest

/-- How many calls a text takes at most. -/
def callsFor (level : Level) (text : Text) : Nat :=
  match level with
  | .primary => 3 * text.length + 1
  | .and => 3 * text.length + 2
  | .or => 3 * text.length + 3

/-- A closing bracket ends an expression. -/
theorem takeKeyword_close {word : String} (hword : word ∈ ["AND", "OR"]) (k : Nat) (rest : Text) :
    takeKeyword u word (List.replicate k ' ' ++ ')' :: rest) = none := by
  have happart : ∀ word ∈ ["AND", "OR"], Apart word [')'] := by decide
  rw [takeKeyword_blanks]
  exact @takeKeyword_of_apart u _ [')'] (by decide) (by decide) (happart word hword) rest

/-- A keyword between two blanks. -/
theorem takeKeyword_between {word : String} (hword : word ∈ ["AND", "OR", "FOLLOWED_BY", "WITHIN"])
    (rest : Text) :
    takeKeyword u word (' ' :: (word.toList ++ ' ' :: rest)) = some (' ' :: rest) := by
  have hspelt : ∀ word ∈ ["AND", "OR", "FOLLOWED_BY", "WITHIN"],
      word.toList ≠ [] ∧ word.toList.all plain = true ∧ word.toList.map Char.toUpper = word.toList := by
    decide
  obtain ⟨hne, hplain, hupper⟩ := hspelt word hword
  rw [takeKeyword_blank]
  exact takeKeyword_of_spelt u hne hplain hupper ((boundary_cons (.inl rfl) _).alnum u)

section

variable {n : Nat} {pred left right : Pred} {text a b rest : Text}

theorem reads_not (h : Reads u .primary n text pred rest) :
    Reads u .primary (n + 1) ("NOT ".toList ++ text) (.not pred) rest := by
  have htext : "NOT ".toList ++ text ++ rest = "NOT".toList ++ ' ' :: (text ++ rest) := by simp
  have hkeyword : takeKeyword u "NOT" ("NOT".toList ++ ' ' :: (text ++ rest)) =
      some (' ' :: (text ++ rest)) :=
    takeKeyword_of_spelt u (by decide) (by decide) (by decide)
      ((boundary_cons (.inl rfl) _).alnum u)
  have hread : primary u n (' ' :: (text ++ rest)) = .ok (pred, rest) :=
    (primary_blanks u n 1 (text ++ rest)).trans h
  simp only [Reads, htext, primary, hkeyword, hread, ok_bind]
  rfl

theorem reads_bracketed (k : Nat) (hn : text.length + 1 < n)
    (h : Reads u .or n text pred (List.replicate k ' ' ++ ')' :: rest)) :
    Reads u .primary (n + 1) (bracketed k text) pred rest := by
  obtain ⟨m, hm, hread⟩ := h (takeKeyword_close u (by simp) k rest)
  rw [orLoop_stop u (by omega) pred (takeKeyword_close u (by simp) k rest)] at hread
  have htext : bracketed k text ++ rest =
      '(' :: (List.replicate k ' ' ++ (text ++ (List.replicate k ' ' ++ ')' :: rest))) := by
    simp [bracketed]
  have hnot : takeKeyword u "NOT" ('(' :: (List.replicate k ' ' ++
      (text ++ (List.replicate k ' ' ++ ')' :: rest)))) = none :=
    @takeKeyword_of_apart u _ ['('] (by decide) (by decide) (by decide) _
  have hskip := skip_of_not_space u (space_of_plain u (c := '(') rfl)
  simp only [Reads, htext, primary, hnot, hskip, orExpr_blanks, hread, ok_bind, skip_close]
  rfl

theorem reads_of_primary (h : Reads u .primary n text pred rest) :
    Reads u .and (n + 1) text pred rest := by
  simp only [Reads] at h
  refine ⟨n, by omega, ?_⟩
  simp only [andExpr, h, ok_bind]

theorem reads_of_and (hn : text.length + 1 < n) (h : Reads u .and n text pred rest) :
    Reads u .or (n + 1) text pred rest := by
  intro hand
  obtain ⟨m, hm, hread⟩ := h
  refine ⟨n, by omega, ?_⟩
  simp only [orExpr, hread, andLoop_stop u (show 0 < m by omega) pred hand, ok_bind]

theorem reads_and (hleft : Reads u .and n a left (' ' :: ("AND".toList ++ ' ' :: (b ++ rest))))
    (hn : a.length + 1 < n)
    (hright : ∀ m, n ≤ m + a.length + 2 → Reads u .primary m b right rest) :
    Reads u .and n (a ++ " AND ".toList ++ b) (.and left right) rest := by
  obtain ⟨m, hm, hread⟩ := hleft
  obtain ⟨m, rfl⟩ : ∃ m', m = m' + 1 := ⟨m - 1, by omega⟩
  have htext : a ++ " AND ".toList ++ b ++ rest =
      a ++ ' ' :: ("AND".toList ++ ' ' :: (b ++ rest)) := by simp
  have hkeyword := @takeKeyword_between u "AND" (by simp) (b ++ rest)
  have hoperand : primary u m (' ' :: (b ++ rest)) = .ok (right, rest) :=
    (primary_blanks u m 1 (b ++ rest)).trans (hright m (by omega))
  have hlength : (a ++ " AND ".toList ++ b).length = a.length + 5 + b.length := by
    simp
    omega
  refine ⟨m, by omega, ?_⟩
  rw [htext, hread]
  simp only [andLoop, hkeyword, hoperand, ok_bind]

theorem reads_or (hleft : Reads u .or n a left (' ' :: ("OR".toList ++ ' ' :: (b ++ rest))))
    (hn : a.length + b.length + 3 < n)
    (hright : ∀ m, n ≤ m + a.length + 2 → Reads u .and m b right rest) :
    Reads u .or n (a ++ " OR ".toList ++ b) (.or left right) rest := by
  intro hand
  have hstop : takeKeyword u "AND" (' ' :: ("OR".toList ++ ' ' :: (b ++ rest))) = none := by
    rw [takeKeyword_blank]
    exact takeKeyword_of_apart u (by decide) (by decide) (by decide) _
  obtain ⟨m, hm, hread⟩ := hleft hstop
  obtain ⟨m, rfl⟩ : ∃ m', m = m' + 1 := ⟨m - 1, by omega⟩
  obtain ⟨m', hm', hoperand⟩ := hright m (by omega)
  have htext : a ++ " OR ".toList ++ b ++ rest =
      a ++ ' ' :: ("OR".toList ++ ' ' :: (b ++ rest)) := by simp
  have hkeyword := @takeKeyword_between u "OR" (by simp) (b ++ rest)
  have hblank : andExpr u m (' ' :: (b ++ rest)) = .ok (right, rest) := by
    refine (andExpr_blanks u m 1 (b ++ rest)).trans (hoperand.trans ?_)
    exact andLoop_stop u (by omega) right hand
  have hlength : (a ++ " OR ".toList ++ b).length = a.length + 4 + b.length := by
    simp
    omega
  refine ⟨m, by omega, ?_⟩
  rw [htext, hread]
  simp only [orLoop, hkeyword, hblank, ok_bind]

end

theorem Spells.reads {k : Nat} {level : Level} {pred : Pred} {text : Text}
    (h : Spells k level pred text) {n : Nat} (hn : callsFor level text ≤ n) {rest : Text}
    (hrest : Boundary rest) : Reads u level n text pred rest := by
  have hblank : ∀ text, Boundary (' ' :: text) := boundary_cons (.inl rfl)
  induction h generalizing n rest with
  | @isIn field values hfield hvalues h =>
      obtain ⟨n, rfl⟩ : ∃ m, n = m + 1 := ⟨n - 1, by simp only [callsFor] at hn; omega⟩
      have hread := comparison_inSpelling u k hfield hvalues h rest
      unfold inSpelling at hread
      simp only [Reads, inSpelling, List.append_assoc] at hread ⊢
      rw [primary_field u hfield]
      exact hread
  | @cmp field op value hfield h =>
      obtain ⟨n, rfl⟩ : ∃ m, n = m + 1 := ⟨n - 1, by simp only [callsFor] at hn; omega⟩
      have hread := comparison_cmpSpelling u hfield op h hrest
      simp only [Reads, cmpSpelling, List.append_assoc, List.cons_append] at hread ⊢
      rw [primary_field u hfield]
      exact hread
  | @not pred text h ih =>
      have hlength : ("NOT ".toList ++ text).length = text.length + 4 := by simp
      simp only [callsFor, hlength] at hn ih
      obtain ⟨n, rfl⟩ : ∃ m, n = m + 1 := ⟨n - 1, by omega⟩
      exact reads_not u (ih (by omega) hrest)
  | @bracketed pred text h ih =>
      have hlength : text.length + 2 ≤ (BlueQL.bracketed k text).length := by
        simp only [BlueQL.bracketed, List.length_cons, List.length_append, List.length_nil]
        omega
      simp only [callsFor] at hn ih
      obtain ⟨n, rfl⟩ : ∃ m, n = m + 1 := ⟨n - 1, by omega⟩
      refine reads_bracketed u k (by omega) (ih (by omega) ?_)
      exact (boundary_cons (.inr (.inl rfl)) rest).blanks k
  | @primary pred text h ih =>
      simp only [callsFor] at hn ih
      obtain ⟨n, rfl⟩ : ∃ m, n = m + 1 := ⟨n - 1, by omega⟩
      exact reads_of_primary u (ih (by omega) hrest)
  | @and left right a b hleft hright ihleft ihright =>
      have hlength : (a ++ " AND ".toList ++ b).length = a.length + 5 + b.length := by
        simp
        omega
      simp only [callsFor, hlength] at hn ihleft ihright
      refine reads_and u (ihleft (by omega) (hblank _)) (by omega) fun m hm => ?_
      exact ihright (by omega) hrest
  | @level pred text h ih =>
      simp only [callsFor] at hn ih
      obtain ⟨n, rfl⟩ : ∃ m, n = m + 1 := ⟨n - 1, by omega⟩
      exact reads_of_and u (by omega) (ih (by omega) hrest)
  | @or left right a b hleft hright ihleft ihright =>
      have hlength : (a ++ " OR ".toList ++ b).length = a.length + 4 + b.length := by
        simp
        omega
      simp only [callsFor, hlength] at hn ihleft ihright
      refine reads_or u (ihleft (by omega) (hblank _)) (by omega) fun m hm => ?_
      exact ihright (by omega) hrest

/-! ### Queries -/

/-- What may stand behind an expression of a query. -/
structure Closes (rest : Text) : Prop where
  boundary : Boundary rest
  andWord : takeKeyword u "AND" rest = none
  orWord : takeKeyword u "OR" rest = none

variable {u}

theorem Spells.parsed {k : Nat} {pred : Pred} {text : Text} (h : Spells k .or pred text) {n : Nat}
    (hn : 3 * text.length + 3 ≤ n) {rest : Text} (hrest : Closes u rest) :
    orExpr u n (text ++ rest) = .ok (pred, rest) := by
  obtain ⟨m, hm, hread⟩ := h.reads u hn hrest.boundary hrest.andWord
  rw [hread, orLoop_stop u (by omega) pred hrest.orWord]

variable (u)

theorem closes_nil : Closes u [] where
  boundary := boundary_nil
  andWord := takeKeyword_nil u (by decide)
  orWord := takeKeyword_nil u (by decide)

theorem closes_keyword {word : String} (hword : word ∈ ["FOLLOWED_BY", "WITHIN"]) (rest : Text) :
    Closes u (' ' :: (word.toList ++ ' ' :: rest)) := by
  have hspelt : ∀ word ∈ ["FOLLOWED_BY", "WITHIN"], word.toList ≠ [] ∧
      word.toList.all plain = true ∧ Apart "AND" word.toList ∧ Apart "OR" word.toList := by
    decide
  obtain ⟨hne, hplain, hand, hor⟩ := hspelt word hword
  refine ⟨boundary_cons (.inl rfl) _, ?_, ?_⟩
  · rw [takeKeyword_blank]
    exact takeKeyword_of_apart u hne hplain hand _
  · rw [takeKeyword_blank]
    exact takeKeyword_of_apart u hne hplain hor _

section

variable {k : Nat} {print : Pred → Text}

theorem stepsSpelling_cons (step : Pred) (steps : List Pred) (rest : Text) :
    stepsSpelling print (step :: steps) ++ rest =
      ' ' :: ("FOLLOWED_BY".toList ++ ' ' :: (print step ++ (stepsSpelling print steps ++ rest))) := by
  simp [stepsSpelling]

theorem closes_steps (steps : List Pred) {rest : Text} (hrest : Closes u rest) :
    Closes u (stepsSpelling print steps ++ rest) := by
  cases steps with
  | nil => exact hrest
  | cons step steps =>
      rw [stepsSpelling_cons]
      exact closes_keyword u (by simp) _

theorem followedBy_spelling {steps : List Pred} (h : ∀ step ∈ steps, Spells k .or step (print step))
    {n : Nat} (hn : 3 * (stepsSpelling print steps).length < n) {rest : Text}
    (hrest : Closes u rest) (hend : takeKeyword u "FOLLOWED_BY" rest = none) :
    followedBy u n (stepsSpelling print steps ++ rest) = .ok (steps, rest) := by
  induction steps generalizing n with
  | nil =>
      obtain ⟨n, rfl⟩ : ∃ m, n = m + 1 := ⟨n - 1, by omega⟩
      simp only [stepsSpelling, List.flatMap_nil, List.nil_append, followedBy, hend]
  | cons step steps ih =>
      obtain ⟨n, rfl⟩ : ∃ m, n = m + 1 := ⟨n - 1, by omega⟩
      have hlength : (stepsSpelling print (step :: steps)).length =
          13 + (print step).length + (stepsSpelling print steps).length := by
        simp [stepsSpelling]
        omega
      have hkeyword := @takeKeyword_between u "FOLLOWED_BY" (by simp)
        (print step ++ (stepsSpelling print steps ++ rest))
      have hstep : orExpr u n (' ' :: (print step ++ (stepsSpelling print steps ++ rest))) =
          .ok (step, stepsSpelling print steps ++ rest) :=
        (orExpr_blanks u n 1 _).trans
          ((h step List.mem_cons_self).parsed (by omega) (closes_steps u steps hrest))
      have hsteps := ih (fun s hs => h s (List.mem_cons_of_mem _ hs)) (n := n) (by omega)
      rw [stepsSpelling_cons]
      simp only [followedBy, hkeyword, hstep, ok_bind, hsteps]
      rfl

end

theorem withinSpelling_some (seconds : Nat) :
    withinSpelling (some seconds) =
      ' ' :: ("WITHIN".toList ++ ' ' :: (Nat.toDigits 10 seconds ++ ['s'])) := by
  show " WITHIN ".toList ++ Nat.toDigits 10 seconds ++ ['s'] = _
  generalize Nat.toDigits 10 seconds = digits
  rw [List.append_assoc]
  rfl

theorem takeDuration_seconds (n : Nat) :
    takeDuration u (' ' :: (Nat.toDigits 10 n ++ ['s'])) = .ok (n, []) := by
  obtain ⟨c, cs, hdigits, hc⟩ := toDigits_cons n
  have hall : (Nat.toDigits 10 n).all plain = true :=
    List.all_eq_true.mpr fun c hc => plain_of_isDigit (isDigit_of_mem_toDigits hc)
  have hskip := skip_of_plain u Nat.toDigits_ne_nil hall ['s']
  obtain ⟨htake, hdrop⟩ := @takeWhile_append_of_stop u.isDigit (Nat.toDigits 10 n)
    ['s'] (fun c hc => by
      unfold Lexis.isDigit
      rw [digit_of_isDigit u (isDigit_of_mem_toDigits hc)]
      rfl) (by
      intro c hc
      obtain rfl : 's' = c := Option.some.inj hc
      simp [Lexis.isDigit, Lexis.digit])
  have hne : (Nat.toDigits 10 n).isEmpty = false := by rw [hdigits]; rfl
  simp only [takeDuration, skip_blank, hskip, htake, hdrop, hne, Bool.false_eq_true, if_false,
    number_toDigits]

theorem closes_within (within : Option Nat) :
    Closes u (withinSpelling within) ∧ takeKeyword u "FOLLOWED_BY" (withinSpelling within) = none := by
  cases within with
  | none => exact ⟨closes_nil u, takeKeyword_nil u (by decide)⟩
  | some seconds =>
      rw [withinSpelling_some]
      refine ⟨closes_keyword u (by simp) _, ?_⟩
      rw [takeKeyword_blank]
      exact takeKeyword_of_apart u (by decide) (by decide) (by decide) _

section

variable {k : Nat} {print : Pred → Text}

theorem stepsQuery_spelling (within : Option Nat) {first : Pred} {more : List Pred}
    (hfirst : Spells k .or first (print first)) (hmore : ∀ step ∈ more, Spells k .or step (print step))
    {n : Nat}
    (hn : 3 * (print first ++ (stepsSpelling print more ++ withinSpelling within)).length + 3 ≤ n) :
    stepsQuery u n (print first ++ (stepsSpelling print more ++ withinSpelling within)) =
      .ok (.steps within first more, []) := by
  obtain ⟨hcloses, hend⟩ := closes_within u within
  rw [List.length_append, List.length_append] at hn
  have hclosed : Closes u (stepsSpelling print more ++ withinSpelling within) :=
    closes_steps u more hcloses
  have hread := hfirst.parsed (n := n) (by omega) hclosed
  have hsteps := followedBy_spelling u hmore (n := n) (by omega) hcloses hend
  simp only [stepsQuery, hread, hsteps, ok_bind]
  cases within with
  | none =>
      have hstop : takeKeyword u "WITHIN" (withinSpelling none) = none :=
        takeKeyword_nil u (by decide)
      simp only [hstop]
      rfl
  | some seconds =>
      have hkeyword := @takeKeyword_between u "WITHIN" (by simp)
        (Nat.toDigits 10 seconds ++ ['s'])
      rw [withinSpelling_some]
      simp only [hkeyword, takeDuration_seconds, ok_bind]
      rfl

theorem entityQuery_spelling {name : String} (hname : identifier name) {pred : Pred}
    (h : Spells k .or pred (print pred)) {n : Nat} (hn : 3 * (print pred).length + 3 ≤ n) :
    entityQuery u n (' ' :: (name.toList ++ ' ' :: ("WHERE".toList ++ ' ' :: print pred))) =
      .ok (.entity name pred, []) := by
  have hident : takeIdent u (' ' :: (name.toList ++ ' ' :: ("WHERE".toList ++ ' ' :: print pred))) =
      .ok (name, ' ' :: ("WHERE".toList ++ ' ' :: print pred)) :=
    (takeIdent_blanks u 1 _).trans (takeIdent_of_identifier u hname _)
  have hkeyword : takeKeyword u "WHERE" (' ' :: ("WHERE".toList ++ ' ' :: print pred)) =
      some (' ' :: print pred) := by
    rw [takeKeyword_blank]
    exact takeKeyword_of_spelt u (by decide) (by decide) (by decide)
      ((boundary_cons (.inl rfl) _).alnum u)
  have hpred : orExpr u n (' ' :: print pred) = .ok (pred, []) := by
    refine (orExpr_blanks u n 1 _).trans ?_
    have hread := h.parsed hn (closes_nil u)
    rwa [List.append_nil] at hread
  simp only [entityQuery, hident, hkeyword, hpred, ok_bind]
  rfl

/-- An expression does not begin like an entity query. -/
theorem Spells.not_from {level : Level} {pred : Pred} {text : Text} (h : Spells k level pred text)
    (rest : Text) : takeKeyword u "FROM" (text ++ rest) = none := by
  induction h generalizing rest with
  | isIn hfield _ _ =>
      rw [inSpelling, List.append_assoc, List.append_assoc]
      exact takeKeyword_field u hfield (by simp) _
  | cmp hfield _ =>
      rw [cmpSpelling, List.append_assoc, List.append_assoc]
      exact takeKeyword_field u hfield (by simp) _
  | not _ _ =>
      rw [List.append_assoc]
      exact @takeKeyword_of_apart u _ ['N', 'O', 'T'] (by decide) (by decide) (by decide) _
  | bracketed _ _ => exact @takeKeyword_of_apart u _ ['('] (by decide) (by decide) (by decide) _
  | primary _ ih => exact ih rest
  | and _ _ ih _ =>
      rw [List.append_assoc, List.append_assoc]
      exact ih _
  | level _ ih => exact ih rest
  | or _ _ ih _ =>
      rw [List.append_assoc, List.append_assoc]
      exact ih _

end

end

/-! ### The whole text -/

/-- The text ends with a visible character. -/
def Ending (text : Text) : Prop :=
  ∃ init c, text = init ++ [c] ∧ plain c = true

theorem Ending.after {text : Text} (h : Ending text) (before : Text) : Ending (before ++ text) := by
  obtain ⟨init, c, rfl, hc⟩ := h
  exact ⟨before ++ init, c, by rw [List.append_assoc], hc⟩

theorem Ending.cons {text : Text} (h : Ending text) (c : Char) : Ending (c :: text) :=
  h.after [c]

theorem ending_toDigits (n : Nat) : Ending (Nat.toDigits 10 n) := by
  rcases List.eq_nil_or_concat (Nat.toDigits 10 n) with hnil | ⟨init, c, hdigits⟩
  · exact absurd hnil Nat.toDigits_ne_nil
  · refine ⟨init, c, by simpa using hdigits, plain_of_isDigit (isDigit_of_mem_toDigits (n := n) ?_)⟩
    rw [hdigits]
    simp

theorem ending_value {value : Literal} (h : value.Printable) : Ending value.spelling := by
  cases value with
  | str s => exact Ending.cons ⟨s.toList, '"', rfl, rfl⟩ '"'
  | bool b =>
      cases b with
      | true => exact ⟨"tru".toList, 'e', rfl, rfl⟩
      | false => exact ⟨"fals".toList, 'e', rfl, rfl⟩
  | int i =>
      cases i with
      | ofNat n =>
          have htext : (Literal.int (Int.ofNat n)).spelling = Nat.toDigits 10 n := Nat.toList_repr
          rw [htext]
          exact ending_toDigits n
      | negSucc n =>
          have hrepr : (Literal.int (Int.negSucc n)).spelling = "-".toList ++ (n + 1).repr.toList :=
            String.toList_append
          rw [hrepr, Nat.toList_repr]
          exact (ending_toDigits (n + 1)).after _
  | float value text => exact absurd h id

theorem ending_bracketed (k : Nat) (text : Text) : Ending (bracketed k text) :=
  ⟨'(' :: (List.replicate k ' ' ++ text ++ List.replicate k ' '), ')', rfl, rfl⟩

section

variable {k : Nat} {level : Level} {pred : Pred} {text : Text} {print : Pred → Text}

theorem Spells.ending (h : Spells k level pred text) : Ending text := by
  induction h with
  | @isIn field values _ hvalues _ =>
      cases values with
      | nil => exact absurd rfl hvalues
      | cons value values => exact (ending_bracketed k _).after _
  | cmp _ h => exact ((ending_value h).cons ' ').after _
  | not _ ih => exact ih.after _
  | bracketed _ _ => exact ending_bracketed k _
  | primary _ ih => exact ih
  | and _ _ _ ih => exact ih.after _
  | level _ ih => exact ih
  | or _ _ _ ih => exact ih.after _

/-- An expression begins with a visible character. -/
theorem Spells.skip_eq (u : Lexis) (h : Spells k level pred text) (rest : Text) :
    skip u (text ++ rest) = text ++ rest := by
  have hfields : ∀ field ∈ fieldNames, field.toList ≠ [] ∧ field.toList.all plain = true := by decide
  induction h generalizing rest with
  | isIn hfield _ _ =>
      obtain ⟨hne, hplain⟩ := hfields _ hfield
      rw [inSpelling, List.append_assoc, List.append_assoc]
      exact skip_of_plain u hne hplain _
  | cmp hfield _ =>
      obtain ⟨hne, hplain⟩ := hfields _ hfield
      rw [cmpSpelling, List.append_assoc, List.append_assoc]
      exact skip_of_plain u hne hplain _
  | not _ _ =>
      rw [List.append_assoc]
      exact @skip_of_plain u ['N', 'O', 'T'] (by decide) (by decide) _
  | bracketed _ _ => exact @skip_of_plain u ['('] (by decide) (by decide) _
  | primary _ ih => exact ih rest
  | and _ _ ih _ =>
      rw [List.append_assoc, List.append_assoc]
      exact ih _
  | level _ ih => exact ih rest
  | or _ _ ih _ =>
      rw [List.append_assoc, List.append_assoc]
      exact ih _

theorem strip_eq (u : Lexis) {text : Text} (hskip : skip u text = text) (hending : Ending text) :
    strip u text = text := by
  obtain ⟨init, c, rfl, hc⟩ := hending
  unfold strip
  unfold skip at hskip
  rw [hskip]
  exact List.rdropWhile_concat_neg _ _ _ (by simp [space_of_plain u hc])

theorem ending_steps {steps : List Pred} (hsteps : ∀ step ∈ steps, Ending (print step))
    {text : Text} (h : Ending text) : Ending (text ++ stepsSpelling print steps) := by
  induction steps generalizing text with
  | nil => rwa [stepsSpelling, List.flatMap_nil, List.append_nil]
  | cons step steps ih =>
      have hstep : Ending (text ++ (" FOLLOWED_BY ".toList ++ print step)) :=
        ((hsteps step List.mem_cons_self).after _).after text
      have hrest := ih (fun s hs => hsteps s (List.mem_cons_of_mem _ hs)) hstep
      rwa [List.append_assoc] at hrest

theorem ending_within {text : Text} (h : Ending text) (within : Option Nat) :
    Ending (text ++ withinSpelling within) := by
  cases within with
  | none =>
      show Ending (text ++ [])
      rwa [List.append_nil]
  | some seconds =>
      have hlast : Ending ['s'] := ⟨[], 's', rfl, rfl⟩
      exact (hlast.after _).after text

/-- Parsing undoes any printing that spells the predicates. -/
theorem parse_spelling (u : Lexis) {q : Query} (hq : q.Printable)
    (hprint : ∀ pred : Pred, pred.Printable → Spells k .or pred (print pred))
    (hclean : Clean (String.ofList (q.spelling print))) :
    parse u (String.ofList (q.spelling print)) = .ok q := by
  have hparts : strip u (q.spelling print) = q.spelling print ∧
      rootQuery u (3 * (q.spelling print).length + 3) (q.spelling print) = .ok (q, []) := by
    cases q with
    | entity name pred =>
        have hpred := hprint pred hq.2
        have hkeyword : takeKeyword u "FROM" ((Query.entity name pred).spelling print) =
            some (' ' :: (name.toList ++ ' ' :: ("WHERE".toList ++ ' ' :: print pred))) :=
          takeKeyword_of_spelt u (by decide) (by decide) (by decide)
            ((boundary_cons (.inl rfl) _).alnum u)
        have hlength : (print pred).length ≤ ((Query.entity name pred).spelling print).length := by
          simp only [Query.spelling, List.length_append, List.length_cons]
          omega
        refine ⟨strip_eq u (skip_of_plain u (by decide) (by decide) _) ?_, ?_⟩
        · exact ((((hpred.ending.cons ' ').after _).cons ' ').after _).cons ' ' |>.after _
        · simp only [rootQuery, hkeyword]
          exact entityQuery_spelling u hq.1 hpred (by omega)
    | steps within first more =>
        have hfirst := hprint first hq.1
        have hmore : ∀ step ∈ more, Spells k .or step (print step) :=
          fun step hstep => hprint step (hq.2 step hstep)
        refine ⟨strip_eq u (hfirst.skip_eq u _) ?_, ?_⟩
        · have hsteps := ending_steps (fun step hstep => (hmore step hstep).ending) hfirst.ending
          have hwithin := ending_within hsteps within
          rwa [List.append_assoc] at hwithin
        · simp only [rootQuery, Query.spelling, hfirst.not_from u]
          exact stepsQuery_spelling u within hfirst hmore (Nat.le_refl _)
  obtain ⟨hstrip, hroot⟩ := hparts
  unfold parse
  rw [if_neg (by rw [hclean]; exact Bool.false_ne_true), String.toList_ofList, hstrip]
  simp only [hroot, ok_bind, skip_nil]
  rfl

/-- Parsing undoes printing, with all brackets and with no redundant ones. -/
theorem parse_printed (u : Lexis) (k : Nat) (q : Query) (hq : q.Printable) :
    (Clean (q.fully k) → parse u (q.fully k) = .ok q) ∧
      (Clean (q.sparsely k) → parse u (q.sparsely k) = .ok q) := by
  constructor
  · exact parse_spelling u hq fun _ hpred => spells_fully k hpred
  · exact parse_spelling u hq fun _ hpred => spells_sparsely k hpred .or

end

def sampleQuery : Query :=
  .steps (some 600)
    (.and (.cmp "process.name" .eq (.str "powershell.exe"))
      (.not (.or (.isIn "parent.name" [.str "winword.exe", .bool true]) (.cmp "src_ip" .ne (.int (-1))))))
    [.cmp "privilege.change" .eq (.bool true)]

theorem parse_printed_sample :
    parse sampleLexis (sampleQuery.fully 0) = .ok sampleQuery ∧
      parse sampleLexis (sampleQuery.sparsely 1) = .ok sampleQuery := by
  have hprintable : sampleQuery.Printable := by decide
  exact ⟨(parse_printed sampleLexis 0 sampleQuery hprintable).1 (by decide +kernel),
    (parse_printed sampleLexis 1 sampleQuery hprintable).2 (by decide +kernel)⟩

end BlueTeam.BlueQL
