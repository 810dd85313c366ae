/- GID: BlueTeam/BlueQL/Errors
   generality: I
   source: packages/blueql/blueteam_blueql/engine.py
   digest: Which exceptions leave a hunting query. -/

import BlueTeam.BlueQL.Parser
import BlueTeam.BlueQL.Sequence

set_option autoImplicit false
set_option relaxedAutoImplicit false

namespace BlueTeam.BlueQL

open BlueTeam.Python BlueTeam.Schema BlueTeam.Lib

/-! ### Predicates -/

/-- One of the two is a text and the other a number or a truth value. -/
def Unlike : Observed → Literal → Prop
  | .none, _ => False
  | .str _, value => ∀ s, value ≠ .str s
  | _, value => ∃ s, value = .str s

/-- A comparison of order between values that have none. -/
def Clashes (event : CanonicalEvent) : Pred → Prop
  | .cmp field op value =>
      op ≠ .eq ∧ op ≠ .ne ∧
        ∃ observed, fieldValue event field = .ok observed ∧ Unlike observed value
  | _ => False

/-- The parts of a predicate that its evaluation comes to. -/
inductive Reaches (rt : Runtime) (event : CanonicalEvent) : Pred → Pred → Prop
  | self (pred : Pred) : Reaches rt event pred pred
  | andLeft {left right part : Pred} (h : Reaches rt event left part) :
      Reaches rt event (.and left right) part
  | andRight {left right part : Pred} (hleft : evalPred rt left event = .ok true)
      (h : Reaches rt event right part) : Reaches rt event (.and left right) part
  | orLeft {left right part : Pred} (h : Reaches rt event left part) :
      Reaches rt event (.or left right) part
  | orRight {left right part : Pred} (hleft : evalPred rt left event = .ok false)
      (h : Reaches rt event right part) : Reaches rt event (.or left right) part
  | not {pred part : Pred} (h : Reaches rt event pred part) : Reaches rt event (.not pred) part

/-- The evaluation comes to a comparison that clashes. -/
def ClashesIn (rt : Runtime) (pred : Pred) (event : CanonicalEvent) : Prop :=
  ∃ part, Reaches rt event pred part ∧ Clashes event part

section

variable {rt : Runtime} {event : CanonicalEvent} {pred left right : Pred} {e : QueryExn}

theorem ordered_error_iff {texts : String → String → Bool} {numbers : PyFloat → PyFloat → Bool}
    {observed : Observed} {value : Literal} (h : observed ≠ .none) :
    ordered texts numbers observed value = .error e ↔
      Unlike observed value ∧ e = .python .typeError := by
  cases observed with
  | none => exact absurd rfl h
  | str s => cases value <;> simp [ordered, Unlike, Observed.number, eq_comm]
  | bool b => cases value <;> simp [ordered, Unlike, Observed.number, Literal.number, eq_comm]
  | int i => cases value <;> simp [ordered, Unlike, Observed.number, Literal.number, eq_comm]

theorem compare_error_iff {observed : Observed} {op : Comparator} {value : Literal} :
    compare rt observed op value = .error e ↔
      op ≠ .eq ∧ op ≠ .ne ∧ Unlike observed value ∧ e = .python .typeError := by
  by_cases hnone : observed = .none
  · subst hnone
    cases op <;> simp [compare, Unlike]
  · cases op <;> simp [compare, hnone, ordered_error_iff hnone]

theorem evalPred_and_error_iff :
    evalPred rt (.and left right) event = .error e ↔
      evalPred rt left event = .error e ∨
        evalPred rt left event = .ok true ∧ evalPred rt right event = .error e := by
  rw [evalPred]
  rcases hleft : evalPred rt left event with e' | _ | _ <;> simp [bind, Except.bind, pure, Except.pure]

theorem evalPred_or_error_iff :
    evalPred rt (.or left right) event = .error e ↔
      evalPred rt left event = .error e ∨
        evalPred rt left event = .ok false ∧ evalPred rt right event = .error e := by
  rw [evalPred]
  rcases hleft : evalPred rt left event with e' | _ | _ <;> simp [bind, Except.bind, pure, Except.pure]

theorem evalPred_not_error_iff :
    evalPred rt (.not pred) event = .error e ↔ evalPred rt pred event = .error e := by
  rw [evalPred]
  rcases hpred : evalPred rt pred event with e' | _ <;> simp [bind, Except.bind, pure, Except.pure]

theorem clashesIn_and :
    ClashesIn rt (.and left right) event ↔
      ClashesIn rt left event ∨ evalPred rt left event = .ok true ∧ ClashesIn rt right event := by
  constructor
  · rintro ⟨part, hreach, hclash⟩
    cases hreach with
    | self => exact hclash.elim
    | andLeft h => exact .inl ⟨part, h, hclash⟩
    | andRight hleft h => exact .inr ⟨hleft, part, h, hclash⟩
  · rintro (⟨part, h, hclash⟩ | ⟨hleft, part, h, hclash⟩)
    · exact ⟨part, .andLeft h, hclash⟩
    · exact ⟨part, .andRight hleft h, hclash⟩

theorem clashesIn_or :
    ClashesIn rt (.or left right) event ↔
      ClashesIn rt left event ∨ evalPred rt left event = .ok false ∧ ClashesIn rt right event := by
  constructor
  · rintro ⟨part, hreach, hclash⟩
    cases hreach with
    | self => exact hclash.elim
    | orLeft h => exact .inl ⟨part, h, hclash⟩
    | orRight hleft h => exact .inr ⟨hleft, part, h, hclash⟩
  · rintro (⟨part, h, hclash⟩ | ⟨hleft, part, h, hclash⟩)
    · exact ⟨part, .orLeft h, hclash⟩
    · exact ⟨part, .orRight hleft h, hclash⟩

theorem clashesIn_not : ClashesIn rt (.not pred) event ↔ ClashesIn rt pred event := by
  constructor
  · rintro ⟨part, hreach, hclash⟩
    cases hreach with
    | self => exact hclash.elim
    | not h => exact ⟨part, h, hclash⟩
  · rintro ⟨part, h, hclash⟩
    exact ⟨part, .not h, hclash⟩

theorem fieldValue_error {field : String} (h : fieldValue event field = .error e) :
    ∃ message, e = .blueQLError message := by
  unfold fieldValue at h
  split at h
  case h_14 => exact ⟨_, (Except.error.inj h).symm⟩
  all_goals cases h

/-- Evaluating a predicate raises `BlueQLError`, or the `TypeError` of a comparison that clashes. -/
theorem evalPred_error (h : evalPred rt pred event = .error e) :
    (∃ message, e = .blueQLError message) ∨ e = .python .typeError := by
  induction pred with
  | and left right hleft hright =>
      rcases evalPred_and_error_iff.mp h with h | ⟨-, h⟩
      · exact hleft h
      · exact hright h
  | or left right hleft hright =>
      rcases evalPred_or_error_iff.mp h with h | ⟨-, h⟩
      · exact hleft h
      · exact hright h
  | not pred ih => exact ih (evalPred_not_error_iff.mp h)
  | isIn field values =>
      rcases except_error_of_bind h with hfield | ⟨observed, -, h⟩
      · exact .inl (fieldValue_error hfield)
      · cases h
  | cmp field op value =>
      rcases except_error_of_bind h with hfield | ⟨observed, -, h⟩
      · exact .inl (fieldValue_error hfield)
      · exact .inr (compare_error_iff.mp h).2.2.2

theorem evalPred_typeError_iff :
    evalPred rt pred event = .error (.python .typeError) ↔ ClashesIn rt pred event := by
  induction pred with
  | and left right hleft hright =>
      rw [evalPred_and_error_iff, clashesIn_and, hleft, hright]
  | or left right hleft hright =>
      rw [evalPred_or_error_iff, clashesIn_or, hleft, hright]
  | not pred ih => rw [evalPred_not_error_iff, clashesIn_not, ih]
  | isIn field values =>
      constructor
      · intro h
        rcases except_error_of_bind h with hfield | ⟨observed, -, h⟩
        · obtain ⟨message, hmessage⟩ := fieldValue_error hfield
          cases hmessage
        · cases h
      · rintro ⟨part, hreach, hclash⟩
        cases hreach
        exact hclash.elim
  | cmp field op value =>
      constructor
      · intro h
        rcases except_error_of_bind h with hfield | ⟨observed, hobserved, h⟩
        · obtain ⟨message, hmessage⟩ := fieldValue_error hfield
          cases hmessage
        · obtain ⟨heq, hne, hunlike, -⟩ := compare_error_iff.mp h
          exact ⟨_, .self _, heq, hne, observed, hobserved, hunlike⟩
      · rintro ⟨part, hreach, hclash⟩
        cases hreach
        obtain ⟨heq, hne, observed, hobserved, hunlike⟩ := hclash
        rw [evalPred, hobserved]
        exact compare_error_iff.mpr ⟨heq, hne, hunlike, rfl⟩

/-! ### Queries -/

/-- The first of the events whose evaluation fails meets a comparison that clashes. -/
def FirstClashes (rt : Runtime) (pred : Pred) (events : List CanonicalEvent) : Prop :=
  ∃ before event after, events = before ++ event :: after ∧
    (∀ x ∈ before, ¬ Fails (evalPred rt) pred x) ∧ ClashesIn rt pred event

theorem matching_error_iff {events : List CanonicalEvent} :
    matching rt pred events = .error e ↔
      ∃ before event after, events = before ++ event :: after ∧
        (∀ x ∈ before, ¬ Fails (evalPred rt) pred x) ∧ evalPred rt pred event = .error e := by
  induction events with
  | nil =>
      constructor
      · intro h
        cases h
      · rintro ⟨before, event, after, hsplit, -⟩
        cases before <;> cases hsplit
  | cons x events ih =>
      constructor
      · intro h
        rcases except_error_of_bind h with hx | ⟨holds, hx, h⟩
        · exact ⟨[], x, events, rfl, by simp, hx⟩
        · rcases except_error_of_bind h with hrest | ⟨rest, -, h⟩
          · obtain ⟨before, event, after, rfl, hbefore, hevent⟩ := ih.mp hrest
            refine ⟨x :: before, event, after, rfl, ?_, hevent⟩
            intro y hy
            rcases List.mem_cons.mp hy with rfl | hy
            · rintro ⟨e', he'⟩
              rw [hx] at he'
              cases he'
            · exact hbefore y hy
          · cases h
      · rintro ⟨before, event, after, hsplit, hbefore, hevent⟩
        rw [matching]
        cases before with
        | nil =>
            obtain ⟨rfl, rfl⟩ := List.cons.inj hsplit
            rw [hevent]
            rfl
        | cons y before =>
            obtain ⟨rfl, rfl⟩ := List.cons.inj hsplit
            have hrest := ih.mpr
              ⟨before, event, after, rfl, fun z hz => hbefore z (List.mem_cons_of_mem _ hz), hevent⟩
            cases hx : evalPred rt pred x with
            | error e' => exact absurd ⟨e', hx⟩ (hbefore x List.mem_cons_self)
            | ok holds =>
                rw [hrest]
                rfl

/-- In the order in which a query is executed, the first comparison that fails clashes. -/
def Query.Clashes (rt : Runtime) (events : List CanonicalEvent) : Query → Prop
  | .entity _ pred => FirstClashes rt pred events
  | .steps _ first [] => FirstClashes rt first events
  | .steps within first (second :: more) =>
      Raises (evalPred rt) (inWindow (windowOf within)) (ClashesIn rt) first (second :: more)
        (timeline events)

theorem matching_error {events : List CanonicalEvent} (h : matching rt pred events = .error e) :
    (∃ message, e = .blueQLError message) ∨ e = .python .typeError := by
  obtain ⟨before, event, after, -, -, hevent⟩ := matching_error_iff.mp h
  exact evalPred_error hevent

theorem executeSequence_error_iff {within : Option Nat} {first : Pred} {more : List Pred}
    {events : List CanonicalEvent} (hcomparable : Comparable events) :
    executeSequence rt within first more events = .error e ↔
      Raises (evalPred rt) (inWindow (windowOf within)) (fun step a => evalPred rt step a = .error e)
        first more (timeline events) := by
  rw [executeSequence_eq hcomparable,
    ← allChains_error_iff (sorted_timeline (windowOf within) events)]
  cases allChains (evalPred rt) (inWindow (windowOf within)) first more (timeline events) <;>
    simp [Except.map]

theorem Query.execute_error {q : Query} {events : List CanonicalEvent}
    (hcomparable : Comparable events) (h : q.execute rt events = .error e) :
    (∃ message, e = .blueQLError message) ∨ e = .python .typeError := by
  cases q with
  | entity name pred => exact matching_error h
  | steps within first more =>
      cases more with
      | nil => exact matching_error h
      | cons second more =>
          obtain ⟨_, _, hbad⟩ := Raises.exists_bad ((executeSequence_error_iff hcomparable).mp h)
          exact evalPred_error hbad

theorem Query.execute_typeError_iff {q : Query} {events : List CanonicalEvent}
    (hcomparable : Comparable events) :
    q.execute rt events = .error (.python .typeError) ↔ q.Clashes rt events := by
  cases q with
  | entity name pred =>
      simp only [Query.execute, Query.Clashes, FirstClashes, matching_error_iff,
        evalPred_typeError_iff]
  | steps within first more =>
      cases more with
      | nil =>
          simp only [Query.execute, Query.Clashes, FirstClashes, matching_error_iff,
            evalPred_typeError_iff]
      | cons second more =>
          have hbad : (fun step a => evalPred rt step a = .error (.python .typeError)) =
              ClashesIn rt := by
            funext step a
            exact propext evalPred_typeError_iff
          have hrun : (Query.steps within first (second :: more)).execute rt events =
              executeSequence rt within first (second :: more) events := rfl
          rw [hrun, executeSequence_error_iff hcomparable, hbad]
          rfl

/-- A query returns or raises `BlueQLError`, exactly if it is not parsed or the first comparison that
fails, if any does, is not one of order between a text and a number or a truth value. -/
theorem execute_blueQLError_iff (u : Lexis) (rt : Runtime) (query : String)
    {events : List CanonicalEvent} (hcomparable : Comparable events) :
    ((∃ result, execute u rt query events = .ok result) ∨
        ∃ message, execute u rt query events = .error (.blueQLError message)) ↔
      ¬ ∃ q, parse u query = .ok q ∧ q.Clashes rt events := by
  cases hparse : parse u query with
  | error e =>
      obtain ⟨message, rfl⟩ := parse_error u hparse
      have hrun : execute u rt query events = .error (.blueQLError message) := by
        rw [execute, hparse]
        rfl
      constructor
      · rintro - ⟨q, hq, -⟩
        cases hq
      · rintro -
        exact .inr ⟨message, hrun⟩
  | ok q =>
      have hrun : execute u rt query events = q.execute rt events := by
        rw [execute, hparse]
        rfl
      have hclash : (∃ q', (.ok q : Result Query) = .ok q' ∧ q'.Clashes rt events) ↔
          q.execute rt events = .error (.python .typeError) := by
        simp [Query.execute_typeError_iff hcomparable]
      rw [hclash, hrun]
      constructor
      · rintro (⟨result, h⟩ | ⟨message, h⟩) <;> simp [h]
      · intro h
        cases hresult : q.execute rt events with
        | ok result => exact .inl ⟨result, rfl⟩
        | error e =>
            rcases Query.execute_error hcomparable hresult with ⟨message, rfl⟩ | rfl
            · exact .inr ⟨message, rfl⟩
            · exact absurd hresult h

end

theorem execute_blueQLError_sample :
    ¬ ∃ q, parse sampleLexis "auth.failures > 0 FOLLOWED_BY event_type >= \"b\"" = .ok q ∧
      q.Clashes sampleRuntime sampleEvents := by
  refine (execute_blueQLError_iff sampleLexis sampleRuntime _ comparable_sampleEvents).mp (.inl ?_)
  have hrun : execute sampleLexis sampleRuntime
      "auth.failures > 0 FOLLOWED_BY event_type >= \"b\"" sampleEvents = .ok [] := by decide +kernel
  exact ⟨_, hrun⟩

/-- An event type is a text, and 5 is a number. -/
theorem execute_raises_typeError :
    Comparable sampleEvents ∧
      execute sampleLexis sampleRuntime "event_type > 5" sampleEvents =
        .error (.python .typeError) :=
  ⟨comparable_sampleEvents, by decide +kernel⟩

end BlueTeam.BlueQL
