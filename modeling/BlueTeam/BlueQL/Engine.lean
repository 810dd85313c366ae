/- GID: BlueTeam/BlueQL/Engine
   generality: I
   source: packages/blueql/blueteam_blueql/engine.py
   digest: Hunting queries over canonical events: predicates, and sequences of them in time. -/

import BlueTeam.Lib.Exec
import BlueTeam.Lib.Firsts
import BlueTeam.Schema.Event
import Mathlib.Algebra.Group.Int.Defs
import Mathlib.Algebra.Group.Nat.Defs

set_option autoImplicit false
set_option relaxedAutoImplicit false

namespace BlueTeam.BlueQL

open BlueTeam.Python BlueTeam.Schema BlueTeam.Lib

/-- What a query may raise: `BlueQLError`, or an exception of the language; the parser's recursion is
bounded by a number of calls, as the interpreter's is. -/
inductive QueryExn
  | blueQLError (message : String)
  | python (e : Exn)
  | recursionError
  deriving DecidableEq, Repr

abbrev Result (α : Type) := Except QueryExn α

/-- The literals of a query; a float comes with its `str`. -/
inductive Literal
  | str (s : String)
  | bool (b : Bool)
  | int (i : Int)
  | float (value : PyFloat) (text : String)
  deriving DecidableEq, Repr

inductive Comparator
  | ge
  | le
  | ne
  | eq
  | gt
  | lt
  deriving DecidableEq, Repr

inductive Pred
  | and (left right : Pred)
  | or (left right : Pred)
  | not (pred : Pred)
  | isIn (field : String) (values : List Literal)
  | cmp (field : String) (op : Comparator) (value : Literal)
  deriving Repr

/-- A query: `FROM entity WHERE pred`, or steps that follow each other, within a number of seconds.
One step alone is a filter. -/
inductive Query
  | entity (name : String) (pred : Pred)
  | steps (within : Option Nat) (first : Pred) (more : List Pred)
  deriving Repr

/-! ### Predicates -/

/-- The value of a field. -/
inductive Observed
  | none
  | str (s : String)
  | bool (b : Bool)
  | int (i : Int)
  deriving DecidableEq, Repr

def Observed.ofOption : Option String → Observed
  | some s => .str s
  | Option.none => .none

def externalAddress (event : CanonicalEvent) : Bool :=
  let inner := ["10.", "192.168.", "172."]
  given event.dstIp && !inner.any fun start => (event.dstIp.getD "").startsWith start

/-- `_field_value` -/
def fieldValue (event : CanonicalEvent) : String → Result Observed
  | "process.name" => .ok (.ofOption (event.process.bind (·.name)))
  | "parent.name" => .ok (.ofOption (event.parentProcess.bind (·.name)))
  | "user.name" => .ok (.ofOption (event.user.bind (·.name)))
  | "src_ip" => .ok (.ofOption event.srcIp)
  | "dst_ip" => .ok (.ofOption event.dstIp)
  | "category" => .ok (.str event.category)
  | "event_type" => .ok (.str event.eventType)
  | "outcome" => .ok (.ofOption (event.outcome.map Outcome.text))
  | "action" => .ok (.ofOption event.action)
  | "network.external" => .ok (.bool (externalAddress event))
  | "auth.failures" =>
      .ok (.int (if event.category = "authentication" ∧ event.outcome = some .failure then 1 else 0))
  | "auth.success" =>
      .ok (.bool (event.category = "authentication" ∧ event.outcome = some .success))
  | "privilege.change" =>
      .ok (.bool (event.action.any
        fun action => action ∈ ["add_to_group", "grant_role", "add_member", "elevate"]))
  | field => .error (.blueQLError ("unknown field " ++ field))

/-- `str(observed)` -/
def Observed.text : Observed → String
  | .none => "None"
  | .str s => s
  | .bool b => if b then "True" else "False"
  | .int i => toString i

/-- `str(expected)` -/
def Literal.text : Literal → String
  | .str s => s
  | .bool b => if b then "True" else "False"
  | .int i => toString i
  | .float _ text => text

/-- `expected in {True, "true"}`; the numbers one are equal to `True`. -/
def Literal.saysTrue : Literal → Bool
  | .str s => s = "true"
  | .bool b => b
  | .int i => i = 1
  | .float value _ => value = .finite 1

/-- `_compare(observed, "=", expected)` -/
def equal (rt : Runtime) (observed : Observed) (expected : Literal) : Bool :=
  match observed with
  | .bool b => if expected.saysTrue then b else !b
  | observed => rt.lower observed.text = rt.lower expected.text

/-- A truth value counts as a number. -/
def Observed.number : Observed → Option PyFloat
  | .bool b => some (.finite (if b then 1 else 0))
  | .int i => some (.finite i)
  | _ => Option.none

def Literal.number : Literal → Option PyFloat
  | .bool b => some (.finite (if b then 1 else 0))
  | .int i => some (.finite i)
  | .float value _ => some value
  | .str _ => none

def numberLt : PyFloat → PyFloat → Bool
  | .finite a, .finite b => a < b
  | .negInf, .finite _ | .negInf, .inf | .finite _, .inf => true
  | _, _ => false

def numberLe (a b : PyFloat) : Bool :=
  numberLt a b || (a = b && a ≠ .nan)

/-- The order of two values: texts with texts, numbers with numbers. -/
def ordered (texts : String → String → Bool) (numbers : PyFloat → PyFloat → Bool)
    (observed : Observed) (expected : Literal) : Result Bool :=
  match observed, expected with
  | .str s, .str s' => .ok (texts s s')
  | observed, expected =>
      match observed.number, expected.number with
      | some a, some b => .ok (numbers a b)
      | _, _ => .error (.python .typeError)

/-- `_compare` -/
def compare (rt : Runtime) (observed : Observed) (op : Comparator) (expected : Literal) :
    Result Bool :=
  match op with
  | .eq => .ok (equal rt observed expected)
  | .ne => .ok (!equal rt observed expected)
  | op =>
      if observed = .none then .ok false
      else match op with
        | .gt => ordered (fun s s' => s' < s) (fun a b => numberLt b a) observed expected
        | .ge => ordered (fun s s' => s' ≤ s) (fun a b => numberLe b a) observed expected
        | .lt => ordered (fun s s' => s < s') numberLt observed expected
        | _ => ordered (fun s s' => s ≤ s') numberLe observed expected

/-- `_eval_pred`; the second operand is evaluated only if it matters. -/
def evalPred (rt : Runtime) : Pred → CanonicalEvent → Result Bool
  | .and left right, event => do
      let holds ← evalPred rt left event
      if holds then evalPred rt right event else pure false
  | .or left right, event => do
      let holds ← evalPred rt left event
      if holds then pure true else evalPred rt right event
  | .not pred, event => do
      let holds ← evalPred rt pred event
      pure !holds
  | .isIn field values, event => do
      let observed ← fieldValue event field
      pure (values.any (equal rt observed))
  | .cmp field op value, event => do
      let observed ← fieldValue event field
      compare rt observed op value

/-! ### Sequences -/

/-- An operation on time stamps. -/
def onTime {α : Type} (r : Except Exn α) : Result α :=
  r.mapError .python

/-- Put an event before the first one that is not earlier. -/
def insertByTime (event : CanonicalEvent) : List CanonicalEvent → Result (List CanonicalEvent)
  | [] => .ok [event]
  | e :: es => do
      let earlier ← onTime (e.timestamp.lt event.timestamp)
      if earlier then do
        let rest ← insertByTime event es
        pure (e :: rest)
      else pure (event :: e :: es)

/-- `sorted(events, key=lambda item: item.timestamp)`: stable, and a `TypeError` where naive and
aware time stamps meet. -/
def sortedByTime : List CanonicalEvent → Result (List CanonicalEvent)
  | [] => .ok []
  | event :: events => do
      let rest ← sortedByTime events
      insertByTime event rest

/-- The longest time, in microseconds, whose `total_seconds()` is not greater than the window. The
seconds are a double: a window of 2^34 seconds or more is also what a few microseconds more round
to. -/
def reach (window : Nat) : Int :=
  window * DateTime.second + ((1000000 * 2 ^ window.log2 / 2 ^ 53 : Nat) : Int)

/-- The next event that satisfies the step and comes at most `window` seconds after the cursor, with
the events after it. An event that is too late ends the search. -/
def findStep (rt : Runtime) (window : Nat) (step : Pred) (cursor : DateTime) :
    List CanonicalEvent → Result (Option (CanonicalEvent × List CanonicalEvent))
  | [] => .ok none
  | candidate :: rest => do
      let delta ← onTime (candidate.timestamp.minus cursor)
      if reach window < delta then pure none
      else do
        let found ← evalPred rt step candidate
        if found then pure (some (candidate, rest)) else findStep rt window step cursor rest

/-- The events that satisfy the steps one after the other. -/
def followSteps (rt : Runtime) (window : Nat) :
    List Pred → DateTime → List CanonicalEvent → Result (Option (List CanonicalEvent))
  | [], _, _ => .ok (some [])
  | step :: steps, cursor, events => do
      match ← findStep rt window step cursor events with
      | none => pure none
      | some (candidate, rest) => do
          let matched ← followSteps rt window steps candidate.timestamp rest
          pure (matched.map (candidate :: ·))

/-- The chain that starts from an event, if there is one. -/
def chainFrom (rt : Runtime) (window : Nat) (first : Pred) (more : List Pred)
    (event : CanonicalEvent) (rest : List CanonicalEvent) :
    Result (Option (List CanonicalEvent)) := do
  let starts ← evalPred rt first event
  if starts then do
    let matched ← followSteps rt window more event.timestamp rest
    pure (matched.map (event :: ·))
  else pure none

/-- The events of all chains, by the event each chain starts from. -/
def hitsOf (rt : Runtime) (window : Nat) (first : Pred) (more : List Pred) :
    List CanonicalEvent → Result (List CanonicalEvent)
  | [] => .ok []
  | event :: rest => do
      let matched ← chainFrom rt window first more event rest
      let hits ← hitsOf rt window first more rest
      pure (matched.getD [] ++ hits)

/-- `int(ast.value or 600)` -/
def windowOf (within : Option Nat) : Nat :=
  if within.getD 0 = 0 then 600 else within.getD 0

/-- `_execute_sequence` -/
def executeSequence (rt : Runtime) (within : Option Nat) (first : Pred) (more : List Pred)
    (events : List CanonicalEvent) : Result (List CanonicalEvent) := do
  let ordered ← sortedByTime events
  let hits ← hitsOf rt (windowOf within) first more ordered
  pure (firsts (·.id) [] hits)

/-- The events that satisfy a predicate. -/
def matching (rt : Runtime) (pred : Pred) : List CanonicalEvent → Result (List CanonicalEvent)
  | [] => .ok []
  | event :: events => do
      let holds ← evalPred rt pred event
      let rest ← matching rt pred events
      pure (if holds then event :: rest else rest)

/-- `execute`, once the query is parsed. -/
def Query.execute (rt : Runtime) (events : List CanonicalEvent) :
    Query → Result (List CanonicalEvent)
  | .entity _ pred => matching rt pred events
  | .steps _ first [] => matching rt first events
  | .steps within first more => executeSequence rt within first more events

/-! ### Comparable time stamps -/

/-- All time stamps are aware. -/
def Timed (events : List CanonicalEvent) : Prop :=
  ∀ event ∈ events, event.timestamp.Aware

theorem Timed.subset {events events' : List CanonicalEvent} (h : Timed events)
    (hsub : events' ⊆ events) : Timed events' :=
  fun event hevent => h event (hsub hevent)

theorem insertByTime_ok {event : CanonicalEvent} (hevent : event.timestamp.Aware)
    {events : List CanonicalEvent} (h : Timed events) :
    ∃ sorted, insertByTime event events = .ok sorted ∧ sorted.Perm (event :: events) := by
  induction events with
  | nil => exact ⟨[event], rfl, .refl _⟩
  | cons e es ih =>
      obtain ⟨earlier, hlt⟩ := (h e List.mem_cons_self).lt_ok hevent
      obtain ⟨rest, hrest, hperm⟩ := ih (h.subset (List.subset_cons_self e es))
      unfold insertByTime
      rw [hlt, hrest]
      cases earlier with
      | false => exact ⟨event :: e :: es, rfl, .refl _⟩
      | true => exact ⟨e :: rest, rfl, (hperm.cons e).trans (.swap event e es)⟩

theorem sortedByTime_ok {events : List CanonicalEvent} (h : Timed events) :
    ∃ sorted, sortedByTime events = .ok sorted ∧ sorted.Perm events := by
  induction events with
  | nil => exact ⟨[], rfl, .refl _⟩
  | cons event events ih =>
      obtain ⟨rest, hrest, hperm⟩ := ih (h.subset (List.subset_cons_self event events))
      obtain ⟨sorted, hsorted, hperm'⟩ := insertByTime_ok (h event List.mem_cons_self)
        (h.subset (List.Subset.trans hperm.subset (List.subset_cons_self event events)))
      refine ⟨sorted, ?_, hperm'.trans (hperm.cons event)⟩
      unfold sortedByTime
      rw [hrest]
      exact hsorted

section

variable {rt : Runtime} {window : Nat}

/-- The exception comes from a step's predicate, on one of the events. -/
def FromPred (rt : Runtime) (steps : List Pred) (events : List CanonicalEvent) (e : QueryExn) :
    Prop :=
  ∃ step ∈ steps, ∃ event ∈ events, evalPred rt step event = .error e

theorem FromPred.mono {steps steps' : List Pred} {events events' : List CanonicalEvent}
    {e : QueryExn} (h : FromPred rt steps events e) (hsteps : steps ⊆ steps')
    (hevents : events ⊆ events') : FromPred rt steps' events' e := by
  obtain ⟨step, hstep, event, hevent, hrun⟩ := h
  exact ⟨step, hsteps hstep, event, hevents hevent, hrun⟩

theorem findStep_error {step : Pred} {cursor : DateTime} (hcursor : cursor.Aware)
    {events : List CanonicalEvent} (h : Timed events) {e : QueryExn}
    (hrun : findStep rt window step cursor events = .error e) : FromPred rt [step] events e := by
  induction events with
  | nil => cases hrun
  | cons candidate rest ih =>
      obtain ⟨delta, hdelta⟩ := (h candidate List.mem_cons_self).minus_ok hcursor
      unfold findStep at hrun
      rw [hdelta] at hrun
      rcases except_error_of_bind hrun with htime | ⟨_, hdelta', hrun⟩
      · cases htime
      · split at hrun
        · cases hrun
        · rcases except_error_of_bind hrun with hpred | ⟨found, -, hrun⟩
          · exact ⟨step, List.mem_singleton_self _, candidate, List.mem_cons_self, hpred⟩
          · split at hrun
            · cases hrun
            · refine (ih (h.subset (List.subset_cons_self candidate rest)) hrun).mono
                (List.Subset.refl _) (List.subset_cons_self candidate rest)

/-- What was found is among the events, and so is what comes after it. -/
theorem findStep_subset {step : Pred} {cursor : DateTime} {events : List CanonicalEvent}
    {candidate : CanonicalEvent} {rest : List CanonicalEvent}
    (hrun : findStep rt window step cursor events = .ok (some (candidate, rest))) :
    candidate :: rest ⊆ events := by
  induction events with
  | nil => cases hrun
  | cons e es ih =>
      obtain ⟨delta, -, hrun⟩ := except_of_bind hrun
      split at hrun
      · cases hrun
      · obtain ⟨found, -, hrun⟩ := except_of_bind hrun
        split at hrun
        · obtain ⟨rfl, rfl⟩ := Prod.mk.inj (Option.some.inj (Except.ok.inj hrun))
          exact List.Subset.refl _
        · exact List.Subset.trans (ih hrun) (List.subset_cons_self e es)

theorem followSteps_error {steps : List Pred} {cursor : DateTime} (hcursor : cursor.Aware)
    {events : List CanonicalEvent} (h : Timed events) {e : QueryExn}
    (hrun : followSteps rt window steps cursor events = .error e) :
    FromPred rt steps events e := by
  induction steps generalizing cursor events with
  | nil => cases hrun
  | cons step steps ih =>
      rcases except_error_of_bind hrun with hfind | ⟨found, hfound, hrun⟩
      · exact (findStep_error hcursor h hfind).mono (by simp) (List.Subset.refl _)
      · rcases found with _ | ⟨candidate, rest⟩
        · cases hrun
        · have hsub := findStep_subset hfound
          have hrest := (List.cons_subset.mp hsub).2
          rcases except_error_of_bind hrun with hlater | ⟨matched, -, hrun⟩
          · refine (ih ?_ (h.subset hrest) hlater).mono (List.subset_cons_self step steps) hrest
            exact h candidate (List.cons_subset.mp hsub).1
          · cases hrun

theorem chainFrom_error {first : Pred} {more : List Pred} {event : CanonicalEvent}
    {rest : List CanonicalEvent} (h : Timed (event :: rest)) {e : QueryExn}
    (hrun : chainFrom rt window first more event rest = .error e) :
    FromPred rt (first :: more) (event :: rest) e := by
  have hrest := List.subset_cons_self event rest
  rcases except_error_of_bind hrun with hpred | ⟨starts, -, hrun⟩
  · exact ⟨first, List.mem_cons_self, event, List.mem_cons_self, hpred⟩
  · split at hrun
    · rcases except_error_of_bind hrun with hfollow | ⟨matched, -, hrun⟩
      · exact (followSteps_error (h event List.mem_cons_self) (h.subset hrest) hfollow).mono
          (List.subset_cons_self first more) hrest
      · cases hrun
    · cases hrun

theorem hitsOf_error {first : Pred} {more : List Pred} {events : List CanonicalEvent}
    (h : Timed events) {e : QueryExn} (hrun : hitsOf rt window first more events = .error e) :
    FromPred rt (first :: more) events e := by
  induction events with
  | nil => cases hrun
  | cons event rest ih =>
      have hrest := List.subset_cons_self event rest
      rcases except_error_of_bind hrun with hchain | ⟨matched, -, hrun⟩
      · exact chainFrom_error h hchain
      · rcases except_error_of_bind hrun with hlater | ⟨hits, -, hrun⟩
        · exact (ih (h.subset hrest) hlater).mono (List.Subset.refl _) hrest
        · cases hrun

/-- Over aware time stamps, the comparisons of a sequence never raise: what it raises, a predicate
raised. -/
theorem executeSequence_error {within : Option Nat} {first : Pred} {more : List Pred}
    {events : List CanonicalEvent} (h : Timed events) {e : QueryExn}
    (hrun : executeSequence rt within first more events = .error e) :
    FromPred rt (first :: more) events e := by
  obtain ⟨sorted, hsorted, hperm⟩ := sortedByTime_ok h
  unfold executeSequence at hrun
  rw [hsorted] at hrun
  rcases except_error_of_bind hrun with hsort | ⟨_, hordered, hrun⟩
  · cases hsort
  · obtain rfl := Except.ok.inj hordered
    rcases except_error_of_bind hrun with hhits | ⟨hits, -, hrun⟩
    · exact (hitsOf_error (h.subset hperm.subset) hhits).mono (List.Subset.refl _) hperm.subset
    · cases hrun

end

end BlueTeam.BlueQL
