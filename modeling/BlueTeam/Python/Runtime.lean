/- GID: BlueTeam/Python/Runtime
   generality: I
   source: the parts of Python's standard library and of pydantic that the services call
   digest: What a run takes from outside, and Python's operators on JSON values. -/

import BlueTeam.Lib.Exec
import BlueTeam.Python.DateTime
import Mathlib.Data.List.Infix
import Mathlib.Data.List.Sort

set_option autoImplicit false
set_option relaxedAutoImplicit false

namespace BlueTeam.Python

/-- A float as a number; the arithmetic on risk scores is exact here. -/
inductive PyFloat
  | finite (q : Rat)
  | inf
  | negInf
  | nan
  deriving DecidableEq, Repr, Inhabited

/-- `value < 0 or value > 100` -/
def PyFloat.outsidePercent : PyFloat → Bool
  | .finite q => decide (q < 0) || decide (100 < q)
  | .inf | .negInf => true
  | .nan => false

/-- `confidence < 0 or confidence > 1` -/
def PyFloat.outsideUnit : PyFloat → Bool
  | .finite q => decide (q < 0) || decide (1 < q)
  | .inf | .negInf => true
  | .nan => false

structure IpAddress where
  version : Nat
  value : Nat
  deriving DecidableEq, Repr

/-- What a run takes from outside the repository: the clock, the generated ids, Unicode tables, the
regular-expression engine, pydantic's coercions of scalars and the object store. -/
structure Runtime where
  /-- the hexadecimal text of the n-th `uuid4()` -/
  uuid4 : Nat → String
  /-- the n-th reading of `datetime.now(UTC)` -/
  now : Nat → DateTime
  lower : String → String
  strip : String → String
  /-- `str` of a list or a dict -/
  repr : Json → String
  /-- `int` of a text; the text of the `ValueError` otherwise -/
  intOfStr : String → Except String Int
  /-- `int` of a float, from its `repr` -/
  intOfFloat : String → Except Exn Int
  /-- `datetime.fromisoformat`; the text of the `ValueError` otherwise -/
  fromisoformat : String → Except String DateTime
  /-- `datetime.fromtimestamp(float(value), tz=UTC)` of a number -/
  fromtimestamp : Json → Except Exn DateTime
  /-- `ip_address`; none where it raises `ValueError` -/
  ipAddress : String → Option IpAddress
  isPrivate : IpAddress → Bool
  /-- the named groups of `re.match(pattern, text)` -/
  reMatch : String → String → Option (List (String × String))
  /-- the groups of `re.search(pattern, text, re.I)` -/
  reSearch : String → String → Option (List String)
  reFindall : String → String → List String
  /-- pydantic's lax coercions; none where the value is refused -/
  validInt : Json → Option Int
  validFloat : Json → Option PyFloat
  validDatetime : Json → Option DateTime
  /-- `str` of a `ValidationError` -/
  validationText : String → List (String × Option Json) → String
  /-- a float with two decimals -/
  fixed2 : PyFloat → String
  /-- the address the object store gave the raw event, if it took it -/
  objectUri : String → String → Option String

/-- Every reading of `datetime.now(UTC)` is aware. -/
def Runtime.AwareClock (rt : Runtime) : Prop :=
  ∀ n, (rt.now n).offset = some 0

/-- A runtime to evaluate examples with: ids and clock readings count up, texts are plain ASCII
without blanks around them, numbers are integers, no pattern matches and there is no object
store. -/
def sampleRuntime : Runtime where
  uuid4 n := toString n
  now n := ⟨63839761325000000 + n, some 0⟩
  lower text := String.ofList (text.toList.map Char.toLower)
  strip text := text
  repr _ := ""
  intOfStr text := .error ("invalid literal for int() with base 10: " ++ text)
  intOfFloat _ := .error .overflowError
  fromisoformat text := .error ("Invalid isoformat string: " ++ text)
  fromtimestamp _ := .error .overflowError
  ipAddress _ := none
  isPrivate _ := false
  reMatch _ _ := none
  reSearch _ _ := none
  reFindall _ _ := []
  validInt
    | .int i => some i
    | _ => none
  validFloat
    | .int i => some (.finite i)
    | _ => none
  validDatetime
    | .int i => some ⟨62135596800000000 + i * 1000000, some 0⟩
    | _ => none
  validationText model _ := "validation errors for " ++ model
  fixed2 _ := ""
  objectUri _ _ := none

/-- How far a run has read the generated ids and the clock. -/
structure Ticks where
  uuids : Nat := 0
  readings : Nat := 0
  deriving DecidableEq, Repr

/-- A computation that touches nothing but the id generator and the clock. -/
abbrev Draw (α : Type) := Lib.Exec Ticks Exn α

/-- `new_id(tag)` -/
def newId (rt : Runtime) (tag : String) : Draw String := fun t =>
  (.ok (tag ++ "_" ++ rt.uuid4 t.uuids), { t with uuids := t.uuids + 1 })

def utcnow (rt : Runtime) : Draw DateTime := fun t =>
  (.ok (rt.now t.readings), { t with readings := t.readings + 1 })

/-- `str(exc)` of what the ingest loop catches. -/
def Exn.text (rt : Runtime) : Exn → String
  | .validationError model errors => rt.validationText model errors
  | .valueError text => text
  | _ => ""

end BlueTeam.Python

namespace BlueTeam.Json

open BlueTeam.Python

/-- `bool(value)` -/
def truthy : Json → Bool
  | .null => false
  | .bool b => b
  | .int i => decide (i ≠ 0)
  | .float r => decide (r ≠ "0.0" ∧ r ≠ "-0.0")
  | .str s => decide (s ≠ "")
  | .arr items => !items.isEmpty
  | .obj fields => !fields.isEmpty

/-- `a or b` -/
def orElse (a b : Json) : Json :=
  if a.truthy then a else b

/-- `fields.get(key)` -/
def get (fields : JsonObject) (key : String) : Json :=
  (fields.lookup key).getD .null

/-- `fields.get(k1) or fields.get(k2) or ...` -/
def getFirst (fields : JsonObject) : List String → Json
  | [] => .null
  | [k] => get fields k
  | k :: ks => orElse (get fields k) (getFirst fields ks)

/-- `fields[key] = value` -/
def setKey (fields : JsonObject) (key : String) (value : Json) : JsonObject :=
  if (fields.lookup key).isSome then
    fields.map fun f => if f.1 = key then (key, value) else f
  else fields ++ [(key, value)]

/-- `fields.setdefault(key, value)` -/
def setDefault (fields : JsonObject) (key : String) (value : Json) : JsonObject :=
  if (fields.lookup key).isSome then fields else fields ++ [(key, value)]

/-- `{**a, **b}` -/
def merge (a b : JsonObject) : JsonObject :=
  b.foldl (fun acc f => setKey acc f.1 f.2) a

/-- `str(value)` -/
def text (rt : Runtime) : Json → String
  | .null => "None"
  | .bool true => "True"
  | .bool false => "False"
  | .int i => toString i
  | .float r => r
  | .str s => s
  | v => rt.repr v

/-- `int(value)` -/
def toInt (rt : Runtime) : Json → Except Exn Int
  | .bool b => .ok (if b then 1 else 0)
  | .int i => .ok i
  | .float r => rt.intOfFloat r
  | .str s => (rt.intOfStr s).mapError .valueError
  | _ => .error .typeError

/-- `value.get` needs a dict. -/
def asDict : Json → Except Exn JsonObject
  | .obj fields => .ok fields
  | _ => .error .attributeError

/-- A `str` method needs a string. -/
def asText : Json → Except Exn String
  | .str s => .ok s
  | _ => .error .attributeError

/-- `value in {"a", "b"}` hashes the value first. -/
def inSet (texts : List String) : Json → Except Exn Bool
  | .str s => .ok (texts.contains s)
  | .arr _ | .obj _ => .error .typeError
  | _ => .ok false

def ofOption : Option String → Json
  | some s => .str s
  | none => .null

def ofTexts (fields : List (String × String)) : Json :=
  .obj (fields.map fun f => (f.1, .str f.2))

end BlueTeam.Json

namespace BlueTeam.Python

/-- `needle in text` -/
def hasInfix (needle text : String) : Bool :=
  decide (needle.toList <:+: text.toList)

/-- `text[:n]` -/
def takeChars (n : Nat) (text : String) : String :=
  String.ofList (text.toList.take n)

/-- `text.replace("Z", "+00:00")` -/
def replaceZ (text : String) : String :=
  String.ofList (text.toList.flatMap fun c => if c = 'Z' then "+00:00".toList else [c])

/-- `text or default` for an optional text. -/
def orText (text : Option String) (default : String) : String :=
  match text with
  | some s => if s = "" then default else s
  | none => default

/-- `bool(text)` for an optional text. -/
def given (text : Option String) : Bool :=
  orText text "" ≠ ""

/-- `a or b` of optional texts. -/
def firstGiven (a b : Option String) : Option String :=
  if given a then a else b

/-- `str(value)` of an optional text. -/
def showText (text : Option String) : String :=
  text.getD "None"

/-- The elements of a Python set, in the order of first insertion. -/
def toSet {α : Type} [DecidableEq α] (items : List α) : List α :=
  items.foldl (fun acc a => if a ∈ acc then acc else acc ++ [a]) []

theorem mem_toSet {α : Type} [DecidableEq α] {items : List α} {a : α} :
    a ∈ toSet items ↔ a ∈ items := by
  have hfold : ∀ acc : List α, a ∈ items.foldl (fun acc a => if a ∈ acc then acc else acc ++ [a])
      acc ↔ a ∈ acc ∨ a ∈ items := by
    induction items with
    | nil => simp
    | cons b items ih =>
        intro acc
        rw [List.foldl_cons, ih]
        by_cases hb : b ∈ acc
        · rw [if_pos hb, List.mem_cons]
          constructor
          · rintro (h | h)
            · exact Or.inl h
            · exact Or.inr (Or.inr h)
          · rintro (h | rfl | h)
            · exact Or.inl h
            · exact Or.inl hb
            · exact Or.inr h
        · rw [if_neg hb, List.mem_append, List.mem_singleton, List.mem_cons, or_assoc]
  have hall := hfold []
  simp only [List.not_mem_nil, false_or] at hall
  exact hall

theorem nodup_toSet {α : Type} [DecidableEq α] (items : List α) : (toSet items).Nodup := by
  have hfold : ∀ acc : List α, acc.Nodup →
      (items.foldl (fun acc a => if a ∈ acc then acc else acc ++ [a]) acc).Nodup := by
    induction items with
    | nil => exact fun acc hacc => hacc
    | cons b items ih =>
        intro acc hacc
        rw [List.foldl_cons]
        apply ih
        by_cases hb : b ∈ acc
        · rw [if_pos hb]
          exact hacc
        · rw [if_neg hb]
          exact List.nodup_append.mpr ⟨hacc, List.nodup_singleton b, by
            rintro a ha _ hb' rfl
            obtain rfl := List.mem_singleton.mp hb'
            exact hb ha⟩
  exact hfold [] List.nodup_nil

/-- `sorted(texts)`, by code points. -/
def sortedTexts (texts : List String) : List String :=
  texts.insertionSort (· ≤ ·)

/-- `text.split()` -/
def words (text : String) : List String :=
  ((text.toList.splitOnP Char.isWhitespace).filter (!·.isEmpty)).map String.ofList

end BlueTeam.Python
