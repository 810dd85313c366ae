/- GID: BlueTeam/Python/DateTime
   generality: I
   source: the standard library's `datetime`, and the exceptions the services meet
   digest: Naive and aware datetimes, with the exceptions their operators raise. -/

import BlueTeam.Json

set_option autoImplicit false
set_option relaxedAutoImplicit false

namespace BlueTeam.Python

/-- The exceptions of the language and of pydantic. A `ValidationError` is a `ValueError` too; it names
the model and the fields that failed, each with the value it was given (none: missing). -/
inductive Exn
  | validationError (model : String) (errors : List (String × Option Json))
  | valueError (text : String)
  | typeError
  | attributeError
  | overflowError
  | osError
  deriving DecidableEq, Repr

/-- What `except (ValidationError, ValueError)` catches. -/
def Exn.isValueError : Exn → Bool
  | .validationError _ _ | .valueError _ => true
  | _ => false

/-- A `datetime`: the wall clock in microseconds since the start of year 1, and the UTC offset,
in microseconds, of an aware one. -/
structure DateTime where
  wall : Int
  offset : Option Int
  deriving DecidableEq, Repr, Inhabited

namespace DateTime

def second : Int := 1000000
def minute : Int := 60 * second
def hour : Int := 60 * minute
def day : Int := 24 * hour

/-- Where two datetimes are compared: on the wall if both are naive, on the UTC time line if both
are aware; anything else is a `TypeError`. -/
def compared (a b : DateTime) : Except Exn (Int × Int) :=
  match a.offset, b.offset with
  | none, none => .ok (a.wall, b.wall)
  | some o, some o' => .ok (a.wall - o, b.wall - o')
  | _, _ => .error .typeError

/-- `a < b` -/
def lt (a b : DateTime) : Except Exn Bool :=
  (compared a b).map fun p => decide (p.1 < p.2)

/-- `(a - b)`, in microseconds. -/
def minus (a b : DateTime) : Except Exn Int :=
  (compared a b).map fun p => p.1 - p.2

/-- `a - timedelta(seconds=s)`: there is no year 0. -/
def before (a : DateTime) (s : Nat) : Except Exn DateTime :=
  if a.wall - s * second < 0 then .error .overflowError
  else .ok { a with wall := a.wall - s * second }

/-- `a + timedelta(hours=h)`: there is no year 10000. -/
def after (a : DateTime) (h : Int) : Except Exn DateTime :=
  if 3652059 * day ≤ a.wall + h * hour then .error .overflowError
  else .ok { a with wall := a.wall + h * hour }

/-- `value if value.tzinfo else value.replace(tzinfo=UTC)` -/
def assumeUtc (a : DateTime) : DateTime :=
  { a with offset := some (a.offset.getD 0) }

/-- `as_utc`: naive values are read as UTC, aware ones are moved to it. -/
def asUtc (a : DateTime) : DateTime :=
  { wall := a.wall - a.offset.getD 0, offset := some 0 }

/-- `a.replace(second=0, microsecond=0)` -/
def toMinute (a : DateTime) : DateTime :=
  { a with wall := a.wall - a.wall % minute }

/-- `a.replace(minute=a.minute // 10 * 10, second=0, microsecond=0)` -/
def toTenMinutes (a : DateTime) : DateTime :=
  { a with wall := a.wall - a.wall % (10 * minute) }

/-- `a.replace(minute=0, second=0, microsecond=0)` -/
def toHour (a : DateTime) : DateTime :=
  { a with wall := a.wall - a.wall % hour }

def pad (width : Nat) (n : Nat) : String :=
  let digits := (Nat.repr n).toList
  String.ofList (List.replicate (width - digits.length) '0' ++ digits)

/-- Year, month and day of the n-th day since 0001-01-01, in the proleptic Gregorian calendar.
Years are counted from March, so that the leap day comes last. -/
def civil (n : Nat) : Nat × Nat × Nat :=
  let z := n + 306
  let era := z / 146097
  let doe := z % 146097
  let yoe := (doe - doe / 1460 + doe / 36524 - doe / 146096) / 365
  let doy := doe - (365 * yoe + yoe / 4 - yoe / 100)
  let mp := (5 * doy + 2) / 153
  let d := doy - (153 * mp + 2) / 5 + 1
  let m := if mp < 10 then mp + 3 else mp - 9
  (yoe + era * 400 + (if m ≤ 2 then 1 else 0), m, d)

/-- `a.date().isoformat()` -/
def dateIso (a : DateTime) : String :=
  let (y, m, d) := civil (a.wall / day).toNat
  pad 4 y ++ "-" ++ pad 2 m ++ "-" ++ pad 2 d

/-- Microseconds of a day, or of an offset, as `HH:MM`. -/
def hoursMinutes (us : Nat) : String :=
  pad 2 (us / 3600000000) ++ ":" ++ pad 2 (us / 60000000 % 60)

def offsetIso (o : Int) : String :=
  let us := o.natAbs
  (if o < 0 then "-" else "+") ++ hoursMinutes us ++
    (if us % 60000000 = 0 then "" else ":" ++ pad 2 (us / 1000000 % 60)) ++
    (if us % 1000000 = 0 then "" else "." ++ pad 6 (us % 1000000))

def isoformat (a : DateTime) : String :=
  let us := (a.wall % day).toNat
  a.dateIso ++ "T" ++ hoursMinutes us ++ ":" ++ pad 2 (us / 1000000 % 60) ++
    (if us % 1000000 = 0 then "" else "." ++ pad 6 (us % 1000000)) ++
    (a.offset.map offsetIso).getD ""

example : isoformat ⟨63839761325000000, some 0⟩ = "2024-01-02T03:02:05+00:00" := by decide +kernel

theorem compared_ok_iff (a b : DateTime) :
    (∃ p, compared a b = .ok p) ↔ a.offset.isSome = b.offset.isSome := by
  obtain ⟨_, _ | o⟩ := a <;> obtain ⟨_, _ | o'⟩ := b <;> simp [compared]

/-- A datetime with an offset. -/
def Aware (a : DateTime) : Prop :=
  a.offset.isSome = true

theorem Aware.compared_ok {a b : DateTime} (ha : a.Aware) (hb : b.Aware) :
    ∃ p, compared a b = .ok p :=
  (compared_ok_iff a b).mpr (ha.trans hb.symm)

theorem Aware.lt_ok {a b : DateTime} (ha : a.Aware) (hb : b.Aware) : ∃ r, a.lt b = .ok r := by
  obtain ⟨p, hp⟩ := ha.compared_ok hb
  refine ⟨decide (p.1 < p.2), ?_⟩
  unfold lt
  rw [hp]
  rfl

theorem Aware.minus_ok {a b : DateTime} (ha : a.Aware) (hb : b.Aware) :
    ∃ r, a.minus b = .ok r := by
  obtain ⟨p, hp⟩ := ha.compared_ok hb
  refine ⟨p.1 - p.2, ?_⟩
  unfold minus
  rw [hp]
  rfl

/-- A time before an aware one is aware, if there is one. -/
theorem before_cases (a : DateTime) (s : Nat) :
    a.before s = .error .overflowError ∨ ∃ b, a.before s = .ok b ∧ (a.Aware → b.Aware) := by
  unfold before
  split
  · exact .inl rfl
  · exact .inr ⟨_, rfl, fun ha => ha⟩

/-- The point on the time line where a datetime is compared. -/
def instant (a : DateTime) : Int :=
  a.wall - a.offset.getD 0

theorem before_spec {a b : DateTime} {s : Nat} (h : a.before s = .ok b) :
    b.instant = a.instant - s * second ∧ b.offset = a.offset := by
  unfold before at h
  split at h
  · cases h
  · obtain rfl := Except.ok.inj h
    refine ⟨?_, rfl⟩
    change a.wall - s * second - a.offset.getD 0 = a.wall - a.offset.getD 0 - s * second
    omega

/-- `a < b` is no `TypeError`. -/
def Comparable (a b : DateTime) : Prop :=
  a.offset.isSome = b.offset.isSome

instance (a b : DateTime) : Decidable (a.Comparable b) :=
  inferInstanceAs (Decidable (_ = _))

/-- `a == b` -/
def Same (a b : DateTime) : Prop :=
  a.Comparable b ∧ a.instant = b.instant

theorem Comparable.symm {a b : DateTime} (h : a.Comparable b) : b.Comparable a :=
  Eq.symm h

theorem Comparable.trans {a b c : DateTime} (h : a.Comparable b) (h' : b.Comparable c) :
    a.Comparable c :=
  Eq.trans h h'

theorem Comparable.lt_eq {a b : DateTime} (h : a.Comparable b) :
    a.lt b = .ok (decide (a.instant < b.instant)) := by
  obtain ⟨wall, _ | o⟩ := a <;> obtain ⟨wall', _ | o'⟩ := b
  · simp [lt, compared, instant, Except.map]
  · cases h
  · cases h
  · rfl

theorem lt_ok_iff {a b : DateTime} {less : Bool} :
    a.lt b = .ok less ↔ a.Comparable b ∧ less = decide (a.instant < b.instant) := by
  by_cases h : a.Comparable b
  · rw [h.lt_eq, and_iff_right h, Except.ok.injEq, eq_comm]
  · have hraises : a.lt b = .error .typeError := by
      obtain ⟨wall, _ | o⟩ := a <;> obtain ⟨wall', _ | o'⟩ := b
      · exact absurd rfl h
      · rfl
      · rfl
      · exact absurd rfl h
    rw [hraises]
    simp [h]

theorem comparable_of_minus {a b : DateTime} {us : Int} (h : a.minus b = .ok us) : a.Comparable b := by
  obtain ⟨wall, _ | o⟩ := a <;> obtain ⟨wall', _ | o'⟩ := b
  · rfl
  · cases h
  · cases h
  · rfl

theorem Comparable.minus_eq {a b : DateTime} (h : a.Comparable b) :
    a.minus b = .ok (a.instant - b.instant) := by
  obtain ⟨wall, _ | o⟩ := a <;> obtain ⟨wall', _ | o'⟩ := b
  · simp [minus, compared, instant, Except.map]
  · cases h
  · cases h
  · rfl

end DateTime

end BlueTeam.Python
