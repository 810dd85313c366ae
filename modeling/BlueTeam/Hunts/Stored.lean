/- GID: BlueTeam/Hunts/Stored
   generality: I
   source: packages/clickhouse-store/blueteam_clickhouse/client.py, infra/clickhouse/schema.sql
   digest: Stored timestamps are wall clocks; they are in the order of instants unless offsets undo it. -/

import BlueTeam.Hunts.Sql
import BlueTeam.Python.Calendar

set_option autoImplicit false
set_option relaxedAutoImplicit false

namespace BlueTeam.Hunts

open BlueTeam.Python BlueTeam.Lib DateTime Numerals

/-! ### Reading a column -/

/-- `YYYY-MM-DD hh:mm:ss.fff` from its seven numbers. -/
def layout (date : Nat × Nat × Nat) (us : Nat) : List Char :=
  dateText date ++ ' ' :: (clockText us ++ '.' :: fixed 3 (us / 1000 % 1000))

/-- What a column of type `DateTime64(3, 'UTC')` takes from a text of this form: the milliseconds since
the start of year 1. -/
def readUtc (text : String) : Option Int :=
  let chars := text.toList
  let field (start width : Nat) : Nat := Nat.ofDigitChars 10 ((chars.drop start).take width) 0
  if chars.length = 23 ∧
      [(4, '-'), (7, '-'), (10, ' '), (13, ':'), (16, ':'), (19, '.')].all
        (fun mark => chars[mark.1]? == some mark.2) then
    some ((((ordinal (field 0 4, field 5 2, field 8 2) * 24 + field 11 2) * 60 + field 14 2) * 60 +
      field 17 2) * 1000 + field 20 3 : Nat)
  else none

variable {a b : DateTime}

theorem toList_chTime (h : a.InRange) :
    (chTime a).toList = layout (civil (a.wall / day).toNat) a.dayTime := by
  have htime := dayTime_lt a
  have hus : (a.wall % day).toNat = a.dayTime := rfl
  simp only [chTime, hus, String.toList_append, h.toList_dateIso, toList_hoursMinutes htime]
  rw [toList_pad (by decide) (by omega), toList_pad (by decide) (by omega)]
  simp [layout, clockText]

/-- A layout keeps each number at its place. -/
theorem layout_fields (date : Nat × Nat × Nat) (us : Nat) :
    ((layout date us).drop 0).take 4 = fixed 4 date.1 ∧
      ((layout date us).drop 5).take 2 = fixed 2 date.2.1 ∧
      ((layout date us).drop 8).take 2 = fixed 2 date.2.2 ∧
      ((layout date us).drop 11).take 2 = fixed 2 (us / 3600000000) ∧
      ((layout date us).drop 14).take 2 = fixed 2 (us / 60000000 % 60) ∧
      ((layout date us).drop 17).take 2 = fixed 2 (us / 1000000 % 60) ∧
      ((layout date us).drop 20).take 3 = fixed 3 (us / 1000 % 1000) :=
  ⟨rfl, rfl, rfl, rfl, rfl, rfl, rfl⟩

theorem layout_marks (date : Nat × Nat × Nat) (us : Nat) : (layout date us).length = 23 ∧
    [(4, '-'), (7, '-'), (10, ' '), (13, ':'), (16, ':'), (19, '.')].all
      (fun mark => (layout date us)[mark.1]? == some mark.2) = true :=
  ⟨rfl, rfl⟩

/-- The column holds the wall clock. -/
theorem readUtc_chTime (h : a.InRange) : readUtc (chTime a) = some (a.wall / 1000) := by
  have hlow := h.wall_nonneg
  have htime := dayTime_lt a
  obtain ⟨hy, hm, hd⟩ := civil_lt h.day_lt
  have hwall : a.wall = 86400000000 * (a.wall / day).toNat + a.dayTime := by
    unfold dayTime day hour minute second
    omega
  obtain ⟨hyear, hmonth, hday, hhour, hminute, hsecond, hmilli⟩ :=
    layout_fields (civil (a.wall / day).toNat) a.dayTime
  unfold readUtc
  rw [toList_chTime h]
  simp only [hyear, hmonth, hday, hhour, hminute, hsecond, hmilli]
  rw [if_pos (layout_marks _ _), ofDigitChars_fixed hy, ofDigitChars_fixed hm, ofDigitChars_fixed hd,
    ofDigitChars_fixed (by omega), ofDigitChars_fixed (by omega), ofDigitChars_fixed (by omega),
    ofDigitChars_fixed (by omega), ordinal_civil]
  congr 1
  omega

/-! ### Order -/

/-- The instant, in milliseconds. -/
def millis (a : DateTime) : Int :=
  a.instant / 1000

/-- How far the wall clock is ahead of UTC, in milliseconds. -/
def ahead (a : DateTime) : Int :=
  a.wall / 1000 - millis a

/-- This is the offset, for offsets of whole milliseconds. -/
theorem ahead_eq {k : Int} (h : a.offset = some (1000 * k)) : ahead a = k := by
  have hinstant : a.instant = a.wall - 1000 * k := by rw [instant, h, Option.getD_some]
  rw [ahead, millis, hinstant]
  omega

/-- The offsets do not undo the order of the instants: of two instants the later one is later by more
than the clock of the earlier one is ahead of the other's. -/
def Kept (a b : DateTime) : Prop :=
  millis a = millis b ∧ ahead a = ahead b ∨
    millis a < millis b ∧ ahead a - ahead b < millis b - millis a ∨
    millis b < millis a ∧ ahead b - ahead a < millis a - millis b

/-- Columns of aware datetimes denote instants, as far as equality and order go, if and only if the
offsets keep the order. -/
theorem chTime_instants_iff (a b : DateTime) (ha : a.InRange ∧ a.Aware) (hb : b.InRange ∧ b.Aware) :
    (∃ x y, readUtc (chTime a) = some x ∧ readUtc (chTime b) = some y ∧
        (a.instant = b.instant → x = y) ∧ (x < y ↔ millis a < millis b) ∧
        (y < x ↔ millis b < millis a)) ↔ Kept a b := by
  have hclock (c : DateTime) : c.wall / 1000 = millis c + ahead c := by
    unfold ahead
    omega
  have hsame : a.instant = b.instant → millis a = millis b := fun h => by rw [millis, millis, h]
  rw [readUtc_chTime ha.1, readUtc_chTime hb.1, hclock a, hclock b]
  unfold Kept
  constructor
  · rintro ⟨x, y, hx, hy, -, hless, hmore⟩
    obtain rfl := Option.some.inj hx
    obtain rfl := Option.some.inj hy
    omega
  · intro hkept
    refine ⟨_, _, rfl, rfl, ?_, ?_, ?_⟩ <;> omega

/-- Noon two hours east of Greenwich. -/
def noonEast : DateTime :=
  ⟨63839793600000000, some 7200000000⟩

/-- The same instant in Greenwich. -/
def tenUtc : DateTime :=
  ⟨63839786400000000, some 0⟩

theorem inRange_noonEast : noonEast.InRange :=
  ⟨by decide, by decide, by rintro o ⟨⟩; decide⟩

theorem inRange_tenUtc : tenUtc.InRange :=
  ⟨by decide, by decide, by rintro o ⟨⟩; decide⟩

theorem chTime_instants_iff_sample :
    (∃ x y, readUtc (chTime noonEast) = some x ∧ readUtc (chTime tenUtc) = some y ∧
        (noonEast.instant = tenUtc.instant → x = y) ∧ (x < y ↔ millis noonEast < millis tenUtc) ∧
        (y < x ↔ millis tenUtc < millis noonEast)) ↔ Kept noonEast tenUtc :=
  chTime_instants_iff noonEast tenUtc ⟨inRange_noonEast, rfl⟩ ⟨inRange_tenUtc, rfl⟩

/-- One instant is stored twice, two hours apart. -/
theorem noonEast_stored_apart : noonEast.instant = tenUtc.instant ∧
    chTime noonEast = "2024-01-02 12:00:00.000" ∧ chTime tenUtc = "2024-01-02 10:00:00.000" ∧
    readUtc (chTime noonEast) = some 63839793600000 ∧
    readUtc (chTime tenUtc) = some 63839786400000 := by
  refine ⟨by decide, by decide +kernel, by decide +kernel, ?_, ?_⟩
  · rw [readUtc_chTime inRange_noonEast]
    rfl
  · rw [readUtc_chTime inRange_tenUtc]
    rfl

end BlueTeam.Hunts
