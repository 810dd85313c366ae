/- GID: BlueTeam/Python/Calendar
   generality: I
   source: the standard library's `datetime`
   digest: Dates follow their day numbers, and texts of datetimes follow wall clocks and offsets. -/

import BlueTeam.Lib.Numerals
import BlueTeam.Python.DateTime
import Mathlib.Data.Int.Order.Basic
import Mathlib.Data.String.Basic

set_option autoImplicit false
set_option relaxedAutoImplicit false

namespace BlueTeam.Python.DateTime

open BlueTeam.Lib Numerals

/-! ### Days of the calendar -/

/-- Days before the first of March of a year, counted from the first of March of year 0. -/
def yearStart (y : Nat) : Nat :=
  365 * y + y / 4 - y / 100 + y / 400

theorem yearStart_mono {y y' : Nat} (h : y ≤ y') : yearStart y ≤ yearStart y' := by
  induction h with
  | refl => exact Nat.le_refl _
  | step _ ih =>
    refine Nat.le_trans ih ?_
    unfold yearStart
    omega

theorem yearStart_succ_le (y : Nat) : yearStart (y + 1) ≤ yearStart y + 366 := by
  unfold yearStart
  omega

/-- Years by eras, centuries and blocks of four. -/
theorem year_div {e c q k : Nat} (hc : c ≤ 3) (hq : q ≤ 24) (hk : k ≤ 3) :
    (400 * e + 100 * c + 4 * q + k) / 4 = 100 * e + 25 * c + q ∧
      (400 * e + 100 * c + 4 * q + k) / 100 = 4 * e + c ∧
      (400 * e + 100 * c + 4 * q + k) / 400 = e := by
  refine ⟨?_, ?_, ?_⟩ <;> omega

theorem yearStart_eq {e c q k : Nat} (hc : c ≤ 3) (hq : q ≤ 24) (hk : k ≤ 3) :
    yearStart (400 * e + 100 * c + 4 * q + k) =
      146097 * e + 36524 * c + 1461 * q + 365 * k := by
  obtain ⟨hblocks, hcenturies, heras⟩ := year_div (e := e) hc hq hk
  rw [yearStart, hblocks, hcenturies, heras]
  omega

/-- A day of a 400-year era: its century, its block of four years, its year and its day; a year has
a last day more at the end of a block, except at the end of the first three centuries. -/
theorem exists_era {doe : Nat} (h : doe < 146097) : ∃ c q k u, c ≤ 3 ∧ q ≤ 24 ∧ k ≤ 3 ∧ u ≤ 365 ∧
    (u = 365 → k = 3 ∧ (q < 24 ∨ c = 3)) ∧ doe = 36524 * c + 1461 * q + 365 * k + u := by
  obtain ⟨c, r, hc, hr, hlast, rfl⟩ : ∃ c r, c ≤ 3 ∧ r ≤ 36524 ∧ (r = 36524 → c = 3) ∧
      doe = 36524 * c + r := by
    by_cases hlast : doe = 146096
    · exact ⟨3, 36524, by omega⟩
    · exact ⟨doe / 36524, doe % 36524, by omega⟩
  obtain ⟨q, t, hq, ht, hlast, rfl⟩ : ∃ q t, q ≤ 24 ∧ t ≤ 1460 ∧ (t = 1460 → q < 24 ∨ c = 3) ∧
      r = 1461 * q + t :=
    ⟨r / 1461, r % 1461, by omega⟩
  by_cases hlast : t = 1460
  · exact ⟨c, q, 3, 365, by omega⟩
  · exact ⟨c, q, t / 365, t % 365, by omega⟩

/-- The year that `civil` finds for a day of an era. -/
theorem yearOfEra_eq {c q k u doe : Nat} (hc : c ≤ 3) (hq : q ≤ 24) (hk : k ≤ 3) (hu : u ≤ 365)
    (hleap : u = 365 → k = 3 ∧ (q < 24 ∨ c = 3)) (hdoe : doe = 36524 * c + 1461 * q + 365 * k + u) :
    (doe - doe / 1460 + doe / 36524 - doe / 146096) / 365 = 100 * c + 4 * q + k := by
  by_cases hlast : doe = 146096
  · obtain ⟨rfl, rfl, rfl⟩ : c = 3 ∧ q = 24 ∧ k = 3 := by omega
    rw [hlast]
  have hcentury : doe / 36524 = c := by
    have hrest : 1461 * q + 365 * k + u < 36524 := by omega
    omega
  have hera : doe / 146096 = 0 := by omega
  have hblocks : doe / 1460 = 25 * c + q + (24 * c + q + 365 * k + u) / 1460 := by
    have hsplit : doe = 1460 * (25 * c + q) + (24 * c + q + 365 * k + u) := by omega
    rw [hsplit, Nat.mul_add_div (by decide)]
  have hlow : (24 * c + q + 365 * k + u) / 1460 ≤ u := by omega
  have hhigh : u - (24 * c + q + 365 * k + u) / 1460 < 365 := by omega
  have hdays : doe = 365 * (100 * c + 4 * q + k) + (24 * c + q + u) := by omega
  rw [hcentury, hera, hblocks]
  clear hcentury hera hblocks hdoe hleap hlast
  omega

theorem lt_yearStart_succ {e c q k u : Nat} (hc : c ≤ 3) (hq : q ≤ 24) (hk : k ≤ 3) (hu : u ≤ 365)
    (hleap : u = 365 → k = 3 ∧ (q < 24 ∨ c = 3)) :
    146097 * e + 36524 * c + 1461 * q + 365 * k + u <
      yearStart (400 * e + 100 * c + 4 * q + k + 1) := by
  by_cases hyear : k < 3
  · have hnext : 400 * e + 100 * c + 4 * q + k + 1 = 400 * e + 100 * c + 4 * q + (k + 1) := by omega
    rw [hnext, yearStart_eq hc hq hyear]
    omega
  obtain rfl : k = 3 := by omega
  by_cases hblock : q < 24
  · have hnext : 400 * e + 100 * c + 4 * q + 3 + 1 = 400 * e + 100 * c + 4 * (q + 1) + 0 := by omega
    rw [hnext, yearStart_eq hc hblock (Nat.zero_le 3)]
    omega
  obtain rfl : q = 24 := by omega
  by_cases hcentury : c < 3
  · have hnext : 400 * e + 100 * c + 4 * 24 + 3 + 1 = 400 * e + 100 * (c + 1) + 4 * 0 + 0 := by omega
    rw [hnext, yearStart_eq hcentury (Nat.zero_le 24) (Nat.zero_le 3)]
    omega
  obtain rfl : c = 3 := by omega
  have hnext : 400 * e + 100 * 3 + 4 * 24 + 3 + 1 = 400 * (e + 1) + 100 * 0 + 4 * 0 + 0 := by omega
  rw [hnext, yearStart_eq (Nat.zero_le 3) (Nat.zero_le 24) (Nat.zero_le 3)]
  omega

/-- A date from its year and its day, both counted from March. -/
def fromMarch (y doy : Nat) : Nat × Nat × Nat :=
  let mp := (5 * doy + 2) / 153
  let d := doy - (153 * mp + 2) / 5 + 1
  let m := if mp < 10 then mp + 3 else mp - 9
  (y + (if m ≤ 2 then 1 else 0), m, d)

theorem civil_eq (n : Nat) : ∃ y doy, civil n = fromMarch y doy ∧ yearStart y + doy = n + 306 ∧
    n + 306 < yearStart (y + 1) := by
  have hday : (n + 306) % 146097 < 146097 := Nat.mod_lt _ (by decide)
  obtain ⟨c, q, k, u, hc, hq, hk, hu, hleap, hdoe⟩ := exists_era hday
  have hyear := yearOfEra_eq hc hq hk hu hleap hdoe
  obtain ⟨hblocks, hcenturies, -⟩ := year_div (e := 0) hc hq hk
  rw [Nat.mul_zero, Nat.zero_add] at hblocks hcenturies
  have hz : 146097 * ((n + 306) / 146097) + (n + 306) % 146097 = n + 306 :=
    Nat.div_add_mod (n + 306) 146097
  refine ⟨400 * ((n + 306) / 146097) + 100 * c + 4 * q + k, u, ?_, ?_, ?_⟩
  · have hu' : (n + 306) % 146097 - (365 * (100 * c + 4 * q + k) +
        (100 * c + 4 * q + k) / 4 - (100 * c + 4 * q + k) / 100) = u := by
      rw [hblocks, hcenturies]
      omega
    have hera : 400 * ((n + 306) / 146097) + 100 * c + 4 * q + k =
        100 * c + 4 * q + k + (n + 306) / 146097 * 400 := by omega
    simp only [civil, fromMarch, hyear, hu', hera]
  · rw [yearStart_eq hc hq hk]
    omega
  · have hnext := lt_yearStart_succ (e := (n + 306) / 146097) hc hq hk hu hleap
    omega

/-- The number of a day from its date: the inverse of `civil`. -/
def ordinal (date : Nat × Nat × Nat) : Nat :=
  let (y, m, d) := date
  let mp := if m ≤ 2 then m + 9 else m - 3
  yearStart (if m ≤ 2 then y - 1 else y) + (153 * mp + 2) / 5 + d - 307

theorem ordinal_fromMarch {y doy : Nat} (hdoy : doy < 366) :
    ordinal (fromMarch y doy) = yearStart y + doy - 306 := by
  unfold fromMarch ordinal
  dsimp only
  have hmonth : (5 * doy + 2) / 153 ≤ 11 := by omega
  have hday : (153 * ((5 * doy + 2) / 153) + 2) / 5 ≤ doy := by omega
  generalize (5 * doy + 2) / 153 = mp at *
  by_cases hm : mp < 10
  · rw [if_pos hm, if_neg (by omega), if_neg (by omega), if_neg (by omega), Nat.add_sub_cancel,
      Nat.add_zero]
    generalize yearStart y = start
    omega
  · have hyear : y + 1 - 1 = y := Nat.add_sub_cancel y 1
    have hback : mp - 9 + 9 = mp := by omega
    rw [if_neg hm, if_pos (by omega), if_pos (by omega), if_pos (by omega), hyear, hback]
    generalize yearStart y = start
    omega

theorem ordinal_civil (n : Nat) : ordinal (civil n) = n := by
  obtain ⟨y, doy, hcivil, hday, hnext⟩ := civil_eq n
  have hlast := yearStart_succ_le y
  rw [hcivil, ordinal_fromMarch (by omega)]
  omega

/-- One date is before another. -/
def Earlier (a b : Nat × Nat × Nat) : Prop :=
  a.1 < b.1 ∨ a.1 = b.1 ∧ (a.2.1 < b.2.1 ∨ a.2.1 = b.2.1 ∧ a.2.2 < b.2.2)

theorem fromMarch_earlier {y y' doy doy' : Nat} (h : y < y' ∨ y = y' ∧ doy < doy')
    (hdoy : doy < 366) (hdoy' : doy' < 366) : Earlier (fromMarch y doy) (fromMarch y' doy') := by
  simp only [Earlier, fromMarch]
  split_ifs <;> omega

theorem civil_earlier {n n' : Nat} (h : n < n') : Earlier (civil n) (civil n') := by
  obtain ⟨y, doy, hcivil, hday, hnext⟩ := civil_eq n
  obtain ⟨y', doy', hcivil', hday', hnext'⟩ := civil_eq n'
  have hlast := yearStart_succ_le y
  have hlast' := yearStart_succ_le y'
  rw [hcivil, hcivil']
  refine fromMarch_earlier ?_ (by omega) (by omega)
  obtain hlt | rfl | hgt := Nat.lt_trichotomy y y'
  · exact .inl hlt
  · exact .inr ⟨rfl, by omega⟩
  · -- the earlier day would lie behind the end of the later one's year
    have hstart : yearStart (y' + 1) ≤ yearStart y := yearStart_mono hgt
    omega

/-- The years of `datetime` have four digits. -/
theorem civil_lt {n : Nat} (h : n < 3652059) :
    (civil n).1 < 10000 ∧ (civil n).2.1 < 100 ∧ (civil n).2.2 < 100 := by
  obtain ⟨y, doy, hcivil, hday, hnext⟩ := civil_eq n
  have hlast := yearStart_succ_le y
  have hyear : y < 10000 := by
    by_contra hge
    have hstart : yearStart 10000 ≤ yearStart y := yearStart_mono (Nat.not_lt.mp hge)
    have hvalue : yearStart 10000 = 3652425 := rfl
    omega
  have hvalue : yearStart 9999 = 3652059 := rfl
  have hdoy : y = 9999 → doy < 306 := by
    rintro rfl
    omega
  rw [hcivil]
  simp only [fromMarch]
  split_ifs <;> omega

/-! ### Texts -/

theorem toList_pad {w n : Nat} (hw : 0 < w) (hn : n < 10 ^ w) : (pad w n).toList = fixed w n := by
  rw [← replicate_append_toDigits hw hn]
  simp [pad]

/-- What every `datetime` satisfies: its year has at most four digits, and its offset is less than a
day either way. -/
structure InRange (a : DateTime) : Prop where
  wall_nonneg : 0 ≤ a.wall
  wall_lt : a.wall < 3652059 * day
  offset_lt : ∀ o ∈ a.offset, o.natAbs < 86400000000

def dateText (date : Nat × Nat × Nat) : List Char :=
  fixed 4 date.1 ++ '-' :: (fixed 2 date.2.1 ++ '-' :: fixed 2 date.2.2)

/-- Hours, minutes and seconds of a number of microseconds. -/
def clockText (us : Nat) : List Char :=
  fixed 2 (us / 3600000000) ++ ':' :: (fixed 2 (us / 60000000 % 60) ++
    ':' :: fixed 2 (us / 1000000 % 60))

theorem length_dateText (date : Nat × Nat × Nat) : (dateText date).length = 10 := by
  simp [dateText]

theorem length_clockText (us : Nat) : (clockText us).length = 8 := by
  simp [clockText]

theorem dateText_lt {p q : Nat × Nat × Nat} (h : Earlier p q) (hy : q.1 < 10000) (hm : q.2.1 < 100)
    (hd : q.2.2 < 100) : dateText p < dateText q := by
  unfold dateText
  obtain hyear | ⟨heq, hmonth | ⟨heq', hday⟩⟩ := h
  · exact append_lt_append (by simp) (fixed_lt_fixed hyear hy)
  · rw [heq]
    refine List.append_left_lt (List.cons_lt_cons_iff.mpr (.inr ⟨rfl, ?_⟩))
    exact append_lt_append (by simp) (fixed_lt_fixed hmonth hm)
  · rw [heq, heq']
    refine List.append_left_lt (List.cons_lt_cons_iff.mpr (.inr ⟨rfl, ?_⟩))
    refine List.append_left_lt (List.cons_lt_cons_iff.mpr (.inr ⟨rfl, ?_⟩))
    exact fixed_lt_fixed hday hd

theorem clockText_lt {us us' : Nat} (h : us / 1000000 < us' / 1000000)
    (hus' : us' < 86400000000) : clockText us < clockText us' := by
  unfold clockText
  obtain hhour | ⟨heq, hminute | ⟨heq', hsecond⟩⟩ : us / 3600000000 < us' / 3600000000 ∨
      us / 3600000000 = us' / 3600000000 ∧ (us / 60000000 % 60 < us' / 60000000 % 60 ∨
        us / 60000000 % 60 = us' / 60000000 % 60 ∧ us / 1000000 % 60 < us' / 1000000 % 60) := by
    omega
  · exact append_lt_append (by simp) (fixed_lt_fixed hhour (by omega))
  · rw [heq]
    refine List.append_left_lt (List.cons_lt_cons_iff.mpr (.inr ⟨rfl, ?_⟩))
    exact append_lt_append (by simp) (fixed_lt_fixed hminute (by omega))
  · rw [heq, heq']
    refine List.append_left_lt (List.cons_lt_cons_iff.mpr (.inr ⟨rfl, ?_⟩))
    refine List.append_left_lt (List.cons_lt_cons_iff.mpr (.inr ⟨rfl, ?_⟩))
    exact fixed_lt_fixed hsecond (by omega)

theorem toList_hoursMinutes {us : Nat} (h : us < 86400000000) : (hoursMinutes us).toList =
    fixed 2 (us / 3600000000) ++ ':' :: fixed 2 (us / 60000000 % 60) := by
  unfold hoursMinutes
  rw [String.toList_append, String.toList_append, toList_pad (by decide) (by omega),
    toList_pad (by decide) (by omega), List.append_assoc]
  rfl

section

variable {a b : DateTime}

theorem InRange.day_lt (h : a.InRange) : (a.wall / day).toNat < 3652059 := by
  have hlow := h.wall_nonneg
  have hhigh := h.wall_lt
  unfold day hour minute second at *
  omega

theorem InRange.toList_dateIso (h : a.InRange) :
    a.dateIso.toList = dateText (civil (a.wall / day).toNat) := by
  obtain ⟨hy, hm, hd⟩ := civil_lt h.day_lt
  simp only [dateIso, String.toList_append]
  rw [toList_pad (by decide) hy, toList_pad (by decide) hm, toList_pad (by decide) hd]
  simp [dateText]

/-- Microseconds after a whole second, where there are any. -/
def fractionText (us : Nat) : List Char :=
  if us % 1000000 = 0 then [] else '.' :: fixed 6 (us % 1000000)

/-- An offset without its sign. -/
def magnitudeText (us : Nat) : List Char :=
  fixed 2 (us / 3600000000) ++ ':' :: (fixed 2 (us / 60000000 % 60) ++
    ((if us % 60000000 = 0 then [] else ':' :: fixed 2 (us / 1000000 % 60)) ++ fractionText us))

def zoneText : Option Int → List Char
  | none => []
  | some o => (if o < 0 then '-' else '+') :: magnitudeText o.natAbs

theorem toList_fraction (us : Nat) :
    (if us % 1000000 = 0 then "" else "." ++ pad 6 (us % 1000000)).toList = fractionText us := by
  unfold fractionText
  split
  · rfl
  · rw [String.toList_append, toList_pad (by decide) (by omega)]
    rfl

theorem toList_offsetIso {o : Int} (h : o.natAbs < 86400000000) :
    (offsetIso o).toList = zoneText (some o) := by
  unfold offsetIso
  simp only [String.toList_append, toList_hoursMinutes h, toList_fraction]
  unfold zoneText magnitudeText
  have hseconds : (if o.natAbs % 60000000 = 0 then "" else
      ":" ++ pad 2 (o.natAbs / 1000000 % 60)).toList =
        if o.natAbs % 60000000 = 0 then [] else ':' :: fixed 2 (o.natAbs / 1000000 % 60) := by
    split
    · rfl
    · rw [String.toList_append, toList_pad (by decide) (by omega)]
      rfl
  rw [hseconds]
  by_cases hsign : o < 0
  · simp [hsign]
  · simp [hsign]

/-- Microseconds of the day. -/
def dayTime (a : DateTime) : Nat :=
  (a.wall % day).toNat

theorem dayTime_lt (a : DateTime) : a.dayTime < 86400000000 := by
  unfold dayTime day hour minute second
  omega

theorem InRange.toList_isoformat (h : a.InRange) : a.isoformat.toList =
    dateText (civil (a.wall / day).toNat) ++ 'T' ::
      (clockText a.dayTime ++ (fractionText a.dayTime ++ zoneText a.offset)) := by
  have hzone : ((a.offset.map offsetIso).getD "").toList = zoneText a.offset := by
    cases hoffset : a.offset with
    | none => rfl
    | some o => exact toList_offsetIso (h.offset_lt o hoffset)
  have htime := dayTime_lt a
  have hus : (a.wall % day).toNat = a.dayTime := rfl
  simp only [isoformat, hus, String.toList_append, toList_fraction, h.toList_dateIso,
    toList_hoursMinutes htime, hzone]
  rw [toList_pad (by decide) (by omega)]
  simp [clockText]

/-! ### Order -/

/-- A fraction comes after no fraction, whatever sign follows. -/
theorem fractionText_append_lt {us us' : Nat} {s t : List Char} (h : us % 1000000 < us' % 1000000)
    (hs : ∀ c ∈ s.head?, c < '.') : fractionText us ++ s < fractionText us' ++ t := by
  unfold fractionText
  rw [if_neg (by omega : us' % 1000000 ≠ 0), List.cons_append]
  by_cases hwhole : us % 1000000 = 0
  · rw [if_pos hwhole, List.nil_append]
    cases s with
    | nil => exact List.nil_lt_cons _ _
    | cons c s => exact List.cons_lt_cons_iff.mpr (.inl (hs c rfl))
  · rw [if_neg hwhole, List.cons_append]
    refine List.cons_lt_cons_iff.mpr (.inr ⟨rfl, ?_⟩)
    exact append_lt_append (by simp) (fixed_lt_fixed h (by omega))

theorem magnitudeText_lt {us us' : Nat} (h : us < us') (hus' : us' < 86400000000) :
    magnitudeText us < magnitudeText us' := by
  unfold magnitudeText
  obtain hhour | ⟨heq, hminute | ⟨heq', hrest⟩⟩ : us / 3600000000 < us' / 3600000000 ∨
      us / 3600000000 = us' / 3600000000 ∧ (us / 60000000 % 60 < us' / 60000000 % 60 ∨
        us / 60000000 % 60 = us' / 60000000 % 60 ∧ us % 60000000 < us' % 60000000) := by
    omega
  · exact append_lt_append (by simp) (fixed_lt_fixed hhour (by omega))
  · rw [heq]
    refine List.append_left_lt (List.cons_lt_cons_iff.mpr (.inr ⟨rfl, ?_⟩))
    exact append_lt_append (by simp) (fixed_lt_fixed hminute (by omega))
  · rw [heq, heq']
    refine List.append_left_lt (List.cons_lt_cons_iff.mpr (.inr ⟨rfl, ?_⟩))
    refine List.append_left_lt ?_
    rw [if_neg (by omega : us' % 60000000 ≠ 0)]
    by_cases hwhole : us % 60000000 = 0
    · -- nothing follows the minutes
      have hfraction : us % 1000000 = 0 := by omega
      rw [if_pos hwhole, fractionText, if_pos hfraction]
      exact List.nil_lt_cons _ _
    · rw [if_neg hwhole]
      refine List.cons_lt_cons_iff.mpr (.inr ⟨rfl, ?_⟩)
      obtain hsecond | ⟨heq'', hmicro⟩ : us / 1000000 % 60 < us' / 1000000 % 60 ∨
          us / 1000000 % 60 = us' / 1000000 % 60 ∧ us % 1000000 < us' % 1000000 := by omega
      · exact append_lt_append (by simp) (fixed_lt_fixed hsecond (by omega))
      · rw [heq'']
        refine List.append_left_lt ?_
        have hlt := fractionText_append_lt (s := []) (t := []) hmicro (by simp)
        rwa [List.append_nil, List.append_nil] at hlt

/-- One offset is written before another: `+` comes before `-`, and then the size counts. -/
def ZoneEarlier (o o' : Int) : Prop :=
  0 ≤ o ∧ o' < 0 ∨ 0 ≤ o ∧ o < o' ∨ o' < o ∧ o < 0

theorem zoneText_lt {o o' : Int} (h : ZoneEarlier o o') (ho' : o'.natAbs < 86400000000) :
    zoneText (some o) < zoneText (some o') := by
  simp only [zoneText]
  obtain ⟨ho, hneg⟩ | ⟨ho, hlt⟩ | ⟨hlt, hneg⟩ := h
  · rw [if_neg (Int.not_lt.mpr ho), if_pos hneg]
    exact List.cons_lt_cons_iff.mpr (.inl (by decide))
  · rw [if_neg (Int.not_lt.mpr ho), if_neg (by omega : ¬ o' < 0)]
    exact List.cons_lt_cons_iff.mpr (.inr ⟨rfl, magnitudeText_lt (by omega) ho'⟩)
  · rw [if_pos hneg, if_pos (by omega)]
    exact List.cons_lt_cons_iff.mpr (.inr ⟨rfl, magnitudeText_lt (by omega) ho'⟩)

/-- A zone begins with its sign. -/
theorem zoneText_head (offset : Option Int) : ∀ c ∈ (zoneText offset).head?, c < '.' := by
  cases offset with
  | none => simp [zoneText]
  | some o =>
    intro c hc
    obtain rfl : (if o < 0 then '-' else '+') = c := Option.some.inj hc
    split <;> decide

/-- An earlier wall clock has an earlier text. -/
theorem isoformat_lt_of_wall (ha : a.InRange) (hb : b.InRange) (h : a.wall < b.wall) :
    a.isoformat < b.isoformat := by
  rw [String.lt_iff, ha.toList_isoformat, hb.toList_isoformat]
  have hwall (x : DateTime) (hx : x.InRange) :
      x.wall = 86400000000 * (x.wall / day).toNat + x.dayTime := by
    have hlow := hx.wall_nonneg
    unfold dayTime day hour minute second
    omega
  have ha' := hwall a ha
  have hb' := hwall b hb
  have htime := dayTime_lt a
  have htime' := dayTime_lt b
  obtain ⟨hy, hm, hd⟩ := civil_lt hb.day_lt
  obtain hday | ⟨heq, hclock⟩ : (a.wall / day).toNat < (b.wall / day).toNat ∨
      (a.wall / day).toNat = (b.wall / day).toNat ∧ a.dayTime < b.dayTime := by omega
  · refine append_lt_append ?_ (dateText_lt (civil_earlier hday) hy hm hd)
    rw [length_dateText, length_dateText]
  · rw [heq]
    refine List.append_left_lt (List.cons_lt_cons_iff.mpr (.inr ⟨rfl, ?_⟩))
    obtain hsecond | ⟨hsame, hmicro⟩ : a.dayTime / 1000000 < b.dayTime / 1000000 ∨
        a.dayTime / 1000000 = b.dayTime / 1000000 ∧ a.dayTime % 1000000 < b.dayTime % 1000000 := by
      omega
    · refine append_lt_append ?_ (clockText_lt hsecond htime')
      rw [length_clockText, length_clockText]
    · have hclock : clockText a.dayTime = clockText b.dayTime := by
        have hhours : a.dayTime / 3600000000 = b.dayTime / 3600000000 := by omega
        have hminutes : a.dayTime / 60000000 % 60 = b.dayTime / 60000000 % 60 := by omega
        unfold clockText
        rw [hhours, hminutes, hsame]
      rw [hclock]
      exact List.append_left_lt (fractionText_append_lt hmicro (zoneText_head a.offset))

/-- On one wall clock the offsets decide. -/
theorem isoformat_lt_of_offset {o o' : Int} (ha : a.InRange) (hb : b.InRange)
    (hwall : a.wall = b.wall) (hoffset : a.offset = some o) (hoffset' : b.offset = some o')
    (h : ZoneEarlier o o') : a.isoformat < b.isoformat := by
  rw [String.lt_iff, ha.toList_isoformat, hb.toList_isoformat, hoffset, hoffset']
  have htime : a.dayTime = b.dayTime := by rw [dayTime, dayTime, hwall]
  rw [hwall, htime]
  refine List.append_left_lt (List.cons_lt_cons_iff.mpr (.inr ⟨rfl, ?_⟩))
  exact List.append_left_lt (List.append_left_lt (zoneText_lt h (hb.offset_lt o' hoffset')))

/-- The order of the texts of aware datetimes: wall clocks first, then offsets. -/
theorem isoformat_lt_iff {o o' : Int} (ha : a.InRange) (hb : b.InRange) (hoffset : a.offset = some o)
    (hoffset' : b.offset = some o') :
    a.isoformat < b.isoformat ↔ a.wall < b.wall ∨ a.wall = b.wall ∧ ZoneEarlier o o' := by
  constructor
  · intro h
    obtain hlt | heq | hgt := lt_trichotomy a.wall b.wall
    · exact .inl hlt
    · refine .inr ⟨heq, ?_⟩
      by_contra hzone
      have hback : o = o' ∨ ZoneEarlier o' o := by
        unfold ZoneEarlier at *
        omega
      obtain rfl | hback := hback
      · have hsame : a = b := by
          cases a
          cases b
          exact (mk.injEq _ _ _ _).mpr ⟨heq, hoffset.trans hoffset'.symm⟩
        rw [hsame] at h
        exact lt_irrefl _ h
      · exact lt_asymm h (isoformat_lt_of_offset hb ha heq.symm hoffset' hoffset hback)
    · exact absurd h (lt_asymm (isoformat_lt_of_wall hb ha hgt))
  · rintro (hlt | ⟨heq, hzone⟩)
    · exact isoformat_lt_of_wall ha hb hlt
    · exact isoformat_lt_of_offset ha hb heq hoffset hoffset' hzone

/-- A text tells wall clock and offset. -/
theorem isoformat_injective {o o' : Int} (ha : a.InRange) (hb : b.InRange)
    (hoffset : a.offset = some o) (hoffset' : b.offset = some o')
    (h : a.isoformat = b.isoformat) : a.wall = b.wall ∧ o = o' := by
  have hlt := mt (isoformat_lt_iff ha hb hoffset hoffset').mpr h.not_lt
  have hgt := mt (isoformat_lt_iff hb ha hoffset' hoffset).mpr h.not_gt
  unfold ZoneEarlier at hlt hgt
  omega

end

end BlueTeam.Python.DateTime
