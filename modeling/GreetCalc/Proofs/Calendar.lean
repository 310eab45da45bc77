import GreetCalc.Calendar
import Mathlib.Tactic.IntervalCases

/-!
# Counting days

`Date.ofDays` finds a date by quotients, counting years from March. Here days are counted one year
and one month after the other, as a calendar on the wall has them (`Date.sinceEpoch`), and the two
agree: every number of days has a date that the calendar has (`valid_ofDays`), and counting up to
this date gives the number back (`sinceEpoch_ofDays`).

Both sides are compared with the same sum. The days before a year are `365` for each year before it
and one for each leap day (`yearsLength_eq`); an era, a year of an era and a day of such a year are
found by dividing (`inEra_spec`, `inYear_spec`).

Counting also keeps the order of dates: by year, then by month, then by day (`sinceEpoch_lt`).
-/

namespace GreetCalc

namespace Date

/-! ## Counting -/

/-- The number of days of a year. -/
def yearLength (y : Int) : Int := if isLeap y then 366 else 365

/-- The number of days of `n` years, the first of which is 1970. -/
def yearsLength : Nat → Int
  | 0 => 0
  | n + 1 => yearsLength n + yearLength (1970 + n)

/-- The number of days of the first `n` months of a year. -/
def monthsLength (y : Int) : Nat → Int
  | 0 => 0
  | n + 1 => monthsLength y n + daysIn y (n + 1)

/-- The number of days from the first of January 1970 to a date that is not before it. -/
def sinceEpoch (d : Date) : Int :=
  yearsLength (d.year - 1970).toNat + monthsLength d.year (d.month - 1) + (d.day - 1)

/-- The rule of the calendar: every fourth year, but of the full centuries only every fourth. -/
theorem isLeap_iff (y : Int) :
    isLeap y = true ↔ y % 4 = 0 ∧ (y % 100 ≠ 0 ∨ y % 400 = 0) := by
  simp [isLeap]

/-! ## Leap days -/

/-- The number of leap days from the year 1 up to a year. -/
def leapDays (y : Int) : Int := y / 4 - y / 100 + y / 400

/-- One if a year has a leap day, and else zero. -/
def leapDay (y : Int) : Int := if isLeap y then 1 else 0

theorem leapDays_eq (y : Int) : leapDays y = leapDays (y - 1) + leapDay y := by
  have hleap := isLeap_iff y
  unfold leapDays leapDay
  split
  · next h =>
    have := hleap.mp h
    omega
  · next h =>
    have := mt hleap.mpr h
    omega

/-- An era has 97 leap days. -/
theorem leapDays_era (era : Int) {y : Nat} (h : y < 400) :
    leapDays (era * 400 + y) = 97 * era + y / 4 - y / 100 := by
  unfold leapDays
  omega

theorem yearLength_eq (y : Int) : yearLength y = 365 + leapDay y := by
  unfold yearLength leapDay
  split
  · rfl
  · rfl

/-- The days of the years from 1970 on, in closed form. -/
theorem yearsLength_eq (n : Nat) :
    yearsLength n = 365 * n + leapDays (1969 + n) - leapDays 1969 := by
  induction n with
  | zero => rfl
  | succ n ih =>
      have hstep := leapDays_eq (1970 + n)
      have hbefore : (1970 + n : Int) - 1 = 1969 + n := by omega
      have hyear : (1969 + (n + 1 : Nat) : Int) = 1970 + n := by omega
      rw [yearsLength, ih, yearLength_eq, hyear]
      rw [hbefore] at hstep
      omega

/-! ## Months -/

theorem daysIn_february (y : Int) : (daysIn y 2 : Int) = 28 + leapDay y := by
  unfold daysIn leapDay
  cases isLeap y <;> rfl

/-- From March on, the lengths of months repeat every five months. -/
theorem daysIn_eq (y : Int) {m : Nat} (h3 : 3 ≤ m) (h12 : m ≤ 12) :
    (daysIn y m : Int) = (153 * (m - 2) + 2) / 5 - (153 * (m - 3) + 2) / 5 := by
  unfold daysIn
  rw [if_neg (by omega)]
  interval_cases m <;> rfl

theorem monthsLength_of_le_one (y : Int) {m : Nat} (h : m ≤ 1) :
    monthsLength y m = 31 * m := by
  match m, h with
  | 0, _ => rfl
  | 1, _ => rfl

/-- From March on the months come in a pattern of five with 153 days. -/
theorem monthsLength_of_two_le (y : Int) {m : Nat} (h2 : 2 ≤ m) (h12 : m ≤ 12) :
    monthsLength y m = (153 * (m - 2) + 2) / 5 + 59 + leapDay y := by
  induction m, h2 using Nat.le_induction with
  | base =>
      have hjanuary := monthsLength_of_le_one y (m := 1) (by omega)
      have hfebruary := daysIn_february y
      show monthsLength y 1 + daysIn y 2 = _
      omega
  | succ m h2 ih =>
      have hmonth := daysIn_eq y (m := m + 1) (by omega) h12
      have := ih (by omega)
      rw [monthsLength]
      omega

/-! ## Dates -/

/-- A year of an era, counted from March, and a day of this year. -/
theorem inEra_spec {n : Nat} (h : n < 146097) :
    (inEra n).1 < 400 ∧ (inEra n).2 < 366 ∧
    n + (inEra n).1 / 100 = 365 * (inEra n).1 + (inEra n).1 / 4 + (inEra n).2 ∧
    ((inEra n).2 = 365 → ((inEra n).1 + 1) % 4 = 0 ∧
      (((inEra n).1 + 1) % 100 ≠ 0 ∨ ((inEra n).1 + 1) % 400 = 0)) := by
  unfold inEra
  dsimp only
  -- The century, the cycle of four years in it and the year in this cycle.
  generalize hc : min (n / 36524) 3 = c
  generalize hq : (n - 36524 * c) / 1461 = q
  generalize hr : min ((n - 36524 * c) % 1461 / 365) 3 = r
  have hcycle : q ≤ 24 := by omega
  have hyear : r ≤ 3 := by omega
  have hfour : (100 * c + 4 * q + r) / 4 = 25 * c + q := by omega
  have hhundred : (100 * c + 4 * q + r) / 100 = c := by omega
  have hday : n = 36524 * c + 1461 * q + 365 * r + ((n - 36524 * c) % 1461 - 365 * r) := by omega
  refine ⟨by omega, by omega, by omega, ?_⟩
  -- Only the last year of four has a day left, and the last century of an era.
  intro hlast
  have hr3 : r = 3 := by omega
  have hlong : q ≠ 24 ∨ c = 3 := by omega
  omega

/-- A month, and a day of this month: before January, the days of the months before it and 59 days
more are those since March; from January on, they are 306 days less. -/
theorem inYear_spec : ∀ k < 366,
    (1 ≤ (inYear k).1 ∧ (inYear k).1 ≤ 12) ∧ 1 ≤ (inYear k).2 ∧
    (k < 306 → 3 ≤ (inYear k).1 ∧
      (153 * ((inYear k).1 - 3) + 2) / 5 + (inYear k).2 = k + 1 ∧
      (153 * ((inYear k).1 - 3) + 2) / 5 + (inYear k).2 ≤ (153 * ((inYear k).1 - 2) + 2) / 5) ∧
    (306 ≤ k → (inYear k).1 ≤ 2 ∧
      31 * ((inYear k).1 - 1) + (inYear k).2 + 306 = k + 1 ∧ (inYear k).2 ≤ 31) := by
  decide +kernel

/-- The date of a number of days, by its era, the year of the era and the day of this year. -/
theorem exists_ofDays (z : Int) :
    ∃ (era : Int) (y k : Nat), (y < 400 ∧ k < 366) ∧
      z + 719468 = 146097 * era + 365 * y + y / 4 - y / 100 + k ∧
      (k = 365 → isLeap (era * 400 + y + 1) = true) ∧
      ofDays z = ⟨if (inYear k).1 ≤ 2 then era * 400 + y + 1 else era * 400 + y,
        (inYear k).1, (inYear k).2⟩ := by
  have hn : ((z + epochDays) % eraDays).toNat < 146097 := by
    unfold eraDays
    omega
  obtain ⟨hy, hk, hsum, hlast⟩ := inEra_spec hn
  refine ⟨(z + epochDays) / eraDays, _, _, ⟨hy, hk⟩, ?_, ?_, rfl⟩
  · unfold epochDays eraDays at hsum ⊢
    omega
  · intro h
    have := hlast h
    rw [isLeap_iff]
    omega

/-- Every number of days, before 1970 as well, has a date that the calendar has. -/
theorem valid_ofDays (z : Int) : (ofDays z).Valid := by
  obtain ⟨era, y, k, ⟨-, hk⟩, -, hlast, hdate⟩ := exists_ofDays z
  obtain ⟨hmonth, hday, hearly, hlate⟩ := inYear_spec k hk
  rw [hdate]
  refine ⟨hmonth, hday, ?_⟩
  dsimp only
  by_cases h : k < 306
  · obtain ⟨h3, -, hle⟩ := hearly h
    have hlength := daysIn_eq (era * 400 + y) h3 hmonth.2
    rw [if_neg (by omega)]
    obtain ⟨f, hf⟩ : ∃ f, (inYear k).1 = f + 3 := ⟨(inYear k).1 - 3, by omega⟩
    rw [hf] at hlength hle ⊢
    omega
  · obtain ⟨h2, hsum, hle⟩ := hlate (by omega)
    rw [if_pos h2]
    by_cases h1 : (inYear k).1 = 1
    · rw [h1]
      exact hle
    · -- The last day of a year that is counted from March is the leap day.
      have hfebruary := daysIn_february (era * 400 + y + 1)
      rw [show (inYear k).1 = 2 by omega] at hsum ⊢
      unfold leapDay at hfebruary
      by_cases h365 : k = 365
      · rw [if_pos (hlast h365)] at hfebruary
        omega
      · split at hfebruary
        · omega
        · omega

theorem sinceEpoch_eq {d : Date} (h : 1970 ≤ d.year) :
    d.sinceEpoch = 365 * (d.year - 1970) + leapDays (d.year - 1) - leapDays 1969
      + monthsLength d.year (d.month - 1) + (d.day - 1) := by
  have hyears : ((d.year - 1970).toNat : Int) = d.year - 1970 := by omega
  rw [sinceEpoch, yearsLength_eq, hyears, show 1969 + (d.year - 1970) = d.year - 1 by omega]

/-- Counting up to the date of a number of days gives this number. -/
theorem sinceEpoch_ofDays {z : Int} (h : 0 ≤ z) :
    1970 ≤ (ofDays z).year ∧ (ofDays z).sinceEpoch = z := by
  obtain ⟨era, y, k, ⟨hy, hk⟩, hz, -, hdate⟩ := exists_ofDays z
  obtain ⟨hmonth, hday, hearly, hlate⟩ := inYear_spec k hk
  have hepoch : leapDays 1969 = 477 := rfl
  have hera := leapDays_era era hy
  -- January and February belong to the calendar year after the one counted from March.
  by_cases hmarch : k < 306
  · obtain ⟨h3, hsum, -⟩ := hearly hmarch
    rw [if_neg (by omega)] at hdate
    have hyear : 1970 ≤ era * 400 + y := by omega
    have hleap := leapDays_eq (era * 400 + y)
    have hmonths := monthsLength_of_two_le (era * 400 + y) (m := (inYear k).1 - 1)
      (by omega) (by omega)
    rw [hdate]
    refine ⟨hyear, ?_⟩
    rw [sinceEpoch_eq hyear]
    dsimp only
    rw [hmonths]
    omega
  · obtain ⟨h2, hsum, -⟩ := hlate (by omega)
    rw [if_pos h2] at hdate
    have hyear : 1970 ≤ era * 400 + y + 1 := by omega
    have hmonths := monthsLength_of_le_one (era * 400 + y + 1) (m := (inYear k).1 - 1) (by omega)
    rw [hdate]
    refine ⟨hyear, ?_⟩
    rw [sinceEpoch_eq hyear]
    dsimp only
    rw [hmonths, show era * 400 + y + 1 - 1 = era * 400 + y by omega]
    omega

/-! ## Order -/

/-- Earlier by the year, or else by the month, or else by the day. -/
def Before (d e : Date) : Prop :=
  d.year < e.year ∨
    d.year = e.year ∧ (d.month < e.month ∨ d.month = e.month ∧ d.day < e.day)

theorem yearLength_pos (y : Int) : 0 < yearLength y := by
  unfold yearLength
  split <;> decide

theorem yearsLength_mono {m n : Nat} (h : m ≤ n) : yearsLength m ≤ yearsLength n := by
  induction h with
  | refl => exact Int.le_refl _
  | @step k _ ih =>
      have := yearLength_pos (1970 + k)
      rw [yearsLength]
      omega

theorem monthsLength_mono (y : Int) {m n : Nat} (h : m ≤ n) :
    monthsLength y m ≤ monthsLength y n := by
  induction h with
  | refl => exact Int.le_refl _
  | step _ ih =>
      rw [monthsLength]
      omega

theorem Valid.dayOfMonth {d : Date} (h : d.Valid) :
    monthsLength d.year (d.month - 1) + (d.day - 1) < monthsLength d.year d.month := by
  obtain ⟨⟨h1, -⟩, -, hle⟩ := h
  have hmonth : monthsLength d.year (d.month - 1 + 1) =
      monthsLength d.year (d.month - 1) + daysIn d.year (d.month - 1 + 1) := rfl
  rw [Nat.sub_add_cancel h1] at hmonth
  omega

theorem Valid.dayOfYear {d : Date} (h : d.Valid) :
    0 ≤ monthsLength d.year (d.month - 1) + (d.day - 1) ∧
    monthsLength d.year (d.month - 1) + (d.day - 1) < yearLength d.year := by
  have hmonth := h.dayOfMonth
  obtain ⟨⟨-, h12⟩, h1, -⟩ := h
  have hstart := monthsLength_mono d.year (Nat.zero_le (d.month - 1))
  have hend := monthsLength_mono d.year h12
  have hyear : monthsLength d.year 12 = yearLength d.year := by
    rw [monthsLength_of_two_le d.year (by omega) (by omega), yearLength_eq]
    omega
  have hzero : monthsLength d.year 0 = 0 := rfl
  omega

/-- Counting days keeps the order of dates. -/
theorem sinceEpoch_lt {d e : Date} (hd : d.Valid) (he : e.Valid) (hfrom : 1970 ≤ d.year)
    (h : d.Before e) : d.sinceEpoch < e.sinceEpoch := by
  unfold sinceEpoch
  rcases h with hyear | ⟨hyear, hmonth | ⟨hmonth, hday⟩⟩
  · -- The whole year of `d` lies before the year of `e`.
    have hsucc : yearsLength ((d.year - 1970).toNat + 1) =
        yearsLength (d.year - 1970).toNat + yearLength d.year := by
      rw [yearsLength, show 1970 + ((d.year - 1970).toNat : Int) = d.year by omega]
    have hmono : yearsLength ((d.year - 1970).toNat + 1) ≤ yearsLength (e.year - 1970).toNat :=
      yearsLength_mono (by omega)
    have hd' := hd.dayOfYear
    have he' := he.dayOfYear
    omega
  · have hmono : monthsLength e.year d.month ≤ monthsLength e.year (e.month - 1) :=
      monthsLength_mono e.year (by omega)
    have hd' := hd.dayOfMonth
    have he' := he.2.1
    rw [hyear] at hd' ⊢
    omega
  · rw [hyear, hmonth]
    omega

/-- The days of all years before the year of a date are counted. -/
theorem yearsLength_le_sinceEpoch {d : Date} (h : d.Valid) :
    yearsLength (d.year - 1970).toNat ≤ d.sinceEpoch := by
  have := h.dayOfYear
  rw [sinceEpoch]
  omega

end Date

/-! ## Times of day -/

namespace TimeOfDay

/-- A time that a day has. -/
def Valid (c : TimeOfDay) : Prop := c.hour < 24 ∧ c.minute < 60 ∧ c.second < 60

instance (c : TimeOfDay) : Decidable c.Valid := inferInstanceAs (Decidable (_ ∧ _))

/-- The number of seconds from midnight. -/
def sinceMidnight (c : TimeOfDay) : Int := 3600 * c.hour + 60 * c.minute + c.second

theorem sinceMidnight_lt {c : TimeOfDay} (h : c.Valid) :
    0 ≤ c.sinceMidnight ∧ c.sinceMidnight < daySeconds := by
  obtain ⟨hh, hm, hs⟩ := h
  unfold sinceMidnight daySeconds
  omega

/-- The time of day that is found is a valid one and lies as many seconds after midnight. -/
theorem ofSeconds_spec {s : Nat} (h : (s : Int) < daySeconds) :
    (ofSeconds s).Valid ∧ (ofSeconds s).micro = 0 ∧ (ofSeconds s).sinceMidnight = s := by
  unfold daySeconds at h
  unfold Valid sinceMidnight ofSeconds
  dsimp only
  omega

end TimeOfDay

/-- The number of seconds from the beginning of 1970 to a time of a day. -/
def secondsTo (d : Date) (c : TimeOfDay) : Int := daySeconds * d.sinceEpoch + c.sinceMidnight

end GreetCalc
