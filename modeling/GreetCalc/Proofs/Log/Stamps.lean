import GreetCalc.Proofs.Calendar
import GreetCalc.Proofs.Decimal.Padded
import GreetCalc.Proofs.Log

/-!
# Time stamps

Every line of the log begins with a time stamp. For the years from 1970 to 9999 it is a text of a
fixed layout that denotes a single date and time of day, the ones that are as many seconds from the
beginning of 1970 as the clock says. As all fields are padded and stand in the order of their
weight, time stamps sort like the clock (`line_stamps`).
-/

namespace GreetCalc

open Decimal (Padded Fields)

/-! ## Texts that denote a time -/

/-- Year, month and day, hour, minute and second: `YYYY-MM-DD HH:MM:SS`, but for the width of the
last one. -/
def stampLayout : List (Nat × Char) := [(4, '-'), (2, '-'), (2, ' '), (2, ':'), (2, ':')]

/-- The numbers of a time stamp. -/
def stampNumbers (d : Date) (c : TimeOfDay) : List Nat :=
  [d.year.toNat, d.month, d.day, c.hour, c.minute, c.second]

/-- A text is a time stamp of a date and a time of day to the second. -/
structure Denotes (s : String) (d : Date) (c : TimeOfDay) : Prop where
  fields : Fields stampLayout 2 (stampNumbers d c) s.toList
  year : 0 ≤ d.year
  micro : c.micro = 0

/-- The beginning of a line of the log, as long as a time stamp. -/
def Record.stamp (now : Int) (r : Record) : String := String.ofList ((r.line now).toList.take 19)

theorem Denotes.length {s : String} {d : Date} {c : TimeOfDay} (h : Denotes s d c) :
    s.toList.length = 19 := h.fields.length

/-- The numbers of a time stamp are those of one time. -/
theorem Denotes.eq_of_numbers {s t : String} {d e : Date} {c b : TimeOfDay} (h : Denotes s d c)
    (h' : Denotes t e b) (hnumbers : stampNumbers d c = stampNumbers e b) : d = e ∧ c = b := by
  obtain ⟨-, hfrom, hmicro⟩ := h
  obtain ⟨-, hfrom', hmicro'⟩ := h'
  obtain ⟨year, month, day⟩ := d
  obtain ⟨year', month', day'⟩ := e
  obtain ⟨hour, minute, second, micro⟩ := c
  obtain ⟨hour', minute', second', micro'⟩ := b
  simp only [stampNumbers, List.cons.injEq, and_true] at hnumbers hfrom hfrom' hmicro hmicro'
  obtain ⟨hyear, rfl, rfl, rfl, rfl, rfl⟩ := hnumbers
  rw [hmicro, hmicro', show year = year' by omega]
  exact ⟨rfl, rfl⟩

/-- A stamp denotes a single day and time. -/
theorem Denotes.unique {s : String} {d e : Date} {c b : TimeOfDay} (h : Denotes s d c)
    (h' : Denotes s e b) : d = e ∧ c = b :=
  h.eq_of_numbers h' (h.fields.unique h'.fields)

/-! ## The stamp of a clock value -/

theorem padded_twoDigits {n : Nat} (h : n < 100) : Padded 2 n (twoDigits n).toList := by
  unfold twoDigits
  rw [String.toList_ofList]
  split
  · next hone =>
    obtain ⟨hlength, hdigits, hvalue⟩ : Padded 1 n (Decimal.digits n) := by
      refine ⟨?_, fun _ => Decimal.isAsciiDigit_of_mem_digits, Decimal.value_digits n⟩
      have := Decimal.length_digits_le (n := n) (k := 1) (by omega) hone
      have := List.length_pos_of_ne_nil (Decimal.digits_ne_nil n)
      omega
    refine ⟨by rw [List.length_cons, hlength], ?_, ?_⟩
    · intro c hc
      rcases List.mem_cons.mp hc with rfl | hc
      · decide
      · exact hdigits c hc
    · rw [Decimal.value_cons, hvalue]
      show _ * 0 + n = n
      omega
  · exact Decimal.padded_digits (by omega) (by omega)

theorem padded_numeral {y : Int} (hlo : 1000 ≤ y) (hhi : y ≤ 9999) :
    Padded 4 y.toNat (Decimal.numeral y).toList := by
  rw [Decimal.toList_numeral_of_nonneg (by omega), show y.natAbs = y.toNat by omega]
  exact Decimal.padded_digits (by omega) (by omega)

theorem stamp_eq (d : Date) (c : TimeOfDay) :
    stamp d c = Decimal.numeral d.year ++ "-" ++ twoDigits d.month ++ "-" ++ twoDigits d.day ++ " "
      ++ twoDigits c.hour ++ ":" ++ twoDigits c.minute ++ ":" ++ twoDigits c.second := by
  simp [stamp, stampParts, StampPart.shown, String.join]

/-- The description of time stamps and the stamps themselves have the same parts. -/
example : stampFormat = "%Y-%m-%d %H:%M:%S" := by decide

theorem denotes_stamp {d : Date} {c : TimeOfDay} (hlo : 1000 ≤ d.year) (hhi : d.year ≤ 9999)
    (hd : d.Valid) (hc : c.Valid) (hmicro : c.micro = 0) :
    Denotes (stamp d c) d c := by
  obtain ⟨⟨-, hmonth⟩, -, hday⟩ := hd
  obtain ⟨hhour, hminute, hsecond⟩ := hc
  have hdays : Date.daysIn d.year d.month ≤ 31 := by
    unfold Date.daysIn
    split
    · split <;> decide
    · split <;> decide
  have hfields : Fields stampLayout 2 (stampNumbers d c) _ :=
    .more (padded_numeral hlo hhi) <|
    .more (padded_twoDigits (n := d.month) (by omega)) <|
    .more (padded_twoDigits (n := d.day) (by omega)) <|
    .more (padded_twoDigits (n := c.hour) (by omega)) <|
    .more (padded_twoDigits (n := c.minute) (by omega)) <|
    .last (padded_twoDigits (n := c.second) (by omega))
  refine ⟨?_, by omega, hmicro⟩
  rw [stamp_eq]
  simpa using hfields

/-- The clock values from the beginning of 1970 to the end of 9999. -/
def Dated (t : Int) : Prop := 0 ≤ t ∧ t ≤ 253402300799

instance (t : Int) : Decidable (Dated t) := inferInstanceAs (Decidable (_ ∧ _))

/-- Within the range the year has four digits. -/
theorem year_ofDays_le {z : Int} (hlo : 0 ≤ z) (hhi : z ≤ 2932896) :
    (Date.ofDays z).year ≤ 9999 := by
  -- There are as many days and one more before the year 10000.
  have hcount : Date.yearsLength 8030 = 2932897 := by
    rw [Date.yearsLength_eq]
    rfl
  have hyears := Date.yearsLength_le_sinceEpoch (Date.valid_ofDays z)
  rw [(Date.sinceEpoch_ofDays hlo).2] at hyears
  by_contra hyear
  have hmono : Date.yearsLength 8030 ≤
      Date.yearsLength ((Date.ofDays z).year - 1970).toNat :=
    Date.yearsLength_mono (by omega)
  omega

/-- The stamp of a clock value denotes a date that the calendar has and a time that a day has, and
these are so many seconds from the beginning of 1970. -/
theorem exists_denotes_clockStamp {t : Int} (h : Dated t) :
    ∃ d c, Denotes (clockStamp t) d c ∧ d.Valid ∧ c.Valid ∧
      (1970 ≤ d.year ∧ d.year ≤ 9999) ∧ secondsTo d c = t := by
  obtain ⟨hlo, hhi⟩ := h
  have hday : 0 ≤ t / daySeconds ∧ t / daySeconds ≤ 2932896 := by
    unfold daySeconds
    omega
  have hrest : 0 ≤ t % daySeconds ∧ t % daySeconds < daySeconds := by
    unfold daySeconds
    omega
  obtain ⟨hyear, hdays⟩ := Date.sinceEpoch_ofDays hday.1
  have hyear' := year_ofDays_le hday.1 hday.2
  have hdate := Date.valid_ofDays (t / daySeconds)
  obtain ⟨htime, hmicro, hseconds⟩ :=
    TimeOfDay.ofSeconds_spec (s := (t % daySeconds).toNat) (by omega)
  refine ⟨_, _, denotes_stamp (by omega) hyear' hdate htime hmicro, hdate, htime,
    ⟨hyear, hyear'⟩, ?_⟩
  rw [secondsTo, hdays, hseconds, Int.toNat_of_nonneg hrest.1]
  exact Int.mul_ediv_add_emod t daySeconds

/-- A line begins with the stamp of the clock. -/
theorem Record.stamp_eq {t : Int} (h : Dated t) (r : Record) : r.stamp t = clockStamp t := by
  obtain ⟨d, c, hdenotes, -⟩ := exists_denotes_clockStamp h
  have hlength := hdenotes.length
  rw [Record.stamp, r.line_eq]
  simp only [String.toList_append, List.append_assoc]
  rw [← hlength, List.take_left, String.ofList_toList]

/-! ## Order -/

/-- Stamps whose numbers come first denote an earlier time. -/
theorem secondsTo_lt {d e : Date} {c b : TimeOfDay} (hd : d.Valid) (he : e.Valid)
    (hc : c.Valid) (hb : b.Valid) (hd' : 1970 ≤ d.year) (he' : 1970 ≤ e.year)
    (h : stampNumbers d c < stampNumbers e b) : secondsTo d c < secondsTo e b := by
  have hmidnight := c.sinceMidnight_lt hc
  have hmidnight' := b.sinceMidnight_lt hb
  have hcases : d.Before e ∨ d = e ∧ c.sinceMidnight < b.sinceMidnight := by
    obtain ⟨year, month, day⟩ := d
    obtain ⟨year', month', day'⟩ := e
    obtain ⟨hh, hm, hs⟩ := hc
    obtain ⟨hh', hm', hs'⟩ := hb
    simp only [stampNumbers, List.cons_lt_cons_iff, List.not_lt_nil, and_false, or_false] at h
    dsimp only at hd' he' h
    simp only [Date.Before, Date.mk.injEq, TimeOfDay.sinceMidnight]
    omega
  unfold secondsTo daySeconds at *
  rcases hcases with hbefore | ⟨rfl, hlt⟩
  · have := Date.sinceEpoch_lt hd he hd' hbefore
    omega
  · omega

/-- **Time stamps.** Whatever a record tells, its line at a clock value of the years from 1970 to
9999 begins with a text of nineteen characters that denotes one date and one time of day. The
calendar has this date, a day has this time, and counting the seconds up to them gives the clock
value. One clock value is before another exactly if the text of the first comes before that of the
second, character by character. -/
theorem line_stamps :
    (∀ t, Dated t → ∀ r : Record, (r.stamp t).length = 19 ∧
      (∃ rest, r.line t = r.stamp t ++ rest) ∧
      ∃ d c, (d.Valid ∧ 1970 ≤ d.year ∧ d.year ≤ 9999) ∧ c.Valid ∧ secondsTo d c = t ∧
        ∀ d' c', Denotes (r.stamp t) d' c' ↔ d' = d ∧ c' = c) ∧
    (∀ t u, Dated t → Dated u → ∀ r s : Record, t < u ↔ r.stamp t < s.stamp u) := by
  refine ⟨?_, ?_⟩
  · intro t ht r
    obtain ⟨d, c, hdenotes, hd, hc, hyear, hseconds⟩ := exists_denotes_clockStamp ht
    rw [r.stamp_eq ht]
    refine ⟨hdenotes.length, ⟨" " ++ padRight 8 r.word
      ++ " [" ++ shownLogger r.logger ++ "] " ++ r.message ++ "\n", ?_⟩, d, c, ⟨hd, hyear⟩, hc,
      hseconds, ?_⟩
    · simp only [r.line_eq, String.append_assoc]
    · intro d' c'
      constructor
      · intro h
        exact h.unique hdenotes
      · rintro ⟨rfl, rfl⟩
        exact hdenotes
  · intro t u ht hu r s
    obtain ⟨d, c, hdenotes, hd, hc, hyear, rfl⟩ := exists_denotes_clockStamp ht
    obtain ⟨e, b, hdenotes', he, hb, hyear', rfl⟩ := exists_denotes_clockStamp hu
    -- Texts of one layout are in the order of their numbers, so these are compared instead.
    rw [r.stamp_eq ht, s.stamp_eq hu, String.lt_iff,
      hdenotes.fields.lt_iff hdenotes'.fields]
    constructor
    · intro h
      rcases lt_trichotomy (stampNumbers d c) (stampNumbers e b) with hlt | heq | hgt
      · exact hlt
      · obtain ⟨rfl, rfl⟩ := hdenotes.eq_of_numbers hdenotes' heq
        exact absurd h (lt_irrefl _)
      · have := secondsTo_lt he hd hb hc hyear'.1 hyear.1 hgt
        omega
    · exact secondsTo_lt hd he hc hb hyear.1 hyear'.1

/-- The last second of a leap day and the first one of the next month. -/
theorem line_stamps_leapDay :
    Dated 951868799 ∧ Dated 951868800 ∧
    Record.stamp 951868799 (.ofLevel "cli" .debug "late") = "2000-02-29 23:59:59" ∧
    Record.stamp 951868800 (.ofLevel "" .error "early") = "2000-03-01 00:00:00" ∧
    (Record.stamp 951868799 (.ofLevel "cli" .debug "late")).length = 19 ∧
    Record.stamp 951868799 (.ofLevel "cli" .debug "late") <
      Record.stamp 951868800 (.ofLevel "" .error "early") := by
  have ht : Dated 951868799 := by decide
  have hu : Dated 951868800 := by decide
  refine ⟨ht, hu, ?_, ?_, (line_stamps.1 _ ht _).1, (line_stamps.2 _ _ ht hu _ _).mp (by decide)⟩
  · rw [Record.stamp_eq ht]
    decide +kernel
  · rw [Record.stamp_eq hu]
    decide +kernel

end GreetCalc
