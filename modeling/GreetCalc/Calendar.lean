import GreetCalc.Decimal.Numeral

/-!
# The calendar

Dates of the Gregorian calendar, extended without end in both directions, and times of day. A
clock counts seconds since the first of January 1970 and every day has the same number of them,
so a clock value splits into a day and a time of day, and `Date.ofDays` finds the date of the
day.

`Date.ofDays` counts years from the first of March. Leap days then fall at the end of a year and
the lengths of the months before them repeat every five months, so the month is a quotient. Four
hundred years make an era, after which the calendar repeats.
-/

namespace GreetCalc

/-- A day of the calendar. -/
structure Date where
  /-- The year, counted astronomically: the year before 1 is 0. -/
  year : Int
  month : Nat
  day : Nat
  deriving DecidableEq, Repr

/-- A time of day. -/
structure TimeOfDay where
  hour : Nat
  minute : Nat
  second : Nat
  micro : Nat
  deriving DecidableEq, Repr

namespace Date

def isLeap (year : Int) : Bool := year % 4 == 0 && (year % 100 != 0 || year % 400 == 0)

def daysIn (year : Int) (month : Nat) : Nat :=
  if month = 2 then if isLeap year then 29 else 28
  else if month = 4 ∨ month = 6 ∨ month = 9 ∨ month = 11 then 30
  else 31

def Valid (d : Date) : Prop :=
  (1 ≤ d.month ∧ d.month ≤ 12) ∧ 1 ≤ d.day ∧ d.day ≤ daysIn d.year d.month

instance (d : Date) : Decidable d.Valid := inferInstanceAs (Decidable (_ ∧ _))

/-- The number of days of an era of four hundred years. -/
def eraDays : Int := 146097

/-- The days from the first of March of the year 0 to the first of January 1970. -/
def epochDays : Int := 719468

/-- The date in an era that lies `n` days after its beginning: the year of the era, counted from
March, and the day of that year. Only the last century of an era and the last year of four have
a day more than the others. -/
def inEra (n : Nat) : Nat × Nat :=
  let century := min (n / 36524) 3
  let inCentury := n - 36524 * century
  let cycle := inCentury / 1461
  let inCycle := inCentury % 1461
  let year := min (inCycle / 365) 3
  (100 * century + 4 * cycle + year, inCycle - 365 * year)

/-- The month and the day of the month of a day of a year that is counted from March. -/
def inYear (n : Nat) : Nat × Nat :=
  let fromMarch := (5 * n + 2) / 153
  (if fromMarch < 10 then fromMarch + 3 else fromMarch - 9, n - (153 * fromMarch + 2) / 5 + 1)

/-- The date that lies `z` days after the first of January 1970. -/
def ofDays (z : Int) : Date :=
  let era := (z + epochDays) / eraDays
  let (yearOfEra, dayOfYear) := inEra ((z + epochDays) % eraDays).toNat
  let (month, day) := inYear dayOfYear
  let year := era * 400 + yearOfEra
  ⟨if month ≤ 2 then year + 1 else year, month, day⟩

end Date

def daySeconds : Int := 86400

def TimeOfDay.ofSeconds (s : Nat) : TimeOfDay := ⟨s / 3600, s / 60 % 60, s % 60, 0⟩

/-! ### Time stamps -/

def twoDigits (n : Nat) : String :=
  String.ofList (if n < 10 then '0' :: Decimal.digits n else Decimal.digits n)

/-- A part of a time stamp. -/
inductive StampPart where
  | text (s : String)
  | year
  | month
  | day
  | hour
  | minute
  | second
  deriving DecidableEq, Repr

namespace StampPart

def sign : StampPart → String
  | .text s => s
  | .year => "%Y"
  | .month => "%m"
  | .day => "%d"
  | .hour => "%H"
  | .minute => "%M"
  | .second => "%S"

/-- What stands for a part in the stamp of a date and a time of day. -/
def shown (d : Date) (t : TimeOfDay) : StampPart → String
  | .text s => s
  | .year => Decimal.numeral d.year
  | .month => twoDigits d.month
  | .day => twoDigits d.day
  | .hour => twoDigits t.hour
  | .minute => twoDigits t.minute
  | .second => twoDigits t.second

end StampPart

/-- The parts of a time stamp, from which both its description and the stamps are made. -/
def stampParts : List StampPart :=
  [.year, .text "-", .month, .text "-", .day, .text " ", .hour, .text ":", .minute, .text ":",
    .second]

def stampFormat : String := String.join (stampParts.map StampPart.sign)

def stamp (d : Date) (t : TimeOfDay) : String :=
  String.join (stampParts.map (StampPart.shown d t))

def clockStamp (seconds : Int) : String :=
  stamp (Date.ofDays (seconds / daySeconds)) (TimeOfDay.ofSeconds (seconds % daySeconds).toNat)

end GreetCalc
