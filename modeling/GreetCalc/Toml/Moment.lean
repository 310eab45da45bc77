import GreetCalc.Text.Digit
import GreetCalc.Toml.Scan
import GreetCalc.Value

/-!
# Dates and times

A date, optionally followed by a time of day and its distance from universal time, or a time of
day alone. The longest form that is there is read. Of the digits of a fraction of a second the
first six count.
-/

namespace GreetCalc.Toml

open GreetCalc.Text (isAsciiDigit asciiDigitValue)

def twoDigits? (lo hi : Nat) : List Char → Option (Nat × List Char)
  | a :: b :: rest =>
    if isAsciiDigit a && isAsciiDigit b then
      let n := asciiDigitValue a * 10 + asciiDigitValue b
      if lo ≤ n ∧ n ≤ hi then some (n, rest) else none
    else none
  | _ => none

def expect? (c : Char) : List Char → Option (List Char)
  | d :: rest => if d = c then some rest else none
  | [] => none

/-- Read the fraction of a second, if there is one, in millionths. -/
def micros : List Char → Nat × List Char
  | '.' :: rest =>
    match rest.takeWhile isAsciiDigit with
    | [] => (0, '.' :: rest)
    | ds =>
      let six := (ds ++ List.replicate 6 '0').take 6
      (six.foldl (fun n d => n * 10 + asciiDigitValue d) 0, rest.dropWhile isAsciiDigit)
  | s => (0, s)

def time? (s : List Char) : Option (TimeOfDay × List Char) := do
  let (hour, s) ← twoDigits? 0 23 s
  let s ← expect? ':' s
  let (minute, s) ← twoDigits? 0 59 s
  let s ← expect? ':' s
  let (second, s) ← twoDigits? 0 59 s
  let (micro, s) := micros s
  some (⟨hour, minute, second, micro⟩, s)

def year? : List Char → Option (Nat × List Char)
  | a :: b :: c :: d :: rest =>
    if [a, b, c, d].all isAsciiDigit then
      some ([a, b, c, d].foldl (fun n x => n * 10 + asciiDigitValue x) 0, rest)
    else none
  | _ => none

/-- Read a date by its form: the day may be one that the month does not have. -/
def date? (s : List Char) : Option (Date × List Char) := do
  let (year, s) ← year? s
  let s ← expect? '-' s
  let (month, s) ← twoDigits? 1 12 s
  let s ← expect? '-' s
  let (day, s) ← twoDigits? 1 31 s
  some (⟨year, month, day⟩, s)

/-- Read a distance from universal time in hours and minutes: its seconds. -/
def hoursAndMinutes? (s : List Char) : Option (Int × List Char) := do
  let (hours, s) ← twoDigits? 0 23 s
  let s ← expect? ':' s
  let (minutes, s) ← twoDigits? 0 59 s
  some (hours * 3600 + minutes * 60, s)

/-- Read a distance from universal time, if there is one. -/
def offset : List Char → Option Int × List Char
  | [] => (none, [])
  | c :: rest =>
    if c = 'Z' ∨ c = 'z' then (some 0, rest)
    else if c = '+' ∨ c = '-' then
      match hoursAndMinutes? rest with
      | some (n, r) => (some (if c = '-' then -n else n), r)
      | none => (none, c :: rest)
    else (none, c :: rest)

/-- Read what may follow a date: a time of day and its distance from universal time. -/
def timeOfDate? : List Char → Option ((TimeOfDay × Option Int) × List Char)
  | [] => none
  | c :: rest =>
    if c = 'T' ∨ c = 't' ∨ c = ' ' then
      match time? rest with
      | none => none
      | some (t, r) =>
        let (o, r') := offset r
        some ((t, o), r')
    else none

/-- Read a date or a time, if one begins here. The year 0 is not counted as a date. -/
def moment? (s : List Char) : Except Fault (Option (Value × List Char)) :=
  match date? s with
  | some (d, r) =>
    if 1 ≤ d.year ∧ d.Valid then
      match timeOfDate? r with
      | some ((t, o), r') => .ok (some (.moment d t o, r'))
      | none => .ok (some (.date d, r))
    else fail .invalidDate s
  | none => .ok ((time? s).map fun (t, r) => (.time t, r))

/-! ### What is left is shorter -/

theorem twoDigits?_length {lo hi n : Nat} {s r : List Char} (h : twoDigits? lo hi s = some (n, r)) :
    r.length + 2 = s.length := by
  unfold twoDigits? at h
  split at h
  · split at h
    · simp only at h
      split at h
      · cases h; simp
      · cases h
    · cases h
  · cases h

theorem expect?_length {c : Char} {s r : List Char} (h : expect? c s = some r) :
    r.length + 1 = s.length := by
  unfold expect? at h
  split at h
  · split at h
    · cases h; simp
    · cases h
  · cases h

theorem micros_length (s : List Char) : (micros s).2.length ≤ s.length := by
  unfold micros
  split
  · next rest =>
    have := (List.dropWhile_suffix isAsciiDigit (l := rest)).length_le
    split
    · exact Nat.le_refl _
    · exact Nat.le_succ_of_le this
  · simp

theorem time?_length {s r : List Char} {t : TimeOfDay} (h : time? s = some (t, r)) :
    r.length + 8 ≤ s.length := by
  unfold time? at h
  simp only [Option.bind_eq_bind, Option.bind_eq_some_iff, Option.some.injEq, Prod.exists,
    Prod.mk.injEq] at h
  obtain ⟨_, s₁, h₁, s₂, h₂, _, s₃, h₃, s₄, h₄, _, s₅, h₅, _, rfl⟩ := h
  have := twoDigits?_length h₁
  have := expect?_length h₂
  have := twoDigits?_length h₃
  have := expect?_length h₄
  have := twoDigits?_length h₅
  have := micros_length s₅
  omega

theorem year?_length {n : Nat} {s r : List Char} (h : year? s = some (n, r)) :
    r.length + 4 = s.length := by
  unfold year? at h
  split at h
  · split at h
    · cases h; simp
    · cases h
  · cases h

theorem date?_length {s r : List Char} {d : Date} (h : date? s = some (d, r)) :
    r.length + 10 = s.length := by
  unfold date? at h
  simp only [Option.bind_eq_bind, Option.bind_eq_some_iff, Option.some.injEq, Prod.exists,
    Prod.mk.injEq] at h
  obtain ⟨_, s₁, h₁, s₂, h₂, _, s₃, h₃, s₄, h₄, _, s₅, h₅, _, rfl⟩ := h
  have := year?_length h₁
  have := expect?_length h₂
  have := twoDigits?_length h₃
  have := expect?_length h₄
  have := twoDigits?_length h₅
  omega

theorem hoursAndMinutes?_length {s r : List Char} {n : Int}
    (h : hoursAndMinutes? s = some (n, r)) : r.length ≤ s.length := by
  unfold hoursAndMinutes? at h
  simp only [Option.bind_eq_bind, Option.bind_eq_some_iff, Option.some.injEq, Prod.exists,
    Prod.mk.injEq] at h
  obtain ⟨_, s₁, h₁, s₂, h₂, _, s₃, h₃, _, rfl⟩ := h
  have := twoDigits?_length h₁
  have := expect?_length h₂
  have := twoDigits?_length h₃
  omega

theorem offset_length (s : List Char) : (offset s).2.length ≤ s.length := by
  unfold offset
  split
  · simp
  · split
    · simp
    · split
      · split
        · next h => exact Nat.le_succ_of_le (hoursAndMinutes?_length h)
        · simp
      · simp

theorem timeOfDate?_length {s r : List Char} {x : TimeOfDay × Option Int}
    (h : timeOfDate? s = some (x, r)) : r.length ≤ s.length := by
  unfold timeOfDate? at h
  split at h
  · cases h
  · split at h
    · split at h
      · cases h
      · next t r' ht =>
        simp only [Option.some.injEq, Prod.mk.injEq] at h
        obtain ⟨_, rfl⟩ := h
        have h₁ := time?_length ht
        have h₂ := offset_length r'
        rw [List.length_cons]
        omega
    · cases h

theorem moment?_length {s r : List Char} {v : Value} (h : moment? s = .ok (some (v, r))) :
    r.length < s.length := by
  unfold moment? at h
  split at h
  · next hd =>
    have h₁ := date?_length hd
    split at h
    · split at h
      · next ht =>
        cases h
        have := timeOfDate?_length ht
        omega
      · cases h; omega
    · simp [fail] at h
  · obtain ⟨⟨t, r'⟩, ht, hp⟩ := Option.map_eq_some_iff.1 (Except.ok.inj h)
    cases hp
    have := time?_length ht
    omega

end GreetCalc.Toml
