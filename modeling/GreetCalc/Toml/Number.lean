import GreetCalc.Decimal.Binary
import GreetCalc.Decimal.Numeral
import GreetCalc.Toml.Scan
import GreetCalc.Value

/-!
# Numbers

Integers in four bases and floating-point numbers. Single underscores may stand between digits.
A number ends where its pattern ends, whatever follows.
-/

namespace GreetCalc.Toml

open GreetCalc.Text (isAsciiDigit hexDigitValue?)

/-- Read as many digits as there are, with single underscores between them: the digits and what
follows. -/
def digitRun (isDigit : Char → Bool) : List Char → List Char × List Char
  | [] => ([], [])
  | c :: rest =>
    if isDigit c then
      match rest with
      | '_' :: more =>
        if more.head?.any isDigit then
          let (ds, r) := digitRun isDigit more
          (c :: ds, r)
        else ([c], rest)
      | more =>
        let (ds, r) := digitRun isDigit more
        (c :: ds, r)
    else ([], c :: rest)

theorem digitRun_length (isDigit : Char → Bool) (s : List Char) :
    (digitRun isDigit s).1.length + (digitRun isDigit s).2.length ≤ s.length := by
  fun_induction digitRun isDigit s with
  | case1 => exact Nat.le_refl _
  | case2 c _ more _ ds r hr ih =>
    rw [hr] at ih
    simp only [List.length_cons] at *
    omega
  | case3 c _ more _ =>
    simp only [List.length_cons, List.length_nil]
    omega
  | case4 c rest _ _ ds r hr ih =>
    rw [hr] at ih
    simp only [List.length_cons] at *
    omega
  | case5 c rest _ => exact Nat.le_of_eq (Nat.zero_add _)

/-- The base that the letter after a leading zero announces. -/
def base? : Char → Option Nat
  | 'x' => some 16
  | 'o' => some 8
  | 'b' => some 2
  | _ => none

def isDigitOf (base : Nat) (c : Char) : Bool := (hexDigitValue? c).any (· < base)

def valueIn (base : Nat) (ds : List Char) : Nat :=
  ds.foldl (fun n d => n * base + (hexDigitValue? d).getD 0) 0

def based? : List Char → Option (Int × List Char)
  | '0' :: letter :: rest =>
    match base? letter with
    | none => none
    | some base =>
      match digitRun (isDigitOf base) rest with
      | ([], _) => none
      | (ds, r) => some (valueIn base ds, r)
  | _ => none

/-- Read a sign, if there is one: whether it is a minus, and what follows. -/
def signOf : List Char → Bool × List Char
  | '-' :: rest => (true, rest)
  | '+' :: rest => (false, rest)
  | s => (false, s)

def signed (negative : Bool) (n : Nat) : Int := if negative then -(n : Int) else n

/-- Read the integral digits of a decimal number: a zero stands alone. -/
def wholeDigits : List Char → List Char × List Char
  | '0' :: rest => (['0'], rest)
  | s => digitRun isAsciiDigit s

/-- Read a fraction, if there is one: its digits and what follows. -/
def fraction : List Char → List Char × List Char
  | '.' :: rest =>
    match digitRun isAsciiDigit rest with
    | ([], _) => ([], '.' :: rest)
    | (ds, r) => (ds, r)
  | s => ([], s)

/-- Read an exponent, if there is one: its value and what follows. -/
def exponent? : List Char → Option (Int × List Char)
  | c :: rest =>
    if c = 'e' ∨ c = 'E' then
      match digitRun isAsciiDigit (signOf rest).2 with
      | ([], _) => none
      | (ds, r) => some (signed (signOf rest).1 (Decimal.value ds), r)
    else none
  | [] => none

def decimal? (s : List Char) : Except Fault (Option (Value × List Char)) :=
  let negative := (signOf s).1
  match wholeDigits (signOf s).2 with
  | ([], _) => .ok none
  | (whole, s₂) =>
    let frac := (fraction s₂).1
    let scientific (e : Int) : Value :=
      .float (Decimal.ofScientific negative (Decimal.value (whole ++ frac)) (e - frac.length))
    match exponent? (fraction s₂).2 with
    | some (e, s₃) => .ok (some (scientific e, s₃))
    | none =>
      if frac.isEmpty then
        -- Only integers are limited; floating-point numbers may have any number of digits.
        if Decimal.digitLimit < whole.length then .error (.tooManyDigits whole.length)
        else .ok (some (.int (signed negative (Decimal.value whole)), (fraction s₂).2))
      else .ok (some (scientific 0, (fraction s₂).2))

def special? (s : List Char) : Option (Value × List Char) :=
  let (negative, rest) := signOf s
  match rest with
  | 'i' :: 'n' :: 'f' :: r => some (.float (Decimal.infinity negative), r)
  | 'n' :: 'a' :: 'n' :: r => some (.float Decimal.notANumber, r)
  | _ => none

/-- Read a number, if one begins here. -/
def number? (s : List Char) : Except Fault (Option (Value × List Char)) :=
  match based? s with
  | some (n, r) => .ok (some (.int n, r))
  | none => do
    match ← decimal? s with
    | some x => .ok (some x)
    | none => .ok (special? s)

/-! ### What is left is shorter -/

theorem signOf_length (s : List Char) : (signOf s).2.length ≤ s.length := by
  unfold signOf
  split <;> simp

theorem wholeDigits_length (s : List Char) :
    (wholeDigits s).1.length + (wholeDigits s).2.length ≤ s.length := by
  unfold wholeDigits
  split
  · next rest => exact Nat.le_of_eq (Nat.add_comm 1 rest.length)
  · exact digitRun_length isAsciiDigit _

theorem fraction_length (s : List Char) : (fraction s).2.length ≤ s.length := by
  unfold fraction
  split
  · next rest =>
    have := digitRun_length isAsciiDigit rest
    split
    · exact Nat.le_refl _
    · next hd =>
      rw [hd] at this
      simp only [List.length_cons] at *
      omega
  · simp

theorem exponent?_length {s r : List Char} {e : Int} (h : exponent? s = some (e, r)) :
    r.length ≤ s.length := by
  unfold exponent? at h
  split at h
  · next c rest =>
    split at h
    · have h₁ := signOf_length rest
      have h₂ := digitRun_length isAsciiDigit (signOf rest).2
      split at h
      · cases h
      · next hd =>
        cases h
        simp only [hd, List.length_cons] at *
        omega
    · cases h
  · cases h

theorem based?_length {s r : List Char} {n : Int} (h : based? s = some (n, r)) :
    r.length < s.length := by
  unfold based? at h
  split at h
  · next letter rest =>
    split at h
    · cases h
    · next base _ =>
      have := digitRun_length (isDigitOf base) rest
      split at h
      · cases h
      · next hd =>
        cases h
        simp only [hd, List.length_cons] at *
        omega
  · cases h

theorem decimal?_length {s r : List Char} {v : Value} (h : decimal? s = .ok (some (v, r))) :
    r.length < s.length := by
  unfold decimal? at h
  have h₁ := signOf_length s
  have h₂ := wholeDigits_length (signOf s).2
  simp only at h
  split at h
  · cases h
  · next whole s₂ hne hw =>
    have hpos : 0 < whole.length := by
      cases whole with
      | nil => exact (hne rfl).elim
      | cons _ _ => simp
    have h₃ := fraction_length s₂
    rw [hw] at h₂
    simp only at h₂
    split at h
    · next he =>
      cases h
      have := exponent?_length he
      omega
    · split at h
      · split at h
        · cases h
        · cases h; omega
      · cases h; omega

theorem special?_length {s r : List Char} {v : Value} (h : special? s = some (v, r)) :
    r.length < s.length := by
  unfold special? at h
  have h₁ := signOf_length s
  simp only at h
  split at h
  · next hr => cases h; rw [hr] at h₁; simp only [List.length_cons] at h₁; omega
  · next hr => cases h; rw [hr] at h₁; simp only [List.length_cons] at h₁; omega
  · cases h

theorem number?_length {s r : List Char} {v : Value} (h : number? s = .ok (some (v, r))) :
    r.length < s.length := by
  unfold number? at h
  split at h
  · next hb => cases h; exact based?_length hb
  · match hd : decimal? s with
    | .error _ => rw [hd] at h; cases h
    | .ok (some _) => rw [hd] at h; cases h; exact decimal?_length hd
    | .ok none =>
      rw [hd] at h
      exact special?_length (Except.ok.inj h)

end GreetCalc.Toml
