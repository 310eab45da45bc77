import GreetCalc.Decimal.Power

/-!
# Binary fractions

A finite floating-point number is `mantissa · 2 ^ exponent` with a mantissa below `2 ^ 53`.
`Parts` takes a number apart; `nearest` goes the other way and rounds an exact ratio to the
nearest such number, a tie going to the even mantissa. Both work in exact integer arithmetic.
-/

namespace GreetCalc.Decimal

/-- A floating-point number by its parts. -/
inductive Parts where
  /-- `± mantissa · 2 ^ exponent`. -/
  | finite (negative : Bool) (mantissa : Nat) (exponent : Int)
  | infinite (negative : Bool)
  | undefined
  deriving DecidableEq, Repr

def leastExponent : Int := -1074

/-- The mantissa from which on a number has full precision. -/
def fullMantissa : Nat := twoPow 52

def infinityBits : Nat := 2047 * twoPow 52

def Parts.ofFloat (x : Float) : Parts :=
  let b := x.toBits.toNat
  let negative := decide (twoPow 63 ≤ b)
  let e := b / twoPow 52 % twoPow 11
  let m := b % twoPow 52
  if e = 2047 then if m = 0 then .infinite negative else .undefined
  else if e = 0 then .finite negative m leastExponent
  else .finite negative (m + fullMantissa) (leastExponent + (e - 1 : Nat))

/-- The integer nearest to `num / den`, a tie going to the even one. -/
def roundToEven (num den : Nat) : Nat :=
  let q := num / den
  let r := num % den
  if 2 * r < den ∨ (2 * r = den ∧ q % 2 = 0) then q else q + 1

/-- `num / den / 2 ^ e` as a pair of numerator and denominator. -/
def scaleDown (num den : Nat) (e : Int) : Nat × Nat :=
  if 0 ≤ e then (num, den * twoPow e.toNat) else (num * twoPow (-e).toNat, den)

/-- The bits of the floating-point number nearest to `num / den`, for positive `num` and `den`. A
mantissa that rounds up to `2 ^ 53` carries into the exponent, and past the last exponent the bits
are those of infinity. -/
def nearestBits (num den : Nat) : Nat :=
  let guess := max leastExponent ((num.log2 : Int) - den.log2 - 53)
  let (n₀, d₀) := scaleDown num den guess
  let e := if d₀ * twoPow 53 ≤ n₀ then guess + 1 else guess
  let (n, d) := scaleDown num den e
  min infinityBits ((e - leastExponent).toNat * twoPow 52 + roundToEven n d)

/-- The floating-point number nearest to `num / den`, with a sign. -/
def nearest (negative : Bool) (num den : Nat) : Float :=
  let bits := if num = 0 then 0 else nearestBits num den
  Float.ofBits (UInt64.ofNat (if negative then bits + twoPow 63 else bits))

/-- The floating-point number nearest to `± n · 10 ^ e`. A number out of every range is recognised
by its magnitude, so that no power of ten larger than the range is ever formed. -/
def ofScientific (negative : Bool) (n : Nat) (e : Int) : Float :=
  let magnitude := (Nat.log2 n : Int) * 30103 / 100000 + e
  if n = 0 ∨ magnitude < -400 then nearest negative 0 1
  else if 400 < magnitude then nearest negative (twoPow 2000) 1
  else if 0 ≤ e then nearest negative (n * tenPow e.toNat) 1
  else nearest negative n (tenPow (-e).toNat)

def infinity (negative : Bool) : Float :=
  Float.ofBits (UInt64.ofNat (if negative then infinityBits + twoPow 63 else infinityBits))

def notANumber : Float := Float.ofBits (UInt64.ofNat (infinityBits + twoPow 51))

end GreetCalc.Decimal
