import GreetCalc.Decimal.Binary
import GreetCalc.Decimal.Numeral

/-!
# Shortest decimals

The fewest decimal digits that still identify a floating-point number. The reals that round to
`m · 2 ^ q` form an interval whose ends belong to it exactly when `m` is even. A decimal
identifies the number when it lies in that interval; `shortest` tries one digit, two digits and
so on, and on each grid the two neighbours of the number. Of two hits the nearer is taken, of
two equally near ones the even.
-/

namespace GreetCalc.Decimal

/-- The number `coefficient · 10 ^ exponent`. -/
structure Scaled where
  coefficient : Nat
  exponent : Int
  deriving DecidableEq, Repr

def above (i : Int) : Nat := i.toNat

def below (i : Int) : Nat := (-i).toNat

/-- The greatest `e` with `10 ^ e ≤ m · 2 ^ q`, for positive `m`. -/
def decimalExponent (m : Nat) (q : Int) : Int :=
  let guess := ((m.log2 : Int) + q) * 30103 / 100000
  let reaches (e : Int) : Bool :=
    tenPow (above e) * twoPow (below q) ≤ m * twoPow (above q) * tenPow (below e)
  if reaches (guess + 1) then guess + 1
  else if reaches guess then guess
  else guess - 1

/-- The best decimal of the grid `10 ^ t` for `m · 2 ^ q`, if one of the two neighbours on that grid
rounds to it. All comparisons are made in units of a quarter of the last binary place. -/
def onGrid? (m : Nat) (q t : Int) : Option Scaled :=
  let left := tenPow (above t) * twoPow (below (q - 2))
  let right := twoPow (above (q - 2)) * tenPow (below t)
  -- Below the least mantissa the gap is half as wide, except for the least exponent.
  let lo := 4 * m - (if m = fullMantissa ∧ leastExponent < q then 1 else 2)
  let hi := 4 * m + 2
  let hit (d : Nat) : Bool :=
    if m % 2 = 0 then lo * right ≤ d * left && d * left ≤ hi * right
    else lo * right < d * left && d * left < hi * right
  let v := 4 * m * right
  let d := v / left
  match hit d, hit (d + 1) with
  | true, true =>
    let down := v - d * left
    let up := (d + 1) * left - v
    -- A tie goes to the even neighbour.
    if down < up ∨ (down = up ∧ d % 2 = 0) then some ⟨d, t⟩ else some ⟨d + 1, t⟩
  | true, false => some ⟨d, t⟩
  | false, true => some ⟨d + 1, t⟩
  | false, false => none

/-- The shortest decimal that identifies `m · 2 ^ q`, for positive `m`. Seventeen digits always
do. -/
def shortest (m : Nat) (q : Int) : Scaled :=
  let e := decimalExponent m q
  ((List.range 17).findSome? fun n : Nat => onGrid? m q (e - n)).getD ⟨m, q⟩

/-! ### Writing -/

/-- How floating-point numbers are written. -/
structure FloatFormat where
  /-- The least decimal exponent that is written with a point only. -/
  leastPositional : Int
  /-- The least decimal exponent above those that is written with an exponent mark. -/
  leastLarge : Int
  /-- The least number of digits of a written exponent. -/
  exponentWidth : Nat
  infinite : String
  undefined : String

def significant (n : Nat) : List Char :=
  ((digits n).reverse.dropWhile (· == '0')).reverse

def padded (width n : Nat) : List Char :=
  List.replicate (width - (digits n).length) '0' ++ digits n

def Scaled.write (f : FloatFormat) (s : Scaled) : List Char :=
  let ds := significant s.coefficient
  let e : Int := s.exponent + (digits s.coefficient).length - 1
  if e < f.leastPositional ∨ f.leastLarge ≤ e then
    let fraction := if ds.length ≤ 1 then [] else '.' :: ds.drop 1
    let sign := if e < 0 then '-' else '+'
    ds.take 1 ++ fraction ++ 'e' :: sign :: padded f.exponentWidth e.natAbs
  else if e < 0 then
    '0' :: '.' :: List.replicate (below e - 1) '0' ++ ds
  else
    let whole := ds.take (above e + 1)
    let fraction := ds.drop (above e + 1)
    whole ++ List.replicate (above e + 1 - whole.length) '0' ++ '.' ::
      (if fraction.isEmpty then ['0'] else fraction)

def writeFloat (f : FloatFormat) (x : Float) : String :=
  let signed (negative : Bool) (t : List Char) : String :=
    String.ofList (if negative then '-' :: t else t)
  match Parts.ofFloat x with
  | .undefined => f.undefined
  | .infinite negative => signed negative f.infinite.toList
  | .finite negative 0 _ => signed negative ['0', '.', '0']
  | .finite negative m q => signed negative ((shortest m q).write f)

end GreetCalc.Decimal
