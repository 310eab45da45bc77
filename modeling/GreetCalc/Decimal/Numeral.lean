import GreetCalc.Decimal.Power
import GreetCalc.Text.Blank
import GreetCalc.Text.Digit

/-!
# Decimal numerals

How integers are written and read. Writing gives the canonical numeral: no sign for a number that is
not negative, no leading zeros. Reading is more generous: blanks around the numeral, a sign of
either kind, leading zeros, digits of any script and single underscores between digits are all
accepted.

Numerals longer than `digitLimit` digits are neither read nor written. `write` is the one place
where this limit is drawn for what is written: every text with the numeral of an arbitrary integer
goes through it, and is replaced by the wording of the limit where it fails.
-/

namespace GreetCalc

/-- Why something cannot be written out: an integer in it has too many digits, or it is nested too
deep. -/
inductive Unwritable where
  | digits
  | depth
  deriving DecidableEq, Repr

namespace Decimal

open GreetCalc.Text

def digitLimit : Nat := 4300

def digits (n : Nat) : List Char := Nat.toDigits 10 n

def numeral (i : Int) : String :=
  String.ofList (if i < 0 then '-' :: digits i.natAbs else digits i.natAbs)

/-- The natural number that a list of ASCII digits denotes. -/
def value (ds : List Char) : Nat := ds.foldl (fun n d => n * 10 + asciiDigitValue d) 0

/-- Whether the numeral of an integer is short enough to be written. -/
def Writable (i : Int) : Prop := i.natAbs < tenPow digitLimit

instance (i : Int) : Decidable (Writable i) := inferInstanceAs (Decidable (_ < _))

/-- The numeral of an integer, unless it is too long. -/
def write (i : Int) : Except Unwritable String :=
  if Writable i then .ok (numeral i) else .error .digits

/-- The wording of the limit, with what is known about the numeral that is beyond it. -/
def limitMessage (detail : String) : String :=
  "Exceeds the limit (" ++ toString digitLimit ++ " digits) for integer string conversion"
    ++ detail ++ "; use sys.set_int_max_str_digits() to increase the limit"

/-! ### Reading -/

/-- The ASCII character that stands for a blank or a digit of another script. -/
def asciiForm (c : Char) : Char :=
  if c.toNat < 0x7f then c
  else if isBlank c then ' '
  else match digitValue? c with
    | some d => Char.ofNat ('0'.toNat + d)
    | none => c

def trim (cs : List Char) : List Char :=
  ((cs.dropWhile isAsciiBlank).reverse.dropWhile isAsciiBlank).reverse

/-- The digits of a run in which single underscores may stand between digits. -/
def ungroup? : List Char → Option (List Char)
  | [] => none
  | d :: rest =>
    if isAsciiDigit d then
      match rest with
      | [] => some [d]
      | '_' :: more => (ungroup? more).map (d :: ·)
      | more => (ungroup? more).map (d :: ·)
    else none

/-- The natural number written by a run of digits, unless it has too many. -/
def natOfGrouped? (cs : List Char) : Option Nat :=
  match ungroup? cs with
  | some ds => if ds.length ≤ digitLimit then some (value ds) else none
  | none => none

/-- The integer that a text writes, if it writes one. -/
def readInt? (s : String) : Option Int :=
  match trim (s.toList.map asciiForm) with
  | '-' :: cs => (natOfGrouped? cs).map fun n => -(n : Int)
  | '+' :: cs => (natOfGrouped? cs).map Int.ofNat
  | cs => (natOfGrouped? cs).map Int.ofNat

end Decimal

def Unwritable.message : Unwritable → String
  | .digits => Decimal.limitMessage ""
  | .depth => "maximum recursion depth exceeded while getting the repr of an object"

/-- A text, or the wording of why it cannot be written out. -/
def wording : Except Unwritable String → String
  | .ok s => s
  | .error fault => fault.message

end GreetCalc
