import GreetCalc.Log
import GreetCalc.Word

/-!
# Addition of words

`add` takes two operands and an overflow mode, all three as values of any kind, and adds the
operands as machine words. It looks at the mode first and then at the operands from left to
right, and refuses at the first thing that is wrong. A sum that leaves the range of words wraps
around, which leaves a record for the log, or is refused, as the mode says.
-/

namespace GreetCalc

/-- What becomes of a sum that is no word. -/
inductive OverflowMode where
  | wrap
  | raise
  deriving DecidableEq, Repr

namespace OverflowMode

def all : List OverflowMode := [.wrap, .raise]

def text : OverflowMode → String
  | .wrap => "wrap"
  | .raise => "raise"

def ofText? (s : String) : Option OverflowMode := all.find? (·.text == s)

def sortedTexts : List String := [OverflowMode.raise.text, OverflowMode.wrap.text]

end OverflowMode

namespace Addition

/-- One of the two operands. -/
inductive Side where
  | left
  | right
  deriving DecidableEq, Repr

def Side.letter : Side → String
  | .left => "a"
  | .right => "b"

/-- Why a sum is refused. -/
inductive Refusal where
  | compoundMode (given : Value)
  | unknownMode (given : Value)
  | notInteger (side : Side) (given : Value)
  | outOfRange (side : Side) (n : Int)
  | overflow (a b : Int)

def overflowText (a b : Int) : Except Unwritable String := do
  let left ← Decimal.write a
  let right ← Decimal.write b
  let sum ← Decimal.write (a + b)
  return "i32 overflow: " ++ left ++ " + " ++ right ++ " = " ++ sum ++ " is out of range"

/-- The wording of a refusal. An unknown mode is neither list nor table. -/
def Refusal.text : Refusal → Except Unwritable String
  | .compoundMode given => return "unhashable type: '" ++ given.kind ++ "'"
  | .unknownMode given => do
    let shown ← given.plain Value.ownRoom
    return "Invalid overflow mode '" ++ shown ++ "'. Valid modes: "
      ++ commaSeparated OverflowMode.sortedTexts
  | .notInteger side given => return side.letter ++ " must be an int, got " ++ given.kind
  | .outOfRange side n => do
    let shown ← Decimal.write n
    return side.letter ++ "=" ++ shown ++ " is outside the i32 range ["
      ++ Decimal.numeral Word.least ++ ", " ++ Decimal.numeral Word.greatest ++ "]"
  | .overflow a b => overflowText a b

def Refusal.message (r : Refusal) : String := wording r.text

/-- The mode that a value names. -/
def mode : Value → Except Refusal OverflowMode
  | .text s =>
    match OverflowMode.ofText? s with
    | some m => .ok m
    | none => .error (.unknownMode (.text s))
  | .list items => .error (.compoundMode (.list items))
  | .table entries => .error (.compoundMode (.table entries))
  | v => .error (.unknownMode v)

/-- The word that an operand is. A truth value is not taken for a number. -/
def operand (side : Side) : Value → Except Refusal Int
  | .int n => if Word.Fits n then .ok n else .error (.outOfRange side n)
  | v => .error (.notInteger side v)

/-- A sum and the record it leaves, if any. -/
structure Total where
  value : Int
  record : Option Record
  deriving DecidableEq, Repr

def loggerName : String := "arith.ops"

def wrapRecord (a b : Int) : Record :=
  .ofLevel loggerName .debug
    ("i32 wraparound: " ++ Decimal.numeral a ++ " + " ++ Decimal.numeral b ++ " -> "
      ++ Decimal.numeral (Word.wrap (a + b)))

/-- The sum of two words. -/
def addWords (m : OverflowMode) (a b : Int) : Except Refusal Total :=
  if Word.Fits (a + b) then .ok ⟨a + b, none⟩
  else match m with
    | .raise => .error (.overflow a b)
    | .wrap => .ok ⟨Word.wrap (a + b), some (wrapRecord a b)⟩

def defaultMode : Value := .text OverflowMode.wrap.text

/-- The sum of two operands in a mode. -/
def add (a b overflow : Value) : Except Refusal Total := do
  let m ← mode overflow
  let x ← operand .left a
  let y ← operand .right b
  addWords m x y

/-- The sum that the program shows as an example of its work. -/
def sample : Except Refusal Total := add (.int 10) (.int 20) defaultMode

end Addition

end GreetCalc
