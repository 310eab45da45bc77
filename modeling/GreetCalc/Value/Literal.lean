import GreetCalc.Decimal.Shortest
import GreetCalc.Text.Quoted
import GreetCalc.Value

/-!
# Literals

The text by which messages show a value. Texts and octets are quoted, a list stands in square
brackets, a table in curly ones, and dates and times are written by their parts. An integer with
more digits than a numeral may have cannot be written, and neither can a value that holds one or a
value that is nested deeper than there is room for; the room is what the caller has left.
-/

namespace GreetCalc

open Decimal (numeral)

/-- Numbers from `0.0001` up to sixteen integral digits are written without an exponent, and an
exponent has at least two digits. -/
def Value.floatFormat : Decimal.FloatFormat := ⟨-4, 16, 2, "inf", "nan"⟩

/-- Texts one after another with a comma and a space between them. -/
def commaSeparated (items : List String) : String := ", ".intercalate items

def Date.parts (d : Date) : List String :=
  [numeral d.year, toString d.month, toString d.day]

/-- The parts of a time of day: seconds and their fractions are left out where nothing but zeros
would follow the minutes. -/
def TimeOfDay.parts (t : TimeOfDay) : List String :=
  [toString t.hour, toString t.minute]
    ++ (if t.second = 0 ∧ t.micro = 0 then [] else [toString t.second])
    ++ (if t.micro = 0 then [] else [toString t.micro])

/-- A distance from universal time. One to the west is counted from the day before. -/
def offsetLiteral (offset : Int) : String :=
  if offset = 0 then "datetime.timezone.utc"
  else if offset < 0 then
    "datetime.timezone(datetime.timedelta(days=-1, seconds="
      ++ numeral (offset + daySeconds) ++ "))"
  else
    "datetime.timezone(datetime.timedelta(seconds=" ++ numeral offset ++ "))"

mutual

/-- A value spelled out. It takes room for itself, and for what it holds there is less by one. -/
def Value.write : Nat → Value → Except Unwritable String
  | 0, _ => .error .depth
  | _ + 1, .null => .ok "None"
  | _ + 1, .bool b => .ok (if b then "True" else "False")
  | _ + 1, .int n => Decimal.write n
  | _ + 1, .float x => .ok (Decimal.writeFloat Value.floatFormat x)
  | _ + 1, .text s => .ok (Text.quoted s)
  | _ + 1, .bytes bs => .ok (Text.quotedBytes bs)
  | room + 1, .list items =>
    (writeItems room items).map fun ts => "[" ++ commaSeparated ts ++ "]"
  | room + 1, .table entries =>
    (writeEntries room entries).map fun ts => "\x7b" ++ commaSeparated ts ++ "\x7d"
  | _ + 1, .date d => .ok ("datetime.date(" ++ commaSeparated d.parts ++ ")")
  | _ + 1, .time t => .ok ("datetime.time(" ++ commaSeparated t.parts ++ ")")
  | _ + 1, .moment d t offset =>
    let zone := match offset with
      | none => []
      | some o => ["tzinfo=" ++ offsetLiteral o]
    .ok ("datetime.datetime(" ++ commaSeparated (d.parts ++ t.parts ++ zone) ++ ")")

def writeItems (room : Nat) : List Value → Except Unwritable (List String)
  | [] => .ok []
  | v :: vs => do
    let t ← v.write room
    let ts ← writeItems room vs
    .ok (t :: ts)

def writeEntries (room : Nat) : List (String × Value) → Except Unwritable (List String)
  | [] => .ok []
  | (k, v) :: rest => do
    let t ← v.write room
    let ts ← writeEntries room rest
    .ok ((Text.quoted k ++ ": " ++ t) :: ts)

end

/-- The room that a value takes which holds no others. -/
def Value.ownRoom : Nat := 1

/-- The literal of a value, or a note that it has none. -/
def Value.literal (room : Nat) (v : Value) : String :=
  match v.write room with
  | .ok t => t
  | .error _ => "<unprintable " ++ v.kind ++ " object>"

/-- A value in running text: a text stands for itself. -/
def Value.plain (room : Nat) : Value → Except Unwritable String
  | .text s => .ok s
  | v => v.write room

/-- The keys of a nested name in round brackets; a single key is followed by a comma. -/
def keyLiteral : List String → String
  | [k] => "(" ++ Text.quoted k ++ ",)"
  | ks => "(" ++ commaSeparated (ks.map Text.quoted) ++ ")"

end GreetCalc
