import GreetCalc.Calendar

/-!
# Values

The values that settings files hold and that callers may hand to an operation: the operations
themselves say which of them they accept. A table lists its entries in the order in which their
keys were first given.
-/

namespace GreetCalc

/-- A value of any kind. -/
inductive Value where
  | null
  | bool (b : Bool)
  | int (n : Int)
  | float (x : Float)
  | text (s : String)
  | bytes (bs : List UInt8)
  | list (items : List Value)
  | table (entries : List (String × Value))
  | date (d : Date)
  | time (t : TimeOfDay)
  /-- A time on a day, with its distance from universal time in seconds where that is known. -/
  | moment (d : Date) (t : TimeOfDay) (offset : Option Int)
  deriving Inhabited

def Value.kind : Value → String
  | .null => "NoneType"
  | .bool _ => "bool"
  | .int _ => "int"
  | .float _ => "float"
  | .text _ => "str"
  | .bytes _ => "bytes"
  | .list _ => "list"
  | .table _ => "dict"
  | .date _ => "date"
  | .time _ => "time"
  | .moment .. => "datetime"

def Value.isCompound : Value → Bool
  | .list _ => true
  | .table _ => true
  | _ => false

/-- The entries of a table, each key once. -/
abbrev Table := List (String × Value)

namespace Table

def get? (t : Table) (key : String) : Option Value := t.lookup key

def erase (t : Table) (key : String) : Table := t.filter fun (k, _) => k != key

/-- Put a value under a key. A key keeps its place and a new key goes to the end. -/
def set (key : String) (v : Value) : Table → Table
  | [] => [(key, v)]
  | (k, w) :: rest => if k = key then (k, v) :: rest else (k, w) :: set key v rest

end Table

end GreetCalc
