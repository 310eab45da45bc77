import GreetCalc.CommandLine.Switch
import GreetCalc.Text.Digit

/-!
# Tokens

What an argument is taken for, given the switches that are available. An argument that does not
begin with a dash is a word, and so is a single dash. Otherwise it may be a switch, by its full
name, by a beginning of its long name that no other switch shares, or by its letter, with or
without a value attached. What is none of these is a word after all if it is a negative number
or holds a space, and an unknown switch if not.
-/

namespace GreetCalc.CommandLine

/-- What an argument is taken for. -/
inductive Token where
  | word (s : String)
  | long (o : Switch) (attached : Option String)
  /-- A switch by its letter, and what is attached to it. -/
  | short (o : Switch) (attached : Option String)
  | unknown (s : String)
  deriving DecidableEq, Repr

/-- The argument after which all arguments are words. -/
def marker : String := "--"

/-- What stands before and after the first equals sign, if there is one. -/
def splitAtEquals (cs : List Char) : List Char × Option (List Char) :=
  match cs.dropWhile (· != '=') with
  | [] => (cs, none)
  | _ :: after => (cs.takeWhile (· != '='), some after)

/-- Digits of any script, at least one. -/
def isDigits (cs : List Char) : Bool := !cs.isEmpty && cs.all Text.isDecimal

def dropFinalNewline (cs : List Char) : List Char :=
  if cs.getLast? = some '\n' then cs.dropLast else cs

/-- Whether a minus sign and these characters write a number: digits, with or without a point that
has a digit after it. -/
def isUnsignedNumber (cs : List Char) : Bool :=
  let body := dropFinalNewline cs
  isDigits body ||
    match body.dropWhile Text.isDecimal with
    | '.' :: fraction => isDigits fraction
    | _ => false

def beginningWith (available : List Switch) (start : List Char) : List Switch :=
  available.filter fun o => start.isPrefixOf o.long.toList

def ofLetter? (available : List Switch) (c : Char) : Option Switch :=
  available.find? fun o => o.letter? == some c

def ofLong? (available : List Switch) (cs : List Char) : Option Switch :=
  available.find? fun o => o.long.toList == cs

/-- What an argument that begins with a dash and is no switch is taken for. -/
def ofUnknown (s : String) : Token :=
  if isUnsignedNumber (s.toList.drop 1) || s.toList.contains ' ' then .word s else .unknown s

/-- What an argument that begins with two dashes is taken for, or the switches that it may mean. -/
def classifyLong (available : List Switch) (s : String) : Except (List Switch) Token :=
  let (name, attached) := splitAtEquals s.toList
  match ofLong? available name with
  | some o => .ok (.long o (attached.map String.ofList))
  | none =>
    match beginningWith available name with
    | [] => .ok (ofUnknown s)
    -- A beginning that only one switch has is as good as its name.
    | [o] => .ok (.long o (attached.map String.ofList))
    | candidates => .error candidates

/-- What an argument of a dash, a letter and more is taken for. An equals sign right after the
letter only sets off what is attached. -/
def classifyShort (available : List Switch) (s : String) (c : Char) (more : List Char) : Token :=
  match ofLetter? available c, more with
  | none, _ => ofUnknown s
  | some o, [] => .short o none
  | some o, '=' :: value => .short o (some (String.ofList value))
  | some o, more => .short o (some (String.ofList more))

/-- What an argument is taken for, or the switches that it may mean. -/
def classify (available : List Switch) (s : String) : Except (List Switch) Token :=
  match s.toList with
  | '-' :: '-' :: _ => classifyLong available s
  | '-' :: c :: more => .ok (classifyShort available s c more)
  | _ => .ok (.word s)

end GreetCalc.CommandLine
