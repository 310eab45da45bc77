import GreetCalc.Text.Quoted
import GreetCalc.Value.Literal

/-!
# Faults of a document

Why a text is not a TOML document. The readers of this folder work on what is left of the text,
and a fault says how much was left where it was found; `Fault.locate` turns that into a line and
a column of the whole text.
-/

namespace GreetCalc.Toml

/-- What is wrong at a place of a document. -/
inductive Cause where
  | invalidStatement
  | trailing
  /-- A control character stands in a comment or a literal string. -/
  | found (c : Char)
  /-- A control character stands in a basic string. -/
  | illegal (c : Char)
  | keyPart
  | equalsSign
  | declaredTwice (key : List String)
  | overwrite
  /-- A key leads into an array or inline table that is complete. -/
  | immutable (key : List String)
  /-- A dotted key leads through a table that has been declared. -/
  | redefined (key : List String)
  | tableBracket
  | arrayBrackets
  | invalidValue
  | invalidDate
  | unescaped
  | invalidHex
  | notScalar
  | unterminated
  /-- A literal string does not end. -/
  | delimiter (mark : String)
  | unclosedArray
  | unclosedTable
  | duplicate (key : String)
  deriving DecidableEq, Repr

def Cause.message : Cause → String
  | .invalidStatement => "Invalid statement"
  | .trailing => "Expected newline or end of document after a statement"
  | .found c => "Found invalid character " ++ Text.quotedChar c
  | .illegal c => "Illegal character " ++ Text.quotedChar c
  | .keyPart => "Invalid initial character for a key part"
  | .equalsSign => "Expected '=' after a key in a key/value pair"
  | .declaredTwice key => "Cannot declare " ++ keyLiteral key ++ " twice"
  | .overwrite => "Cannot overwrite a value"
  | .immutable key => "Cannot mutate immutable namespace " ++ keyLiteral key
  | .redefined key => "Cannot redefine namespace " ++ keyLiteral key
  | .tableBracket => "Expected ']' at the end of a table declaration"
  | .arrayBrackets => "Expected ']]' at the end of an array declaration"
  | .invalidValue => "Invalid value"
  | .invalidDate => "Invalid date or datetime"
  | .unescaped => "Unescaped '\\' in a string"
  | .invalidHex => "Invalid hex value"
  | .notScalar => "Escaped character is not a Unicode scalar value"
  | .unterminated => "Unterminated string"
  | .delimiter mark => "Expected " ++ Text.quoted mark
  | .unclosedArray => "Unclosed array"
  | .unclosedTable => "Unclosed inline table"
  | .duplicate key => "Duplicate inline table key " ++ Text.quoted key

/-- Why reading stops. -/
inductive Fault where
  /-- The text is malformed where `left` characters of it are left. -/
  | malformed (cause : Cause) (left : Nat)
  | tooManyDigits (count : Nat)
  | tooDeep
  deriving DecidableEq, Repr

def fail {α : Type} (cause : Cause) (rest : List Char) : Except Fault α :=
  .error (.malformed cause rest.length)

/-! ### Places -/

/-- A fault with its place. -/
inductive Problem where
  | malformed (cause : Cause) (place : Option (Nat × Nat))
  | tooManyDigits (count : Nat)
  | tooDeep
  deriving DecidableEq, Repr

/-- The line and the column after the characters `before`, both counted from one. -/
def placeAfter (before : List Char) : Nat × Nat :=
  (before.count '\n' + 1, (before.reverse.takeWhile (· != '\n')).length + 1)

def Fault.locate (text : List Char) : Fault → Problem
  | .malformed cause 0 => .malformed cause none
  | .malformed cause left => .malformed cause (some (placeAfter (text.take (text.length - left))))
  | .tooManyDigits n => .tooManyDigits n
  | .tooDeep => .tooDeep

def malformedMessage (cause : Cause) : Option (Nat × Nat) → String
  | none => cause.message ++ " (at end of document)"
  | some (line, column) =>
    cause.message ++ " (at line " ++ toString line ++ ", column " ++ toString column ++ ")"

end GreetCalc.Toml
