import GreetCalc.Text.Excerpt
import GreetCalc.Value.Literal

/-!
# Validation reports

Data that does not meet a schema is reported as a whole: one fault for each thing that is wrong,
with the key it concerns and the value that was found there. The message of a report counts the
faults and then tells them one by one.
-/

namespace GreetCalc.Validation

/-- What is wrong with a value. -/
inductive Complaint where
  | choice (options : List String)
  | notText
  | notUnicode
  | extra
  | missing
  | frozen
  /-- It is not a table from which a `subject` could be made. -/
  | notTable (subject : String)
  deriving DecidableEq, Repr

def alternatives (options : List String) : String :=
  let quoted := options.map Text.quoted
  match quoted.getLast? with
  | none => ""
  | some last =>
    if quoted.length = 1 then last else commaSeparated quoted.dropLast ++ " or " ++ last

def Complaint.code : Complaint → String
  | .choice _ => "literal_error"
  | .notText => "string_type"
  | .notUnicode => "string_unicode"
  | .extra => "extra_forbidden"
  | .missing => "missing"
  | .frozen => "frozen_instance"
  | .notTable _ => "model_type"

def Complaint.message : Complaint → String
  | .choice options => "Input should be " ++ alternatives options
  | .notText => "Input should be a valid string"
  | .notUnicode => "Input should be a valid string, unable to parse raw data as a unicode string"
  | .extra => "Extra inputs are not permitted"
  | .missing => "Field required"
  | .frozen => "Instance is frozen"
  | .notTable subject => "Input should be a valid dictionary or instance of " ++ subject

/-- A complaint about what stands under a key, or about the data as a whole. -/
structure Fault where
  complaint : Complaint
  key : Option String
  given : Value

/-- All that is wrong with some data. -/
structure Report where
  subject : String
  faults : List Fault

/-- Values are shown whole up to fifty octets, and otherwise by about as much in two ends. -/
def shownValue : Text.ExcerptFormat := ⟨50, 25, 24⟩

/-- The line that names the key of a fault: a key with a dot in it is set off. -/
def keyLine (key : String) : String :=
  if key.toList.contains '.' then "`" ++ key ++ "`" else key

/-- The lines of a fault, with room to write the value that was found. -/
def Fault.lines (room : Nat) (f : Fault) : List String :=
  f.key.toList.map keyLine ++
    ["  " ++ f.complaint.message ++ " [type=" ++ f.complaint.code ++ ", input_value="
      ++ Text.excerpt shownValue (f.given.literal room) ++ ", input_type=" ++ f.given.kind ++ "]"]

def Report.header (r : Report) : String :=
  toString r.faults.length ++ " validation error" ++ (if r.faults.length = 1 then "" else "s")
    ++ " for " ++ r.subject

def Report.message (room : Nat) (r : Report) : String :=
  "\n".intercalate (r.header :: r.faults.flatMap (Fault.lines room))

end GreetCalc.Validation
