import GreetCalc.Addition
import GreetCalc.Greeter.Kept
import GreetCalc.Settings.File

/-!
# Failures

The ways in which an operation of the program can fail, and their wording.
-/

namespace GreetCalc

/-- Why an operation failed. -/
inductive Failure where
  | addition (refusal : Addition.Refusal)
  | level (fault : LevelFault)
  | invalid (report : Validation.Report)
  | load (fault : Settings.LoadFault)
  | path (fault : Path.Fault)
  | noRoot
  | unwritable (fault : Unwritable)
  | noGreeter (id : String)
  | greeter (fault : KeptGreeter.Fault)

/-- The wording of a failure, with room to write the values that it shows. -/
def Failure.message (room : Nat) : Failure → String
  | .addition refusal => refusal.message
  | .level fault => fault.message
  | .invalid report => report.message room
  | .load fault => fault.message room
  | .path fault => fault.message
  | .noRoot => "expected str, bytes or os.PathLike object, not list"
  | .unwritable fault => fault.message
  | .noGreeter id => Text.quoted id
  | .greeter fault => fault.message room

end GreetCalc
