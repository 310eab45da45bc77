import GreetCalc.FileTree
import GreetCalc.Settings
import GreetCalc.Toml.Document

/-!
# The settings file

Settings are kept in a file of a fixed name in the root directory of the work. Where there is no
such file the defaults hold. A file that cannot be opened, is not UTF-8, is not a document or
does not meet the schema is reported with its path; the first of these that applies counts.

Three faults are not reported so and are kept apart: a path that cannot be looked up, an integer
that has too many digits to be read, and arrays or inline tables that stand too deep in one another.
-/

namespace GreetCalc

/-- What surrounds the program and is the same throughout: the current directory, the home
directories that are known, and the room that the caller leaves. -/
structure Host where
  current : Location
  homes : Homes
  /-- The room for arrays and inline tables that are open at once while a document is read. -/
  readRoom : Nat
  /-- The depth up to which a value is written out. -/
  writeRoom : Nat
  deriving DecidableEq, Repr

/-- The surroundings of a program in a directory, with no home that is known and no room. -/
def Host.lone (current : Location) : Host := ⟨current, [], 0, 0⟩

/-- What a reader of files sees of the machine: its files, and the fault with which every attempt to
open a file ends, if there is one. -/
structure Disk where
  files : FileTree
  host : Host
  openFault : Option SystemFault

def Disk.empty (host : Host) : Disk := ⟨⟨[]⟩, host, none⟩

namespace Settings

def fileName : String := "mathgreet.toml"

/-- What is wrong with a settings file: it cannot be opened, is not UTF-8, is no document, or does
not meet the schema. -/
inductive FileFault where
  | unreadable (fault : SystemFault)
  | notUtf8 (fault : Text.Utf8.Fault)
  | malformed (cause : Toml.Cause) (place : Option (Nat × Nat))
  | invalid (report : Validation.Report)

/-- The wording of what is wrong with the settings file at a path. -/
def FileFault.message (room : Nat) (path : Path) : FileFault → String
  | .unreadable f => "Cannot read " ++ path.text ++ ": " ++ f.message path
  | .notUtf8 f => "Invalid TOML in " ++ path.text ++ ": " ++ f.message
  | .malformed cause place =>
    "Invalid TOML in " ++ path.text ++ ": " ++ Toml.malformedMessage cause place
  | .invalid report => "Invalid config in " ++ path.text ++ ": " ++ report.message room

/-- Why settings cannot be loaded: something is wrong with the settings file at a path, or one of
the three faults that are kept apart. -/
inductive LoadFault where
  | file (path : Path) (fault : FileFault)
  | lookUp (path : Path) (fault : SystemFault)
  | tooManyDigits (count : Nat)
  | tooDeep

def LoadFault.message (room : Nat) : LoadFault → String
  | .file path fault => fault.message room path
  | .lookUp path fault => fault.message path
  | .tooManyDigits count =>
    Decimal.limitMessage (": value has " ++ toString count ++ " digits")
  | .tooDeep => "maximum recursion depth exceeded"

/-- Read settings from the octets of the settings file at a path. -/
def ofOctets (room : Nat) (path : Path) (bs : List UInt8) : Except LoadFault Settings :=
  match Text.Utf8.decode bs with
  | .error f => .error (.file path (.notUtf8 f))
  | .ok text =>
    match Toml.parse room text with
    | .error (.tooManyDigits count) => .error (.tooManyDigits count)
    | .error .tooDeep => .error .tooDeep
    | .error (.malformed cause place) => .error (.file path (.malformed cause place))
    | .ok table =>
      match ofTable table with
      | .error report => .error (.file path (.invalid report))
      | .ok settings => .ok settings

/-- Load the settings that hold in a root directory. A look-up that fails because nothing is there
finds nothing. -/
def load (disk : Disk) (root : Path) : Except LoadFault Settings :=
  let path := root.child fileName
  match disk.files.find disk.host.current path with
  | .failed fault => if fault.IsAbsence then .ok {} else .error (.lookUp path fault)
  | .found (.file content) =>
    match disk.openFault with
    | some fault => .error (.file path (.unreadable fault))
    | none => ofOctets disk.host.readRoom path content
  | _ => .ok {}

end Settings

end GreetCalc
