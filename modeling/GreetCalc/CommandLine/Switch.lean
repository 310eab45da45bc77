import GreetCalc.Log

/-!
# Commands and switches

The program has three commands. Each has the same switches, and the command that adds has one
more. A switch has a long name and may have a letter; some take a value.
-/

namespace GreetCalc.CommandLine

def programName : String := "mathgreet"

/-- What the program can be asked to do. -/
inductive Command where
  | add
  | sample
  | greet
  deriving DecidableEq, Repr

/-- What can be given besides words. -/
inductive Switch where
  | help
  | root
  | verbose
  | logLevel
  | overflow
  deriving DecidableEq, Repr

namespace Command

def all : List Command := [.add, .sample, .greet]

def name : Command → String
  | .add => "add"
  | .sample => "uses-add"
  | .greet => "greet"

def ofName? (s : String) : Option Command := all.find? (·.name == s)

def switches : Command → List Switch
  | .add => [.help, .root, .verbose, .logLevel, .overflow]
  | _ => [.help, .root, .verbose, .logLevel]

end Command

namespace Switch

def long : Switch → String
  | .help => "--help"
  | .root => "--root"
  | .verbose => "--verbose"
  | .logLevel => "--log-level"
  | .overflow => "--overflow"

def letter? : Switch → Option Char
  | .help => some 'h'
  | .verbose => some 'v'
  | _ => none

def takesValue : Switch → Bool
  | .help => false
  | .verbose => false
  | _ => true

def shown (o : Switch) : String :=
  match o.letter? with
  | some c => String.ofList ['-', c, '/'] ++ o.long
  | none => o.long

end Switch

end GreetCalc.CommandLine
