import GreetCalc.CommandLine.Switch
import GreetCalc.Text.Quoted

/-!
# Usage

The pages that tell how the program is used, one for the program and one for each command, and
the complaints about arguments that cannot be used. A complaint is written after the usage lines
of the page it belongs to.
-/

namespace GreetCalc.CommandLine

/-- The page of a command, or of the program where there is none. -/
abbrev Page := Option Command

namespace Page

def title : Page → String
  | none => programName
  | some c => programName ++ " " ++ c.name

def levelChoice : String := "\x7bdebug,info,warning,error,critical\x7d"

/-- The lines that tell how the program or a command is called. -/
def usage : Page → String
  | none => "usage: mathgreet [-h] \x7badd,uses-add,greet\x7d ...\n"
  | some .add =>
    "usage: mathgreet add [-h] [--root ROOT] [-v]\n"
      ++ "                     [--log-level " ++ levelChoice ++ "]\n"
      ++ "                     [--overflow \x7bwrap,raise\x7d]\n"
      ++ "                     a b\n"
  | some .sample =>
    "usage: mathgreet uses-add [-h] [--root ROOT] [-v]\n"
      ++ "                          [--log-level " ++ levelChoice ++ "]\n"
  | some .greet =>
    "usage: mathgreet greet [-h] [--root ROOT] [-v]\n"
      ++ "                       [--log-level " ++ levelChoice ++ "]\n"
      ++ "                       [name]\n"

def wordLines : Page → String
  | none =>
    "\npositional arguments:\n"
      ++ "  \x7badd,uses-add,greet\x7d\n"
      ++ "    add                 Add two 32-bit integers\n"
      ++ "    uses-add            Print add(10, 20)\n"
      ++ "    greet               Print a greeting\n"
  | some .add =>
    "\npositional arguments:\n"
      ++ "  a                     Left operand\n"
      ++ "  b                     Right operand\n"
  | some .sample => ""
  | some .greet =>
    "\npositional arguments:\n"
      ++ "  name                  Name to greet (default: config default_name)\n"

def switchLines : Switch → String
  | .help => "  -h, --help            show this help message and exit\n"
  | .root => "  --root ROOT           Directory containing mathgreet.toml (default: .)\n"
  | .verbose => "  -v, --verbose         Enable verbose output (sets logging level to DEBUG)\n"
  | .logLevel =>
    "  --log-level " ++ levelChoice ++ "\n"
      ++ "                        Logging level (default: config log_level)\n"
  | .overflow =>
    "  --overflow \x7bwrap,raise\x7d\n"
      ++ "                        Overflow behaviour (default: config overflow)\n"

def switches : Page → List Switch
  | none => [.help]
  | some c => c.switches

def help (p : Page) : String :=
  p.usage ++ p.wordLines ++ "\noptions:\n" ++ String.join (p.switches.map switchLines)

end Page

/-! ### Complaints -/

/-- Why arguments cannot be used. -/
inductive Complaint where
  | ambiguous (given : String) (candidates : List Switch)
  | noValue (o : Switch)
  | ignoredValue (o : Switch) (attached : String)
  | invalidChoice (what : String) (given : String) (choices : List String)
  | invalidInteger (what : String) (given : String)
  | missing (what : List String)
  | unrecognized (left : List String)
  deriving DecidableEq, Repr

def Complaint.message : Complaint → String
  | .ambiguous given candidates =>
    "ambiguous option: " ++ given ++ " could match "
      ++ commaSeparated (candidates.map Switch.long)
  | .noValue o => "argument " ++ o.shown ++ ": expected one argument"
  | .ignoredValue o attached =>
    "argument " ++ o.shown ++ ": ignored explicit argument " ++ Text.quoted attached
  | .invalidChoice what given choices =>
    "argument " ++ what ++ ": invalid choice: " ++ Text.quoted given ++ " (choose from "
      ++ commaSeparated (choices.map Text.quoted) ++ ")"
  | .invalidInteger what given =>
    "argument " ++ what ++ ": invalid int value: " ++ Text.quoted given
  | .missing what => "the following arguments are required: " ++ commaSeparated what
  | .unrecognized left => "unrecognized arguments: " ++ " ".intercalate left

/-- Why reading the arguments ends the program. -/
inductive Stop where
  | help (page : Page)
  | misuse (page : Page) (complaint : Complaint)
  deriving DecidableEq, Repr

def Stop.code : Stop → Nat
  | .help _ => 0
  | .misuse .. => 2

def Stop.writes : Stop → List Write
  | .help page => [⟨standardOutput, page.help⟩]
  | .misuse page complaint =>
    [⟨standardError, page.usage⟩,
      ⟨standardError, page.title ++ ": error: " ++ complaint.message ++ "\n"⟩]

end GreetCalc.CommandLine
