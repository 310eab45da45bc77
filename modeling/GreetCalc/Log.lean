import GreetCalc.Text.LowerCase
import GreetCalc.Value.Literal

/-!
# The log

One log serves the whole program. It has a threshold and handlers, each of which writes a line to
its stream for every record whose severity reaches the threshold. As long as there are no handlers,
warnings and worse go to the error stream as bare messages. Setting up the log removes the handlers
that it has before it adds its own, so that nothing is written twice.

Levels are given by name in any case of letters, or as numbers. A number beyond the limit of
numerals is a level like any other, but nothing can be recorded with it, as there is no word for it.
-/

namespace GreetCalc

/-! ### Streams -/

/-- A text written to a named stream. -/
structure Write where
  stream : String
  text : String
  deriving DecidableEq, Repr

def standardOutput : String := "stdout"

def standardError : String := "stderr"

/-! ### Levels -/

/-- The names of levels that settings and the command line may use. -/
inductive LevelName where
  | debug
  | info
  | warning
  | error
  | critical
  deriving DecidableEq, Repr

namespace LevelName

def all : List LevelName := [.debug, .info, .warning, .error, .critical]

def text : LevelName → String
  | .debug => "debug"
  | .info => "info"
  | .warning => "warning"
  | .error => "error"
  | .critical => "critical"

def severity : LevelName → Int
  | .debug => 10
  | .info => 20
  | .warning => 30
  | .error => 40
  | .critical => 50

def word : LevelName → String
  | .debug => "DEBUG"
  | .info => "INFO"
  | .warning => "WARNING"
  | .error => "ERROR"
  | .critical => "CRITICAL"

def ofText? (s : String) : Option LevelName := all.find? (·.text == s)

end LevelName

/-- Why a value gives no level. -/
inductive LevelFault where
  | unknown (given : Value)
  | noCase (given : Value)

def LevelFault.message : LevelFault → String
  | .unknown given => wording do
    let shown ← given.plain Value.ownRoom
    return "Unknown log level '" ++ shown ++ "'. Valid levels: "
      ++ commaSeparated (LevelName.all.map LevelName.text)
  | .noCase given => "'" ++ given.kind ++ "' object has no attribute 'lower'"

/-- The severity that a value stands for: a number is taken as it is, a text is the name of a level
in any case of letters. -/
def resolveLevel : Value → Except LevelFault Int
  | .int n => .ok n
  | .bool b => .ok (if b then 1 else 0)
  | .text s =>
    match LevelName.ofText? (Text.lower s) with
    | some l => .ok l.severity
    | none => .error (.unknown (.text s))
  | .bytes bs => .error (.unknown (.bytes bs))
  | v => .error (.noCase v)

/-! ### Records -/

/-- The word for a severity. One that is no level is written by its number, if that can be written.
-/
def severityWord (n : Int) : Except Unwritable String :=
  if n = 0 then .ok "NOTSET"
  else match LevelName.all.find? (·.severity == n) with
    | some l => .ok l.word
    | none => (Decimal.write n).map ("Level " ++ ·)

theorem severityWord_severity (l : LevelName) : severityWord l.severity = .ok l.word := by
  cases l <;> rfl

/-- Something that happened, told by the part of the program named `logger`. There is a word for its
severity, or else it could not be recorded. -/
structure Record where
  logger : String
  severity : Int
  word : String
  message : String
  named : severityWord severity = .ok word
  deriving DecidableEq, Repr

namespace Record

def make (logger : String) (severity : Int) (message : String) : Except Unwritable Record :=
  match h : severityWord severity with
  | .ok word => .ok ⟨logger, severity, word, message, h⟩
  | .error fault => .error fault

def ofLevel (logger : String) (level : LevelName) (message : String) : Record :=
  ⟨logger, level.severity, level.word, message, severityWord_severity level⟩

end Record

def padRight (width : Nat) (s : String) : String :=
  s ++ String.ofList (List.replicate (width - s.length) ' ')

/-- The name under which a logger is shown. The log itself has the name `root`. -/
def shownLogger (name : String) : String := if name = "" then "root" else name

/-- A part of a line of the log. -/
inductive LinePart where
  | text (s : String)
  | time
  | word (width : Nat)
  | logger
  | message
  deriving DecidableEq, Repr

namespace LinePart

def sign : LinePart → String
  | .text s => s
  | .time => "%(asctime)s"
  | .word width => "%(levelname)-" ++ toString width ++ "s"
  | .logger => "%(name)s"
  | .message => "%(message)s"

def shown (now : Int) (r : Record) : LinePart → String
  | .text s => s
  | .time => clockStamp now
  | .word width => padRight width r.word
  | .logger => shownLogger r.logger
  | .message => r.message

end LinePart

/-- The parts of a line, from which both its description and the lines are made. -/
def lineParts : List LinePart :=
  [.time, .text " ", .word 8, .text " [", .logger, .text "] ", .message]

def lineFormat : String := String.join (lineParts.map LinePart.sign)

def Record.line (now : Int) (r : Record) : String :=
  String.join (lineParts.map (LinePart.shown now r)) ++ "\n"

/-! ### The log itself -/

/-- The state of the log. Its handlers are known by the streams that they write to. -/
structure Log where
  /-- The least severity of the records that are told. -/
  threshold : Int
  handlers : List String
  deriving DecidableEq, Repr

namespace Log

/-- The log before anything is set up. -/
def fresh : Log := ⟨LevelName.warning.severity, []⟩

/-- The least severity that is told without a handler. -/
def lastResort : Int := LevelName.warning.severity

/-! #### Setting up -/

def addHandler (log : Log) (stream : String) : Log :=
  { log with handlers := log.handlers ++ [stream] }

/-- Remove a handler: the first one of this stream. -/
def removeHandler (log : Log) (stream : String) : Log :=
  { log with handlers := log.handlers.erase stream }

/-- Start over: remove each handler that is there, and if none is left, add others and change the
threshold. -/
def configure (log : Log) (threshold : Int) (streams : List String) : Log :=
  let cleared := log.handlers.foldl removeHandler log
  if cleared.handlers = [] then
    { streams.foldl addHandler cleared with threshold := threshold }
  else cleared

/-- Set up the log with the level that a value stands for and a handler for a stream. A value that
gives no level leaves the log as it is. -/
def setUp (log : Log) (level : Value) (stream : String) : Except LevelFault Log :=
  (resolveLevel level).map fun n => log.configure n [stream]

/-! #### Telling -/

/-- Whether records of a severity are told: it must be positive and reach the threshold. -/
def Tells (log : Log) (severity : Int) : Prop := 0 < severity ∧ log.threshold ≤ severity

instance (log : Log) (severity : Int) : Decidable (log.Tells severity) :=
  inferInstanceAs (Decidable (_ ∧ _))

/-- What the handlers write for a record at a time. Without any, warnings and worse go to the error
stream as bare messages. -/
def handle (log : Log) (now : Int) (r : Record) : List Write :=
  if log.handlers = [] then
    if lastResort ≤ r.severity then [⟨standardError, r.message ++ "\n"⟩] else []
  else log.handlers.map fun stream => ⟨stream, r.line now⟩

/-- What is written for a record at a time. -/
def tell (log : Log) (now : Int) (r : Record) : List Write :=
  if log.Tells r.severity then log.handle now r else []

/-- What is written for something of any severity. It is recorded only if it is told, and fails if
there is no word for its severity then. -/
def tellAs (log : Log) (now : Int) (logger : String) (severity : Int) (message : String) :
    Except Unwritable (List Write) :=
  if log.Tells severity then (Record.make logger severity message).map (log.handle now)
  else .ok []

end Log

end GreetCalc
