import GreetCalc.CommandLine.Invocation
import GreetCalc.Failure
import GreetCalc.Greeter

/-!
# Runs

What the program does with its arguments. It first makes a plan: it reads the arguments, finds the
root directory, loads the settings that hold there and finds the level of the log. Arguments that
cannot be used and settings that cannot be loaded halt it before the log of the world is touched.
With a plan it sets up the log, tells what it is about to do, and does it.

A run ends by returning a code, by leaving with a code, or by a failure that it does not handle.
-/

namespace GreetCalc.CommandLine

/-- How a run ends. -/
inductive Ending where
  | returned (code : Nat)
  | left (code : Nat)
  | failed (failure : Failure)

/-- What a run amounts to. -/
structure Outcome where
  ending : Ending
  writes : List Write
  log : Log

/-- The value of an entry: an empty one is an empty list. -/
def Entry.value {α : Type} (standard : Value) (f : α → Value) : Entry α → Value
  | .absent => standard
  | .empty => .list []
  | .given a => f a

def errorLine (message : String) : Write := ⟨standardError, "error: " ++ message ++ "\n"⟩

def resultLine (result : String) : Write := ⟨standardOutput, result ++ "\n"⟩

def defaultRoot : String := "."

def Invocation.rootLocation (i : Invocation) (disk : Disk) : Except Failure Location :=
  let resolve (s : String) : Except Failure Location :=
    ((Path.ofText s).resolve disk.host.current disk.host.homes).mapError Failure.path
  match i.root with
  | .absent => resolve defaultRoot
  | .empty => .error .noRoot
  | .given s => resolve s

/-- The level of the log as a value: what is given counts before the settings. -/
def Invocation.levelValue (i : Invocation) (s : Settings) : Value :=
  i.level.value (.text s.logLevel.text) fun l => .text l.text

/-- The overflow mode that a sum is asked for in: what is given counts before the settings. -/
def overflowValue (o : Entry OverflowMode) (s : Settings) : Value :=
  o.value (.text s.overflow.text) fun m => .text m.text

def Task.command : Task → Command
  | .add .. => .add
  | .sample => .sample
  | .greet _ => .greet

/-- The overflow mode that is told: the one that is given, if one is, and else that of the
settings. -/
def Task.shownOverflow (s : Settings) : Task → OverflowMode
  | .add _ _ (.given m) => m
  | _ => s.overflow

def announcement (logger : String) (i : Invocation) (root : Location) (s : Settings) : Record :=
  .ofLevel logger .debug
    ("command=" ++ i.task.command.name ++ " root=" ++ (Path.ofLocation root).text
      ++ " overflow=" ++ (i.task.shownOverflow s).text
      ++ " log_level=" ++ wording ((i.levelValue s).plain Value.ownRoom))

/-- Whether the program reports a refused sum itself: a value of the wrong kind it does not. -/
def isReported : Addition.Refusal → Bool
  | .unknownMode _ => true
  | .outOfRange .. => true
  | .overflow .. => true
  | .compoundMode _ => false
  | .notInteger .. => false

/-- Add two operands and write the sum. -/
def performSum (log : Log) (now : Int) (sum : Except Addition.Refusal Addition.Total) :
    Ending × List Write :=
  match sum with
  | .ok total =>
    (.returned 0, (total.record.toList.flatMap (log.tell now)) ++
      [resultLine (Decimal.numeral total.value)])
  | .error refusal =>
    if isReported refusal then (.returned 1, [errorLine refusal.message])
    else (.failed (.addition refusal), [])

/-- Do what is asked for. -/
def perform (log : Log) (now : Int) (s : Settings) : Task → Ending × List Write
  | .add a b overflow =>
    performSum log now
      (Addition.add (a.value .null .int) (b.value .null .int) (overflowValue overflow s))
  | .sample => performSum log now Addition.sample
  | .greet name => (.returned 0, [resultLine (Greeter.mk (name.getD s.defaultName)).greet])

/-! ### Plans -/

/-- What a run is about to do. -/
structure Plan where
  invocation : Invocation
  root : Location
  settings : Settings
  threshold : Int

/-- An end of a run before the log is touched. -/
structure Halt where
  ending : Ending
  writes : List Write

def Halt.ofLoadFault (room : Nat) : Settings.LoadFault → Halt
  | .file path fault => ⟨.returned 2, [errorLine (fault.message room path)]⟩
  | fault => ⟨.failed (.load fault), []⟩

/-- Plan a run for an invocation. -/
def Invocation.plan (i : Invocation) (disk : Disk) : Except Halt Plan :=
  match i.rootLocation disk with
  | .error failure => .error ⟨.failed failure, []⟩
  | .ok root =>
    match Settings.load disk (Path.ofLocation root) with
    | .error fault => .error (Halt.ofLoadFault disk.host.writeRoom fault)
    | .ok s =>
      match resolveLevel (i.levelValue s) with
      | .error fault => .error ⟨.failed (.level fault), []⟩
      | .ok threshold => .ok ⟨i, root, s, threshold⟩

/-- Plan a run for arguments. -/
def plan (disk : Disk) (argv : List String) : Except Halt Plan :=
  match read argv with
  | .error stop => .error ⟨.left stop.code, stop.writes⟩
  | .ok i => i.plan disk

/-- Carry out a plan, telling records under the name `logger`. -/
def Plan.carryOut (p : Plan) (logger : String) (now : Int) (log : Log) : Outcome :=
  let log := log.configure p.threshold [standardError]
  let (ending, writes) := perform log now p.settings p.invocation.task
  ⟨ending, log.tell now (announcement logger p.invocation p.root p.settings) ++ writes, log⟩

/-! ### Runs -/

/-- Run the program on its arguments, telling its records under the name `logger`. -/
def runAs (logger : String) (disk : Disk) (now : Int) (log : Log) (argv : List String) :
    Outcome :=
  match plan disk argv with
  | .error halt => ⟨halt.ending, halt.writes, log⟩
  | .ok p => p.carryOut logger now log

/-- Run the program as a part of another. -/
def run (disk : Disk) (now : Int) (log : Log) (argv : List String) : Outcome :=
  runAs "cli" disk now log argv

/-- Run the program on its own: a code that it returns is the code it leaves with. -/
def runMain (disk : Disk) (now : Int) (log : Log) (argv : List String) : Outcome :=
  let o := runAs "__main__" disk now log argv
  match o.ending with
  | .returned code => { o with ending := .left code }
  | _ => o

end GreetCalc.CommandLine
