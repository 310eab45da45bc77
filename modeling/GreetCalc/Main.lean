import GreetCalc.CommandLine.Run
import Std.Time.DateTime.Timestamp

/-!
# The program

Looks at the machine, runs the command line on what it sees there, and writes what the run
writes. Of the file tree only the way to the settings file is looked at, since nothing else can
matter to a run.
-/

namespace GreetCalc.Terminal

/-- A fault by the number and the words of the runtime, which turns the sign of some numbers. -/
def faultOf (number : UInt32) (wording : String) : SystemFault :=
  ⟨min number.toNat (0 - number).toNat, wording.capitalize⟩

/-- The fault of the system that an error stands for. -/
def systemFault : IO.Error → SystemFault
  | .alreadyExists _ n s | .invalidArgument _ n s | .permissionDenied _ n s
  | .resourceExhausted _ n s | .inappropriateType _ n s | .noSuchThing _ n s => faultOf n s
  | .interrupted _ n s | .noFileOrDirectory _ n s => faultOf n s
  | .otherError n s | .resourceBusy n s | .resourceVanished n s | .unsupportedOperation n s
  | .hardwareFault n s | .unsatisfiedConstraints n s | .illegalOperation n s | .protocolError n s
  | .timeExpired n s => faultOf n s
  | .unexpectedEof => faultOf 5 "Input/output error"
  | .userError s => faultOf 5 s

/-- What is seen at a location of the machine. -/
inductive Sight where
  | nothing
  | node (n : Node)
  /-- A file that cannot be opened. -/
  | closed (fault : SystemFault)
  /-- The way to the location is barred. -/
  | barred (barrier : Barrier)

def look (l : Location) : IO Sight := do
  let p := (← IO.currentDir) / (Path.ofLocation l).text
  try
    match (← p.metadata).type with
    | .dir => return .node .directory
    | .file =>
      try
        let content ← IO.FS.readBinFile p
        return .node (.file content.toList)
      catch e => return .closed (systemFault e)
    | _ => return .nothing
  catch e =>
    let fault := systemFault e
    if fault.IsAbsence then return .nothing
    else if h : fault.number ≠ SystemFault.loopNumber then return .barred ⟨fault, h⟩
    else return .nothing

/-- The location of the settings file that a run would look for. -/
def settingsLocation? (disk : Disk) (argv : List String) : Option Location :=
  match CommandLine.read argv with
  | .error _ => none
  | .ok i =>
    match i.rootLocation disk with
    | .error _ => none
    | .ok root => some (root ++ [Settings.fileName])

/-- The home directory of a text. The empty text is the top of the tree, and a text that begins with
a tilde itself is none. -/
def homeAt? (current : Location) (text : String) : Option Location :=
  if text = "" then some []
  else ((Path.ofText text).resolve current []).toOption

/-- A user and the home directory of a line of the list of users. -/
def accountOf? (current : Location) (line : String) : Option (String × Location) := do
  let parts := line.splitOn ":"
  let user ← parts[0]?
  let home ← homeAt? current (← parts[5]?)
  return (user, home)

/-- The home directories of the machine. -/
def homes (current : Location) : IO Homes := do
  let accounts ← try IO.FS.lines "/etc/passwd" catch _ => pure #[]
  let known := accounts.toList.filterMap (accountOf? current)
  match (← IO.getEnv "HOME").bind (homeAt? current) with
  | some home => return ("", home) :: known
  | none => return known

/-- The surroundings of a program that is run on its own. -/
def host : IO Host := do
  let current := (Path.ofText (← IO.currentDir).toString).names
  return ⟨current, ← homes current, 986, 990⟩

/-- Look at the machine along the way to the settings file. -/
def observe (argv : List String) : IO Disk := do
  let start := Disk.empty (← host)
  match settingsLocation? start argv with
  | none => return start
  | some l =>
    let mut disk := start
    for k in FileTree.parents l ++ [l] do
      match ← look k with
      | .nothing => pure ()
      | .node n => disk := { disk with files := disk.files.set k n }
      | .closed fault =>
        disk := { disk with files := disk.files.set k (.file []), openFault := some fault }
      | .barred barrier =>
        disk := { disk with files := disk.files.set k.dropLast (.barred barrier) }
    return disk

/-- Write a text to its stream. -/
def write (w : Write) : IO Unit := do
  let stream ← if w.stream = standardOutput then IO.getStdout else IO.getStderr
  stream.putStr w.text
  stream.flush

/-- The seconds since the first of January 1970. -/
def clock : IO Int := do
  return (← Std.Time.Timestamp.now).toSecondsSinceUnixEpoch.val

end GreetCalc.Terminal

open GreetCalc in
/-- Run the program on its arguments; the exit code is that of the run, and one for a failure
that the run does not handle. -/
def main (argv : List String) : IO UInt32 := do
  let disk ← Terminal.observe argv
  let o := CommandLine.runMain disk (← Terminal.clock) Log.fresh argv
  o.writes.forM Terminal.write
  match o.ending with
  | .returned code => return code.toUInt32
  | .left code => return code.toUInt32
  | .failed failure =>
    Terminal.write (CommandLine.errorLine (failure.message disk.host.writeRoom))
    return 1
