import GreetCalc.CommandLine.Run

/-!
# Sessions

A session is a sequence of steps in a world that persists from step to step: its files, its log,
the greeters that are kept in it and everything that was written to its streams. What surrounds the
program stays as it is. A step may change files before its operation. An operation that fails leaves
the rest of the world as it was.
-/

namespace GreetCalc

/-! ### Worlds -/

/-- The state of a session. -/
structure World where
  files : FileTree
  host : Host
  log : Log
  greeters : List (String × KeptGreeter)
  written : List Write

namespace World

/-- A world with one empty directory, the current one. -/
def fresh (host : Host) : World :=
  ⟨(FileTree.mk []).put host.current .directory, host, Log.fresh, [], []⟩

/-- Keep a greeter under an identifier, in place of the one that was kept there. -/
def keep (w : World) (id : String) (g : KeptGreeter) : World :=
  { w with greeters := (id, g) :: w.greeters.filter fun (k, _) => k != id }

def greeter (w : World) (id : String) : Except Failure KeptGreeter :=
  match w.greeters.lookup id with
  | some g => .ok g
  | none => .error (.noGreeter id)

def streamText (w : World) (stream : String) : String :=
  String.join ((w.written.filter (·.stream == stream)).map Write.text)

end World

/-! ### Steps -/

/-- What a step does before its operation. -/
inductive Change where
  | write (content : List UInt8)
  | makeDirectory
  /-- Make a directory in which nothing can be looked up. -/
  | bar (barrier : Barrier)
  | remove

/-- An operation. -/
inductive Operation where
  | idle
  | constants
  | add (a b : Value) (overflow : Option Value)
  /-- Add two operands and show the records that are told, instead of handing them to the log. -/
  | addRecorded (a b : Value) (overflow : Option Value)
  | sample
  | wrap (n : Int)
  | fits (n : Int)
  | overflow (a b : Int)
  | makeGreeter (id : String) (fields : Table)
  | greet (id : String)
  | setField (id : String) (key : String) (v : Value)
  | deleteField (id : String) (key : String)
  | compare (id other : String)
  | validate (v : Value)
  | load (root : String)
  | resolveLevel (level : Value)
  | setUpLog (level : Option Value) (stream : Option String)
  | logState
  | tell (logger : String) (severity : Int) (message : String)
  | run (argv : List String) (alone : Bool)

/-- A step of a session. -/
structure Step where
  changes : List (List String × Change)
  now : Int
  /-- The fault with which every attempt to open a file ends, if there is one. -/
  openFault : Option SystemFault
  operation : Operation

/-- What an operation answers. -/
inductive Reply where
  | nothing
  | constants
  | int (n : Int)
  | bool (b : Bool)
  | text (s : String)
  | recorded (value : Int) (records : List Record)
  /-- Whether two greeters are equal, and whether they are one among themselves. -/
  | comparison (equal : Bool) (single : Bool)
  | settings (s : Settings)
  | log (state : Log)
  | returned (code : Nat) (state : Log)
  | left (code : Nat) (state : Log)

/-- The answer to a step: what its operation answers or how it failed, and what was written. -/
structure Answer where
  reply : Except Failure Reply
  writes : List Write

namespace World

def change (w : World) : List String × Change → World
  | (names, c) =>
    let l := w.host.current ++ names
    match c with
    | .write content => { w with files := w.files.put l (.file content) }
    | .makeDirectory => { w with files := w.files.put l .directory }
    | .bar barrier => { w with files := w.files.put l (.barred barrier) }
    | .remove => { w with files := w.files.remove l }

def disk (w : World) (openFault : Option SystemFault) : Disk := ⟨w.files, w.host, openFault⟩

def reply (w : World) (r : Except Failure Reply) : World × Answer := (w, ⟨r, []⟩)

def replyWriting (w : World) (r : Except Failure Reply) (writes : List Write) : World × Answer :=
  ({ w with written := w.written ++ writes }, ⟨r, writes⟩)

/-- The answer to a sum, with its record told by the log. -/
def addReply (w : World) (now : Int) (sum : Except Addition.Refusal Addition.Total) :
    World × Answer :=
  match sum with
  | .error refusal => w.reply (.error (.addition refusal))
  | .ok total =>
    w.replyWriting (.ok (.int total.value)) (total.record.toList.flatMap (w.log.tell now))

/-- The answer to a change of the greeter under an identifier. -/
def changeReply (w : World) (id : String)
    (f : KeptGreeter → Except KeptGreeter.Fault KeptGreeter) : World × Answer :=
  match w.greeter id with
  | .error failure => w.reply (.error failure)
  | .ok g =>
    match f g with
    | .error fault => w.reply (.error (.greeter fault))
    | .ok g' => (w.keep id g').reply (.ok .nothing)

/-- The comparison of a kept greeter with one under another identifier, or with itself. Both must
then be fit to be looked up; equal ones and one and the same are one among themselves. -/
def compareGreeters (g h : KeptGreeter) (itself : Bool) : Except KeptGreeter.Fault Reply := do
  let equal ← if itself then g.equalsItself else g.equals h
  g.checkName
  h.checkName
  .ok (.comparison equal (itself || equal))

def runReply (w : World) (o : CommandLine.Outcome) : World × Answer :=
  let w := { w with log := o.log }
  match o.ending with
  | .returned code => w.replyWriting (.ok (.returned code o.log)) o.writes
  | .left code => w.replyWriting (.ok (.left code o.log)) o.writes
  | .failed failure => w.replyWriting (.error failure) o.writes

/-- The level that the log is set up with when none is given. -/
def defaultLevel : Value := .text LevelName.warning.text

/-- Do an operation. -/
def perform (w : World) (now : Int) (openFault : Option SystemFault) : Operation → World × Answer
  | .idle => w.reply (.ok .nothing)
  | .constants => w.reply (.ok .constants)
  | .add a b overflow => w.addReply now (Addition.add a b (overflow.getD Addition.defaultMode))
  | .addRecorded a b overflow =>
    w.reply (((Addition.add a b (overflow.getD Addition.defaultMode)).map fun total =>
      Reply.recorded total.value total.record.toList).mapError .addition)
  | .sample => w.addReply now Addition.sample
  | .wrap n => w.reply (.ok (.int (Word.wrap n)))
  | .fits n => w.reply (.ok (.bool (decide (Word.Fits n))))
  | .overflow a b =>
    w.reply <| .error <| match Addition.overflowText a b with
      | .ok _ => .addition (.overflow a b)
      | .error fault => .unwritable fault
  | .makeGreeter id fields =>
    match Greeter.ofFields fields with
    | .error report => w.reply (.error (.invalid report))
    | .ok g => (w.keep id (.ofGreeter g)).reply (.ok (.text g.name))
  | .greet id =>
    w.reply do
      let g ← w.greeter id
      ((g.greet w.host.writeRoom).map Reply.text).mapError .greeter
  | .setField id key v => w.changeReply id fun g => g.set key v
  | .deleteField id key => w.changeReply id fun g => g.delete key
  | .compare id other =>
    w.reply do
      let g ← w.greeter id
      let h ← w.greeter other
      (compareGreeters g h (id == other)).mapError .greeter
  | .validate v => w.reply (((Settings.ofValue v).map Reply.settings).mapError .invalid)
  | .load root =>
    let loaded := Settings.load (w.disk openFault) (Path.ofText root)
    w.reply ((loaded.map Reply.settings).mapError .load)
  | .resolveLevel level => w.reply (((GreetCalc.resolveLevel level).map Reply.int).mapError .level)
  | .setUpLog level stream =>
    match w.log.setUp (level.getD defaultLevel) (stream.getD standardError) with
    | .error fault => w.reply (.error (.level fault))
    | .ok log => { w with log := log }.reply (.ok (.log log))
  | .logState => w.reply (.ok (.log w.log))
  | .tell logger severity message =>
    match w.log.tellAs now logger severity message with
    | .error fault => w.reply (.error (.unwritable fault))
    | .ok writes => w.replyWriting (.ok .nothing) writes
  | .run argv alone =>
    let disk := w.disk openFault
    w.runReply <|
      if alone then CommandLine.runMain disk now w.log argv
      else CommandLine.run disk now w.log argv

/-- Take a step. -/
def step (w : World) (s : Step) : World × Answer :=
  (s.changes.foldl change w).perform s.now s.openFault s.operation

/-- Take steps one after another: the world after them and their answers. -/
def steps (w : World) : List Step → World × List Answer
  | [] => (w, [])
  | s :: ss =>
    let (w₁, a) := w.step s
    let (w₂, as) := w₁.steps ss
    (w₂, a :: as)

end World

end GreetCalc
