import GreetCalc.Addition
import GreetCalc.CommandLine.Token
import GreetCalc.CommandLine.Usage

/-!
# Invocations

What the arguments ask for. The first word names the command and everything after it belongs to
the command. The arguments of a command are first classified, all of them, and then taken in
their order: a switch takes effect where it stands, a word goes to the next place that is free,
and what has no place is left over. The last value of a switch counts.

The marker ends the switches. It goes with the word before it, if that has just found a place,
or else with the next word, which then keeps its text whatever it is; without either it is left
over. Any other word or value that spells the marker vanishes, and its place stays *empty*.
-/

namespace GreetCalc.CommandLine

/-- What has been given for a setting or a place. -/
inductive Entry (α : Type) where
  | absent
  /-- The marker alone, which leaves nothing. -/
  | empty
  | given (a : α)
  deriving DecidableEq, Repr

/-- What a command works on. -/
inductive Task where
  | add (a b : Entry Int) (overflow : Entry OverflowMode)
  | sample
  | greet (name : Option String)
  deriving DecidableEq, Repr

/-- What the arguments ask for. -/
structure Invocation where
  root : Entry String
  level : Entry LevelName
  task : Task
  deriving DecidableEq, Repr

/-! ### Places for words -/

/-- A place for a word. -/
inductive Place where
  | operand (side : Addition.Side)
  | name
  deriving DecidableEq, Repr

def Command.places : Command → List Place
  | .add => [.operand .left, .operand .right]
  | .sample => []
  | .greet => [.name]

def Place.shown : Place → String
  | .operand side => side.letter
  | .name => "name"

def Place.isRequired : Place → Bool
  | .operand _ => true
  | .name => false

/-! ### Arguments taken so far -/

/-- The arguments of a command as far as they have been taken. -/
structure Draft where
  root : Entry String
  level : Entry LevelName
  overflow : Entry OverflowMode
  left : Entry Int
  right : Entry Int
  name : Option String
  free : List Place
  /-- Whether the last argument was a word that found a place. -/
  placed : Bool
  /-- What is left over. -/
  extras : List String
  deriving DecidableEq, Repr

namespace Draft

def start (places : List Place) : Draft :=
  ⟨.absent, .absent, .absent, .absent, .absent, none, places, false, []⟩

def leave (d : Draft) (s : String) : Draft := { d with placed := false, extras := d.extras ++ [s] }

def setOperand (d : Draft) (side : Addition.Side) (x : Entry Int) : Draft :=
  match side with
  | .left => { d with left := x }
  | .right => { d with right := x }

/-- Put a word into a place; without a word the place stays empty. -/
def fill (d : Draft) (p : Place) (word : Option String) : Except Complaint Draft :=
  match p, word with
  | .name, w => .ok { d with name := w }
  | .operand side, none => .ok (d.setOperand side .empty)
  | .operand side, some s =>
    match Decimal.readInt? s with
    | some n => .ok (d.setOperand side (.given n))
    | none => .error (.invalidInteger side.letter s)

def takeWord (d : Draft) (s : String) (word : Option String) : Except Complaint Draft :=
  match d.free with
  | [] => .ok (d.leave s)
  | p :: free => { d with free := free, placed := true }.fill p word

/-- Take the value of a switch; the marker leaves the switch empty. -/
def takeValue (d : Draft) (o : Switch) (s : String) : Except Complaint Draft :=
  let d := { d with placed := false }
  match o with
  | .root => .ok { d with root := if s = marker then .empty else .given s }
  | .logLevel =>
    if s = marker then .ok { d with level := .empty }
    else match LevelName.ofText? s with
      | some l => .ok { d with level := .given l }
      | none => .error (.invalidChoice o.long s (LevelName.all.map LevelName.text))
  | .overflow =>
    if s = marker then .ok { d with overflow := .empty }
    else match OverflowMode.ofText? s with
      | some m => .ok { d with overflow := .given m }
      | none => .error (.invalidChoice o.long s (OverflowMode.all.map OverflowMode.text))
  | o => .error (.ignoredValue o s)

end Draft

/-- The switches that letters name one after another, the first of which is known already. -/
def letters (available : List Switch) (o : Switch) : List Char → Except Complaint (List Switch)
  | [] => .ok [o]
  | c :: cs =>
    match ofLetter? available c with
    | some o' => (letters available o' cs).map (o :: ·)
    | none => .error (.ignoredValue o (String.ofList (c :: cs)))

/-- The switches that a letter with something attached stands for. -/
def shortSwitches (available : List Switch) (o : Switch) :
    Option String → Except Complaint (List Switch)
  | none => .ok [o]
  | some "" => .error (.ignoredValue o "")
  | some s => letters available o s.toList

/-- Take switches without values. Asking for help stops everything. -/
def takeSwitches (page : Page) (d : Draft) : List Switch → Except Stop Draft
  | [] => .ok { d with placed := false }
  | .help :: _ => .error (.help page)
  | .verbose :: os => takeSwitches page { d with level := .given .debug } os
  | _ :: os => takeSwitches page d os

/-! ### Taking arguments -/

def onPage {α : Type} (page : Page) : Except Complaint α → Except Stop α
  | .ok a => .ok a
  | .error c => .error (.misuse page c)

def classifyAll (available : List Switch) : List String → Except Complaint (List Token)
  | [] => .ok []
  | s :: ss =>
    match classify available s with
    | .error candidates => .error (.ambiguous s candidates)
    | .ok t => (classifyAll available ss).map (t :: ·)

def take (c : Command) : Draft → List Token → Except Stop Draft
  | d, [] => .ok d
  | d, .word s :: ts => do take c (← onPage c (d.takeWord s (some s))) ts
  | d, .unknown s :: ts => take c (d.leave s) ts
  | d, .short o attached :: ts => do
    let os ← onPage c (shortSwitches c.switches o attached)
    take c (← takeSwitches c d os) ts
  | d, .long o (some s) :: ts => do take c (← onPage c (d.takeValue o s)) ts
  | d, .long o none :: ts =>
    if o.takesValue then
      match ts with
      | .word s :: ts' => do take c (← onPage c (d.takeValue o s)) ts'
      | _ => .error (.misuse c (.noValue o))
    else do take c (← takeSwitches c d [o]) ts

def takeWords (d : Draft) : List String → Except Complaint Draft
  | [] => .ok d
  | s :: ss => do takeWords (← d.takeWord s (if s = marker then none else some s)) ss

/-- Take the marker and the words after it. -/
def takeMarked (d : Draft) (words : List String) : Except Complaint Draft :=
  if d.placed then takeWords d words
  else match d.free, words with
    -- No word is left: the marker takes the place of the name, and there is none.
    | .name :: free, [] => .ok { d with free := free }
    | _ :: _, s :: ss => do takeWords (← d.takeWord s (some s)) ss
    | _, words => .ok { d with extras := d.extras ++ marker :: words }

def takeAll (c : Command) (args : List String) : Except Stop Draft := do
  let before := args.takeWhile (· != marker)
  let tokens ← onPage c (classifyAll c.switches before)
  let d ← take c (Draft.start c.places) tokens
  match args.dropWhile (· != marker) with
  | [] => .ok d
  | _ :: words => onPage c (takeMarked d words)

def Draft.task (d : Draft) : Command → Task
  | .add => .add d.left d.right d.overflow
  | .sample => .sample
  | .greet => .greet d.name

/-- Read the arguments of a command: what they ask for, and what is left over. -/
def readCommand (c : Command) (args : List String) : Except Stop (Invocation × List String) := do
  let d ← takeAll c args
  match d.free.filter Place.isRequired with
  | [] => .ok (⟨d.root, d.level, d.task c⟩, d.extras)
  | missing => .error (.misuse c (.missing (missing.map Place.shown)))

/-! ### The first word -/

def notACommand (s : String) : Stop :=
  .misuse none (.invalidChoice "command" s (Command.all.map Command.name))

def noCommand : Stop := .misuse none (.missing ["command"])

/-- Read the arguments of the program, of which `extras` have been left over. -/
def readFrom (extras : List String) : List String → Except Stop Invocation
  | [] => .error noCommand
  | s :: ss =>
    if s = marker then .error (if ss.isEmpty then noCommand else notACommand marker)
    else match classify [.help] s with
      | .error candidates => .error (.misuse none (.ambiguous s candidates))
      | .ok (.word s) =>
        match Command.ofName? s with
        | none => .error (notACommand s)
        | some c => do
          let (invocation, left) ← readCommand c ss
          match extras ++ left with
          | [] => .ok invocation
          | extras => .error (.misuse none (.unrecognized extras))
      | .ok (.unknown s) => readFrom (extras ++ [s]) ss
      | .ok (.short o attached) => do
        let _ ← onPage none (shortSwitches [.help] o attached)
        .error (.help none)
      | .ok (.long o (some s)) => .error (.misuse none (.ignoredValue o s))
      | .ok (.long _ none) => .error (.help none)

/-- Read the arguments of the program. -/
def read (argv : List String) : Except Stop Invocation := readFrom [] argv

end GreetCalc.CommandLine
