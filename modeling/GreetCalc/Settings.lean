import GreetCalc.Addition
import GreetCalc.Validation

/-!
# Settings

What can be configured: how sums that leave the range of words are treated, whom a greeting
names when no one is named, and the threshold of the log. Each setting has a default.

`Settings.ofValue` reads settings from a value. It looks at the known keys in their fixed order
and then at all other keys in the order of the data, and reports everything that is wrong.
-/

namespace GreetCalc

/-- The settings of the program. -/
structure Settings where
  overflow : OverflowMode := .wrap
  defaultName : String := "World"
  logLevel : LevelName := .warning
  deriving DecidableEq, Repr

namespace Settings

open Validation

def subject : String := "MathGreetConfig"

def keys : List String := ["overflow", "default_name", "log_level"]

/-- Read one of some choices by its exact spelling. -/
def readChoice {α : Type} (all : List α) (spelling : α → String) : Value → Except Complaint α
  | .text s =>
    match all.find? (spelling · == s) with
    | some a => .ok a
    | none => .error (.choice (all.map spelling))
  | _ => .error (.choice (all.map spelling))

abbrev readOverflow : Value → Except Complaint OverflowMode :=
  readChoice OverflowMode.all OverflowMode.text

abbrev readLevel : Value → Except Complaint LevelName :=
  readChoice LevelName.all LevelName.text

/-- Read a name: octets are taken for the text they encode. -/
def readName : Value → Except Complaint String
  | .text s => .ok s
  | .bytes bs =>
    match Text.Utf8.decode bs with
    | .ok cs => .ok (String.ofList cs)
    | .error _ => .error .notUnicode
  | _ => .error .notText

/-- Read what stands under a key, or take the default where nothing does. -/
def field {α : Type} (read : Value → Except Complaint α) (key : String) (standard : α) (t : Table) :
    Except Fault α :=
  match t.get? key with
  | none => .ok standard
  | some v => (read v).mapError fun c => ⟨c, some key, v⟩

def faultsOf {α : Type} : Except Fault α → List Fault
  | .ok _ => []
  | .error f => [f]

def extraFaults (t : Table) : List Fault :=
  (t.filter fun (k, _) => !keys.contains k).map fun (k, v) => ⟨.extra, some k, v⟩

/-- Read settings from a table. -/
def ofTable (t : Table) : Except Report Settings :=
  let standard : Settings := {}
  let overflow := field readOverflow "overflow" standard.overflow t
  let name := field readName "default_name" standard.defaultName t
  let level := field readLevel "log_level" standard.logLevel t
  match overflow, name, level, extraFaults t with
  | .ok o, .ok n, .ok l, [] => .ok ⟨o, n, l⟩
  | _, _, _, extras =>
    .error ⟨subject, faultsOf overflow ++ faultsOf name ++ faultsOf level ++ extras⟩

/-- Read settings from a value. -/
def ofValue : Value → Except Report Settings
  | .table t => ofTable t
  | v => .error ⟨subject, [⟨.notTable subject, none, v⟩]⟩

end Settings

end GreetCalc
