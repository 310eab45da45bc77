import GreetCalc.Path
import GreetCalc.Text.Quoted

/-!
# File trees

The files and directories of the machine, each under its location. A path is looked up one name
at a time, and every name but the last must lead into a directory that exists. A name or a path
that is too long for the system cannot be looked up at all, and neither can anything below a
directory that may not be searched.
-/

namespace GreetCalc

/-! ### Faults of the system -/

/-- A fault that the system reports, by its number and in its words. -/
structure SystemFault where
  number : Nat
  wording : String
  deriving DecidableEq, Repr

namespace SystemFault

def tooLong : SystemFault := ⟨36, "File name too long"⟩

def loopNumber : Nat := 40

/-- The numbers of faults that mean that nothing is there: no such thing, no directory on the way,
no such handle, and a loop of symbolic links. -/
def absences : List Nat := [2, 20, 9, loopNumber]

def IsAbsence (f : SystemFault) : Prop := f.number ∈ absences

instance (f : SystemFault) : Decidable f.IsAbsence := inferInstanceAs (Decidable (_ ∈ _))

def message (f : SystemFault) (p : Path) : String :=
  "[Errno " ++ toString f.number ++ "] " ++ f.wording ++ ": " ++ Text.quoted p.text

end SystemFault

/-! ### Nodes -/

/-- The fault with which the system bars the way through a directory. As there are no symbolic links
it is never a loop of them. -/
structure Barrier where
  fault : SystemFault
  noLoop : fault.number ≠ SystemFault.loopNumber
  deriving DecidableEq, Repr

/-- What stands at a location: a file with its octets, a directory, or a directory in which nothing
can be looked up. -/
inductive Node where
  | file (content : List UInt8)
  | directory
  | barred (barrier : Barrier)
  deriving DecidableEq, Repr

/-- The files and directories of a machine. The top of the tree is always there. -/
structure FileTree where
  /-- All other files and directories. -/
  nodes : List (Location × Node)

/-- What a look-up ends with. -/
inductive Lookup where
  | found (n : Node)
  | absent
  | failed (fault : SystemFault)
  deriving DecidableEq, Repr

namespace FileTree

def node? (t : FileTree) (l : Location) : Option Node :=
  if l = [] then some .directory else t.nodes.lookup l

/-! ### Changes -/

def set (t : FileTree) (l : Location) (n : Node) : FileTree :=
  ⟨(l, n) :: t.nodes.filter fun (k, _) => k != l⟩

def ensureDirectory (t : FileTree) (l : Location) : FileTree :=
  match t.node? l with
  | some _ => t
  | none => t.set l .directory

/-- The directories on the way to a location, from the top. -/
def parents (l : Location) : List Location := (List.range l.length).map l.take

/-- Put something at a location and make the directories on the way. -/
def put (t : FileTree) (l : Location) (n : Node) : FileTree :=
  ((parents l).foldl ensureDirectory t).set l n

def remove (t : FileTree) (l : Location) : FileTree :=
  ⟨t.nodes.filter fun (k, _) => k != l⟩

/-! ### Look-up -/

def nameLimit : Nat := 255

def pathLimit : Nat := 4096

def octets (s : String) : Nat := Text.Utf8.size s.toList

/-- Look up names from a location. -/
def walk (t : FileTree) (l : Location) : List String → Lookup
  | [] =>
    match t.node? l with
    | some n => .found n
    | none => .absent
  | name :: names =>
    match t.node? l with
    | some .directory =>
      if name = ".." then walk t l.dropLast names
      else if nameLimit < octets name then .failed .tooLong
      else walk t (l ++ [name]) names
    | some (.barred barrier) => .failed barrier.fault
    | _ => .absent

/-- Look up a path from the current directory. A name with a null character is never there. -/
def find (t : FileTree) (current : Location) (p : Path) : Lookup :=
  if p.names.any Path.hasNull then .absent
  else if pathLimit ≤ octets p.text then .failed .tooLong
  else t.walk (if p.anchor = .current then current else []) p.names

end FileTree

end GreetCalc
