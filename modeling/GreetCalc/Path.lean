/-!
# Paths

A path is a sequence of names, counted from the top of the file tree or from the current
directory. Reading a path from a text drops empty names and single dots; names of two dots stay
until the path is resolved. Resolving a path gives a location, the names from the top of the
tree without any dots: a first name with a leading tilde is replaced by the home directory of the
user that it names, and two dots cancel the name before them. There are no symbolic links.

Two slashes at the front of a text are kept apart from one, and resolving forgets the
difference.
-/

namespace GreetCalc

/-- Where a path starts. -/
inductive Anchor where
  | current
  | top
  | doubled
  deriving DecidableEq, Repr

/-- A path. -/
structure Path where
  anchor : Anchor
  names : List String
  deriving DecidableEq, Repr

/-- A place in the file tree, by the names from its top. -/
abbrev Location := List String

/-- The home directories that are known, by the names of their users. The empty name stands for
whoever runs the program. -/
abbrev Homes := List (String × Location)

namespace Path

def pieces : List Char → List (List Char)
  | [] => [[]]
  | c :: cs =>
    if c = '/' then [] :: pieces cs
    else match pieces cs with
      | [] => [[c]]
      | p :: ps => (c :: p) :: ps

/-- The anchor that a text begins with. Three slashes and more count as one. -/
def anchorOf (cs : List Char) : Anchor :=
  match (cs.takeWhile (· == '/')).length with
  | 0 => .current
  | 2 => .doubled
  | _ => .top

/-- Read a path from a text. -/
def ofText (s : String) : Path :=
  ⟨anchorOf s.toList,
    ((pieces s.toList).map String.ofList).filter fun name => name != "" && name != "."⟩

def anchorText : Anchor → String
  | .current => ""
  | .top => "/"
  | .doubled => "//"

/-- The text of a path. The current directory itself is a single dot. -/
def text (p : Path) : String :=
  if p.anchor = .current ∧ p.names = [] then "."
  else anchorText p.anchor ++ "/".intercalate p.names

def child (p : Path) (name : String) : Path := ⟨p.anchor, p.names ++ [name]⟩

def ofLocation (l : Location) : Path := ⟨.top, l⟩

/-! ### Resolving -/

/-- Why a path has no location: a name holds the null character, or the home of a user is asked for
whose home is not known. -/
inductive Fault where
  | nullName
  | unknownHome
  deriving DecidableEq, Repr

def Fault.message : Fault → String
  | .nullName => "embedded null byte"
  | .unknownHome => "Could not determine home directory."

def hasNull (name : String) : Bool := name.toList.contains '\x00'

/-- Go one name further from a location. Above the top of the tree there is nothing. -/
def enter (l : Location) (name : String) : Location :=
  if name = ".." then l.dropLast else l ++ [name]

/-- The user whose home a name stands for: a tilde and the name of the user. -/
def userOf? (name : String) : Option String :=
  match name.toList with
  | '~' :: user => some (String.ofList user)
  | _ => none

/-- The home of a user. -/
def homeOf (homes : Homes) (user : String) : Except Fault Location :=
  if hasNull user then .error .nullName
  else match homes.lookup user with
    | some home => .ok home
    | none => .error .unknownHome

/-- The location that a path starts from and the names that are left. A first name that stands for
the home of a user is replaced by this home. -/
def start (current : Location) (homes : Homes) (p : Path) :
    Except Fault (Location × List String) :=
  match p.anchor, p.names with
  | .current, first :: rest =>
    match userOf? first with
    | none => .ok (current, first :: rest)
    | some user => (homeOf homes user).map fun home => (home, rest)
  | .current, [] => .ok (current, [])
  | _, names => .ok ([], names)

/-- The location of a path. -/
def resolve (current : Location) (homes : Homes) (p : Path) : Except Fault Location := do
  let (l, names) ← p.start current homes
  if names.any hasNull then .error .nullName else .ok (names.foldl enter l)

end Path

end GreetCalc
