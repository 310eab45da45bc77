import GreetCalc.Toml.Key
import GreetCalc.Value

/-!
# Namespaces

How the keys of a document build up its table. `descend` walks along a key and changes the table
it ends in; tables that are missing on the way are made, and a list of tables stands for its
last one.

Besides the table a document keeps three sets of keys. A *declared* table has had a header or a
dotted key of its own and gets no second one. A *frozen* key holds an array or inline table,
which is complete together with all that lies below it. The tables that dotted keys lead through
are *pending*: they count as declared from the next header on.
-/

namespace GreetCalc.Toml

/-! ### Walking along a key -/

/-- Why a change of a nested table is impossible. -/
inductive Clash where
  | blocked
  | taken
  deriving DecidableEq, Repr

/-- Change the table that a key leads to. With `enterLists` a list on the way stands for its last
item. -/
def descend (enterLists : Bool) (change : Table → Except Clash Table) : Key → Table →
    Except Clash Table
  | [], t => change t
  | k :: ks, t =>
    match t.get? k with
    | none => (descend enterLists change ks []).map fun u => t.set k (.table u)
    | some (.table u) => (descend enterLists change ks u).map fun u' => t.set k (.table u')
    | some (.list items) =>
      match enterLists, items.getLast? with
      | true, some (.table u) =>
        (descend enterLists change ks u).map fun u' =>
          t.set k (.list (items.dropLast ++ [.table u']))
      | _, _ => .error .blocked
    | some _ => .error .blocked

def insertNew (k : String) (v : Value) (t : Table) : Except Clash Table :=
  if (t.get? k).isSome then .error .taken else .ok (t.set k v)

def appendTable (k : String) (t : Table) : Except Clash Table :=
  match t.get? k with
  | none => .ok (t.set k (.list [.table []]))
  | some (.list items) => .ok (t.set k (.list (items ++ [.table []])))
  | some _ => .error .blocked

def lastPart (k : Key) : String := k.getLastD ""

def insertAt (enterLists : Bool) (k : Key) (v : Value) (t : Table) : Except Clash Table :=
  descend enterLists (insertNew (lastPart k) v) k.dropLast t

/-- Whether a key is one of some keys or lies below one of them. -/
def isWithin (keys : List Key) (k : Key) : Bool := keys.any (·.isPrefixOf k)

/-! ### Documents under construction -/

/-- A document as far as it has been read. -/
structure Draft where
  table : Table
  header : Key
  declared : List Key
  frozen : List Key
  /-- The tables that count as declared from the next header on. -/
  pending : List Key

namespace Draft

def empty : Draft := ⟨[], [], [], [], []⟩

/-- Begin a header: pending tables are declared from now on. -/
def settle (d : Draft) : Draft := { d with declared := d.pending ++ d.declared, pending := [] }

/-- A change of the table whose failure is reported as an overwritten value. -/
def replaceTable (d : Draft) (x : Except Clash Table) : Except Cause Draft :=
  match x with
  | .ok t => .ok { d with table := t }
  | .error _ => .error .overwrite

/-- Declare a table. -/
def openTable (d : Draft) (k : Key) : Except Cause Draft :=
  if d.declared.contains k || isWithin d.frozen k then .error (.declaredTwice k)
  else
    replaceTable { d with header := k, declared := k :: d.declared } (descend true .ok k d.table)

/-- Add a table to an array of tables. All that was said about the table before it is forgotten. -/
def openArray (d : Draft) (k : Key) : Except Cause Draft :=
  if isWithin d.frozen k then .error (.immutable k)
  else
    let forget (keys : List Key) : List Key := keys.filter fun f => !k.isPrefixOf f
    replaceTable
      { d with header := k, declared := k :: forget d.declared, frozen := forget d.frozen }
      (descend true (appendTable (lastPart k)) k.dropLast d.table)

/-- The tables that a dotted key leads through below the current header. -/
def passed (d : Draft) (k : Key) : List Key :=
  (List.range (k.length - 1)).map fun i => d.header ++ k.take (i + 1)

/-- Put a value under a key of the current header. -/
def assign (d : Draft) (k : Key) (v : Value) : Except Cause Draft :=
  let passed := d.passed k
  match passed.find? d.declared.contains with
  | some p => .error (.redefined p)
  | none =>
    let parent := d.header ++ k.dropLast
    if isWithin d.frozen parent then .error (.immutable parent)
    else
      let frozen := if v.isCompound then (d.header ++ k) :: d.frozen else d.frozen
      replaceTable { d with pending := passed ++ d.pending, frozen := frozen }
        (insertAt true (d.header ++ k) v d.table)

end Draft

end GreetCalc.Toml
