import GreetCalc.Text.Quoted
import GreetCalc.Value

/-!
# Looking into values

A value can be asked for a key: whether it holds the key, what stands under it, and what is left
without it. Tables answer such questions. Lists and texts only know whether they hold a key, and
are asked for numbered places otherwise, which a key is not; other values do not answer at all.
-/

namespace GreetCalc

/-- Why a value does not answer for a key. -/
inductive AccessFault where
  | notSearchable (kind : String)
  | textAmongOctets
  | notIndexable (kind : String)
  | textPlace
  | octetPlace
  | listPlace
  | notRemovable (kind : String)
  | missing (key : String)
  deriving DecidableEq, Repr

def AccessFault.message : AccessFault → String
  | .notSearchable kind => "argument of type '" ++ kind ++ "' is not iterable"
  | .textAmongOctets => "a bytes-like object is required, not 'str'"
  | .notIndexable kind => "'" ++ kind ++ "' object is not subscriptable"
  | .textPlace => "string indices must be integers, not 'str'"
  | .octetPlace => "byte indices must be integers or slices, not str"
  | .listPlace => "list indices must be integers or slices, not str"
  | .notRemovable kind => "'" ++ kind ++ "' object does not support item deletion"
  | .missing key => Text.quoted key

/-- Whether some characters occur in others one after another. -/
def occursIn (cs : List Char) : List Char → Bool
  | [] => cs.isEmpty
  | d :: ds => cs.isPrefixOf (d :: ds) || occursIn cs ds

namespace Value

def isText (s : String) : Value → Bool
  | .text t => s == t
  | _ => false

/-- Whether a value holds a key. A list holds its texts, and a text its parts. -/
def holds (key : String) : Value → Except AccessFault Bool
  | .table t => .ok (Table.get? t key).isSome
  | .list items => .ok (items.any (isText key))
  | .text s => .ok (occursIn key.toList s.toList)
  | .bytes _ => .error .textAmongOctets
  | v => .error (.notSearchable v.kind)

/-- What stands under a key. -/
def item (key : String) : Value → Except AccessFault Value
  | .table t =>
    match Table.get? t key with
    | some v => .ok v
    | none => .error (.missing key)
  | .list _ => .error .listPlace
  | .text _ => .error .textPlace
  | .bytes _ => .error .octetPlace
  | v => .error (.notIndexable v.kind)

/-- What stands under a key that is held. A value that is a list or a text may hold a key and still
have nothing under it, which is a fault. -/
def heldItem? (key : String) (v : Value) : Except AccessFault (Option Value) := do
  if ← v.holds key then
    let w ← v.item key
    .ok (some w)
  else .ok none

/-- What is left without a key. -/
def without (key : String) : Value → Except AccessFault Value
  | .table t =>
    match Table.get? t key with
    | some _ => .ok (.table (Table.erase t key))
    | none => .error (.missing key)
  | .list _ => .error .listPlace
  | v => .error (.notRemovable v.kind)

end Value

end GreetCalc
