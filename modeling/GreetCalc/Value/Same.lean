import GreetCalc.Decimal.Binary
import GreetCalc.Value

/-!
# Sameness of values

Values are the same when they stand for the same thing: a truth value counts as one or zero, numbers
are compared by their exact size whether they are integers or not, lists item by item, and tables
key by key in any order. The number that is none is not the same as anything, not even as itself.

Being *identical* is more: two values that were given apart are one and the same thing only where
there is a single thing of that sort, such as a truth value or a small integer.
-/

namespace GreetCalc

open Decimal (Parts twoPow)

/-- Whether two numbers are equal. The sign of zero does not matter. -/
def Decimal.Parts.same : Parts → Parts → Bool
  | .finite n₁ m₁ e₁, .finite n₂ m₂ e₂ =>
    (m₁ == 0 && m₂ == 0) ||
      (n₁ == n₂ && m₁ * twoPow (e₁ - e₂).toNat == m₂ * twoPow (e₂ - e₁).toNat)
  | .infinite n₁, .infinite n₂ => n₁ == n₂
  | _, _ => false

def Value.number? : Value → Option Parts
  | .bool b => some (.finite false (if b then 1 else 0) 0)
  | .int n => some (.finite (decide (n < 0)) n.natAbs 0)
  | .float x => some (Parts.ofFloat x)
  | _ => none

def Value.isUndefined (v : Value) : Bool := v.number? == some .undefined

def Value.sameNumber (v w : Value) : Bool :=
  match v.number?, w.number? with
  | some p, some q => p.same q
  | _, _ => false

mutual

/-- Whether two values are the same. -/
def Value.same : Value → Value → Bool
  | .null, .null => true
  | .text s, .text t => s == t
  | .bytes bs, .bytes cs => bs == cs
  | .list items, .list others => sameItems items others
  | .table entries, .table others =>
    entries.length == others.length && sameEntries entries others
  | .date d, .date e => d == e
  | .time t, .time u => t == u
  | .moment d t o, .moment e u p => d == e && t == u && o == p
  | v, w => v.sameNumber w

/-- Whether two lists hold the same values in the same order. -/
def sameItems : List Value → List Value → Bool
  | [], [] => true
  | v :: vs, w :: ws => v.same w && sameItems vs ws
  | _, _ => false

/-- Whether every entry has a partner of the same value among `others`. -/
def sameEntries : List (String × Value) → List (String × Value) → Bool
  | [], _ => true
  | (k, v) :: rest, others =>
    (match others.lookup k with
      | some w => v.same w
      | none => false) && sameEntries rest others

end

/-- Whether two values are the same, where they may be lacking: nothing is the same as nothing. -/
def sameGiven : Option Value → Option Value → Bool
  | none, none => true
  | some v, some w => v.same w
  | _, _ => false

/-- Whether there is only a single thing like a value, however often it is given: this holds of
nothing, of truth values, of small integers, and of texts and octets of length one at most, where
the character has a small code. -/
def Value.isUnique : Value → Bool
  | .null => true
  | .bool _ => true
  | .int n => decide (-5 ≤ n) && decide (n ≤ 256)
  | .text s => decide (s.toList.length ≤ 1) && s.toList.all fun c => decide (c.toNat < 256)
  | .bytes bs => decide (bs.length ≤ 1)
  | _ => false

/-- Whether two values that were given apart are one and the same thing. -/
def Value.identical (v w : Value) : Bool := v.isUnique && v.kind == w.kind && v.same w

/-- Whether two values that were given apart, and may be lacking, are one and the same thing. -/
def identicalGiven : Option Value → Option Value → Bool
  | none, none => true
  | some v, some w => v.identical w
  | _, _ => false

/-- Whether a value counts as true: nothing, zero and what is empty do not. -/
def Value.isTrue : Value → Bool
  | .null => false
  | .text s => s != ""
  | .bytes bs => !bs.isEmpty
  | .list items => !items.isEmpty
  | .table entries => !entries.isEmpty
  | v =>
    match v.number? with
    | some (.finite _ m _) => m != 0
    | _ => true

end GreetCalc
