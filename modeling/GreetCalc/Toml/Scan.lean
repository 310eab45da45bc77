import GreetCalc.Toml.Fault

/-!
# Scanning

What the readers share: the classes of characters, the rest of a text after something was read
from it, and the parts of a document that carry no meaning. A reader that consumes something
returns a `Rest`, which is shorter than what it was given; the loops over a document end for
that reason.
-/

namespace GreetCalc.Toml

/-! ### Classes of characters -/

def isBlank (c : Char) : Bool := c == ' ' || c == '\t'

def isGap (c : Char) : Bool := isBlank c || c == '\n'

def isControl (c : Char) : Bool := c.toNat < 0x20 || c.toNat == 0x7f

/-- Whether a character may not stand in a comment or in a string of one line. -/
def isBarred (c : Char) : Bool := isControl c && c != '\t'

/-- Whether a character may not stand in a string of several lines. -/
def isBarredInBlock (c : Char) : Bool := isBarred c && c != '\n'

/-- Whether a character may stand in a key without quotes. -/
def isBare (c : Char) : Bool := c.isAlphanum || c == '_' || c == '-'

/-! ### What is left -/

/-- What is left of `s` after something was read from it. -/
abbrev Rest (s : List Char) := { r : List Char // r.length < s.length }

/-- What is left of `s` after something that may be empty was read from it. -/
abbrev Tail (s : List Char) := { r : List Char // r.length ≤ s.length }

/-- The result of a reader together with the reason why its rest is shorter. -/
def attach {α : Type} {s : List Char} (x : Except Fault (α × List Char))
    (h : ∀ a r, x = .ok (a, r) → r.length < s.length) : Except Fault (α × Rest s) :=
  match x, h with
  | .ok (a, r), h => .ok (a, ⟨r, h a r rfl⟩)
  | .error e, _ => .error e

def skipBlanks (s : List Char) : List Char := s.dropWhile isBlank

theorem skipBlanks_length (s : List Char) : (skipBlanks s).length ≤ s.length :=
  (List.dropWhile_suffix isBlank).length_le

def after? (c : Char) : List Char → Option (List Char)
  | [] => none
  | d :: rest => if d = c then some rest else none

theorem after?_eq_some_iff {c : Char} {s r : List Char} : after? c s = some r ↔ s = c :: r := by
  cases s with
  | nil => simp [after?]
  | cons d rest => by_cases h : d = c <;> simp [after?, h]

/-! ### Comments -/

/-- Read the text of a comment up to the end of its line. -/
def commentText (s : List Char) : Except Fault (Tail s) :=
  match (s.takeWhile (· != '\n')).find? isBarred with
  | some c => fail (.found c) (s.dropWhile (!isBarred ·))
  | none => .ok ⟨s.dropWhile (· != '\n'), (List.dropWhile_suffix _).length_le⟩

/-- Read a comment, if one begins here, up to the end of its line. -/
def skipComment (s : List Char) : Except Fault (List Char) :=
  match after? '#' s with
  | some rest => (commentText rest).map Subtype.val
  | none => .ok s

theorem skipComment_length {s r : List Char} (h : skipComment s = .ok r) : r.length ≤ s.length := by
  unfold skipComment at h
  split at h
  · next rest hs =>
    rw [after?_eq_some_iff.1 hs]
    match hc : commentText rest with
    | .error _ => rw [hc] at h; cases h
    | .ok t => rw [hc] at h; cases h; exact Nat.le_succ_of_le t.2
  · cases h; exact Nat.le_refl _

/-- Read spaces, line ends and comments, as they may stand between the items of an array. -/
def skipGaps (s : List Char) : Except Fault (Tail s) :=
  match h : after? '#' (s.dropWhile isGap) with
  | some rest => do
    have hrest : rest.length < s.length := by
      have := (List.dropWhile_suffix isGap (l := s)).length_le
      rw [after?_eq_some_iff.1 h, List.length_cons] at this
      omega
    let ⟨r, hr⟩ ← commentText rest
    let ⟨r', hr'⟩ ← skipGaps r
    .ok ⟨r', by omega⟩
  | none => .ok ⟨s.dropWhile isGap, (List.dropWhile_suffix isGap).length_le⟩
termination_by s.length

end GreetCalc.Toml
