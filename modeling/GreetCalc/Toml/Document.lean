import GreetCalc.Toml.Values

/-!
# Documents

A document is read statement by statement, one to a line: a key with its value, the header of a
table or the header of an item of an array of tables. Spaces, empty lines and comments may stand
anywhere between them.
-/

namespace GreetCalc.Toml

/-- A text in which every line ends in a line feed alone. -/
def unifyNewlines : List Char → List Char
  | [] => []
  | '\r' :: '\n' :: rest => '\n' :: unifyNewlines rest
  | c :: rest => c :: unifyNewlines rest

/-- A change of the document, reported at a place where it is impossible. -/
def reportAt (rest : List Char) : Except Cause Draft → Except Fault Draft
  | .ok d => .ok d
  | .error c => fail c rest

/-- Read the header of a table after its opening bracket. -/
def tableHeader (d : Draft) (s : List Char) : Except Fault (Draft × List Char) := do
  let (k, r) ← key (skipBlanks s)
  let d' ← reportAt r (d.openTable k)
  match after? ']' r with
  | some r' => .ok (d', r')
  | none => fail .tableBracket r

/-- Read the header of an item of an array of tables after its opening brackets. -/
def arrayHeader (d : Draft) (s : List Char) : Except Fault (Draft × List Char) := do
  let (k, r) ← key (skipBlanks s)
  let d' ← reportAt r (d.openArray k)
  match (after? ']' r).bind (after? ']') with
  | some r' => .ok (d', r')
  | none => fail .arrayBrackets r

def header (d : Draft) (s : List Char) : Except Fault (Draft × List Char) :=
  match after? '[' s with
  | some rest => arrayHeader d.settle rest
  | none => tableHeader d.settle s

def assignment (room : Nat) (d : Draft) (s : List Char) : Except Fault (Draft × List Char) := do
  let ((k, v), r) ← pair room s
  let d' ← reportAt r (d.assign k v)
  .ok (d', r)

def startsKey (c : Char) : Bool := isBare c || c == '"' || c == '\x27'

/-- Read a statement. A comment is none, and is left where it stands. -/
def statement (room : Nat) (d : Draft) : List Char → Except Fault (Draft × List Char)
  | [] => .ok (d, [])
  | c :: rest =>
    if startsKey c then assignment room d (c :: rest)
    else if c = '[' then header d rest
    else if c = '#' then .ok (d, c :: rest)
    else fail .invalidStatement (c :: rest)

/-- Read what may follow a statement on its line: what is left after the end of the line, or nothing
at the end of the text. -/
def lineEnd (s : List Char) : Except Fault (Option (List Char)) := do
  let r ← skipComment (skipBlanks s)
  match r, after? '\n' r with
  | [], _ => .ok none
  | _, some r' => .ok (some r')
  | _, none => fail .trailing r

/-- Read a line: the document after it, and what is left after its end. -/
def line (room : Nat) (d : Draft) (s : List Char) : Except Fault (Draft × Option (List Char)) :=
  match after? '\n' (skipBlanks s) with
  | some r => .ok (d, some r)
  | none => do
    let (d', r) ← statement room d (skipBlanks s)
    let rest ← lineEnd r
    .ok (d', rest)

/-! ### What is left is shorter -/

theorem bind_eq_ok {α β : Type} {x : Except Fault α} {f : α → Except Fault β} {b : β}
    (h : x >>= f = .ok b) : ∃ a, x = .ok a ∧ f a = .ok b := by
  match x with
  | .error _ => cases h
  | .ok a => exact ⟨a, rfl, h⟩

theorem tableHeader_length {d d' : Draft} {s r : List Char} (h : tableHeader d s = .ok (d', r)) :
    r.length ≤ s.length := by
  obtain ⟨⟨k, r₁⟩, hk, h⟩ := bind_eq_ok h
  obtain ⟨d₁, _, h⟩ := bind_eq_ok h
  have h₁ := key_length hk
  have h₂ := skipBlanks_length s
  split at h
  · next hr =>
    cases h
    rw [after?_eq_some_iff.1 hr, List.length_cons] at h₁
    omega
  · simp [fail] at h

theorem arrayHeader_length {d d' : Draft} {s r : List Char} (h : arrayHeader d s = .ok (d', r)) :
    r.length ≤ s.length := by
  obtain ⟨⟨k, r₁⟩, hk, h⟩ := bind_eq_ok h
  obtain ⟨d₁, _, h⟩ := bind_eq_ok h
  have h₁ := key_length hk
  have h₂ := skipBlanks_length s
  split at h
  · next hr =>
    cases h
    obtain ⟨t, ht, hr⟩ := Option.bind_eq_some_iff.1 hr
    rw [after?_eq_some_iff.1 ht, after?_eq_some_iff.1 hr] at h₁
    simp only [List.length_cons] at h₁
    omega
  · simp [fail] at h

theorem header_length {d d' : Draft} {s r : List Char} (h : header d s = .ok (d', r)) :
    r.length ≤ s.length := by
  unfold header at h
  split at h
  · next hs =>
    rw [after?_eq_some_iff.1 hs]
    exact Nat.le_succ_of_le (arrayHeader_length h)
  · exact tableHeader_length h

theorem assignment_length {room : Nat} {d d' : Draft} {s r : List Char}
    (h : assignment room d s = .ok (d', r)) :
    r.length < s.length := by
  obtain ⟨⟨⟨k, v⟩, r₁⟩, _, h⟩ := bind_eq_ok h
  obtain ⟨d₁, _, h⟩ := bind_eq_ok h
  cases h
  exact r₁.2

theorem statement_length {room : Nat} {d d' : Draft} {s r : List Char}
    (h : statement room d s = .ok (d', r)) :
    r.length ≤ s.length := by
  match s with
  | [] => cases h; exact Nat.le_refl _
  | c :: rest =>
    rw [statement] at h
    split at h
    · exact Nat.le_of_lt (assignment_length h)
    · split at h
      · exact Nat.le_succ_of_le (header_length h)
      · split at h
        · cases h; exact Nat.le_refl _
        · simp [fail] at h

theorem lineEnd_length {s r : List Char} (h : lineEnd s = .ok (some r)) : r.length < s.length := by
  obtain ⟨t, ht, h⟩ := bind_eq_ok h
  have h₁ := skipComment_length ht
  have h₂ := skipBlanks_length s
  split at h
  · cases h
  · next hr =>
    cases h
    rw [after?_eq_some_iff.1 hr, List.length_cons] at h₁
    omega
  · simp [fail] at h

theorem line_length {room : Nat} {d d' : Draft} {s r : List Char}
    (h : line room d s = .ok (d', some r)) :
    r.length < s.length := by
  have h₁ := skipBlanks_length s
  unfold line at h
  split at h
  · next hr =>
    cases h
    rw [after?_eq_some_iff.1 hr, List.length_cons] at h₁
    omega
  · obtain ⟨⟨d₁, r₁⟩, hs, h⟩ := bind_eq_ok h
    obtain ⟨r₂, he, h⟩ := bind_eq_ok h
    cases h
    have := statement_length hs
    have := lineEnd_length he
    omega

/-! ### The whole text -/

def lines (room : Nat) (d : Draft) (s : List Char) : Except Fault Table :=
  match h : line room d s with
  | .error e => .error e
  | .ok (d', none) => .ok d'.table
  | .ok (d', some r) =>
    have := line_length h
    lines room d' r
termination_by s.length

/-- The table that a text describes. -/
def parse (room : Nat) (text : List Char) : Except Problem Table :=
  let unified := unifyNewlines text
  (lines room Draft.empty unified).mapError (Fault.locate unified)

end GreetCalc.Toml
