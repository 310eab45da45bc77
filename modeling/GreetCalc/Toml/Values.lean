import GreetCalc.Toml.Moment
import GreetCalc.Toml.Namespace
import GreetCalc.Toml.Number

/-!
# Values of a document

A value is a string, a truth value, an array, an inline table, a date or time, or a number; its
first characters decide which. Arrays and inline tables hold values again, but only so deep: the
caller leaves some room for what is open at once, and each open array or inline table takes its
share of it. Each reader returns a rest that is shorter than what it was given, and calls the
others only on such rests, or hands on what it was given to a reader further down the order.
-/

namespace GreetCalc.Toml

def textValue (x : Except Fault (List Char × List Char)) : Except Fault (Value × List Char) :=
  x.map fun (t, r) => (.text (String.ofList t), r)

theorem textValue_eq_ok {x : Except Fault (List Char × List Char)} {v : Value} {r : List Char}
    (h : textValue x = .ok (v, r)) : ∃ t, x = .ok (t, r) := by
  obtain ⟨⟨t, r'⟩, ht, hp⟩ := map_eq_ok h
  cases hp
  exact ⟨t, ht⟩

def basicString (s : List Char) : Except Fault (Value × List Char) :=
  match s with
  | '"' :: '"' :: rest => textValue (block '"' basicBlock rest)
  | s => textValue (basicLine s)

def literalString (s : List Char) : Except Fault (Value × List Char) :=
  match s with
  | '\x27' :: '\x27' :: rest => textValue (block '\x27' literalBlock rest)
  | s => textValue (literalLine s)

theorem basicString_length {s r : List Char} {v : Value} (h : basicString s = .ok (v, r)) :
    r.length ≤ s.length := by
  unfold basicString at h
  split at h
  · next rest =>
    obtain ⟨t, ht⟩ := textValue_eq_ok h
    have := block_length (fun hi => Nat.le_of_lt (basicBlock_length hi)) ht
    simp only [List.length_cons]; omega
  · obtain ⟨t, ht⟩ := textValue_eq_ok h
    exact Nat.le_of_lt (basicLine_length ht)

theorem literalString_length {s r : List Char} {v : Value} (h : literalString s = .ok (v, r)) :
    r.length ≤ s.length := by
  unfold literalString at h
  split at h
  · next rest =>
    obtain ⟨t, ht⟩ := textValue_eq_ok h
    have := block_length (fun hi => literal_length hi) ht
    simp only [List.length_cons]; omega
  · obtain ⟨t, ht⟩ := textValue_eq_ok h
    exact literal_length ht

def truth? : List Char → Option (Value × List Char)
  | 't' :: 'r' :: 'u' :: 'e' :: rest => some (.bool true, rest)
  | 'f' :: 'a' :: 'l' :: 's' :: 'e' :: rest => some (.bool false, rest)
  | _ => none

/-- Read a value that holds no others and is no string. -/
def scalar (s : List Char) : Except Fault (Value × List Char) :=
  match truth? s with
  | some x => .ok x
  | none => do
    match ← moment? s with
    | some x => .ok x
    | none =>
      match ← number? s with
      | some x => .ok x
      | none => fail .invalidValue s

theorem truth?_length {s r : List Char} {v : Value} (h : truth? s = some (v, r)) :
    r.length < s.length := by
  unfold truth? at h
  split at h <;> cases h <;> simp only [List.length_cons] <;> omega

theorem scalar_length {s r : List Char} {v : Value} (h : scalar s = .ok (v, r)) :
    r.length < s.length := by
  unfold scalar at h
  split at h
  · next ht => cases h; exact truth?_length ht
  · match hm : moment? s with
    | .error _ => rw [hm] at h; cases h
    | .ok (some _) => rw [hm] at h; cases h; exact moment?_length hm
    | .ok none =>
      rw [hm] at h
      match hn : number? s with
      | .error _ => simp only [hn, bind, Except.bind] at h; cases h
      | .ok (some _) =>
        simp only [hn, bind, Except.bind] at h; cases h; exact number?_length hn
      | .ok none => simp [hn, bind, Except.bind, fail] at h

/-- Read a value that holds no others. -/
def simple : List Char → Except Fault (Value × List Char)
  | [] => fail .invalidValue []
  | c :: rest =>
    if c = '"' then basicString rest
    else if c = '\x27' then literalString rest
    else scalar (c :: rest)

theorem simple_length {s r : List Char} {v : Value} (h : simple s = .ok (v, r)) :
    r.length < s.length := by
  match s with
  | [] => simp [simple, fail] at h
  | c :: rest =>
    rw [simple] at h
    split at h
    · exact Nat.lt_succ_of_le (basicString_length h)
    · split at h
      · exact Nat.lt_succ_of_le (literalString_length h)
      · exact scalar_length h

/-- Read a value that holds no others, with a rest that is shorter. -/
def simpleValue (s : List Char) : Except Fault (Value × Rest s) :=
  attach (simple s) fun _ _ h => simple_length h

def pairKey (s : List Char) : Except Fault (Key × Rest s) :=
  attach (key s) fun _ _ h => key_length h

/-! ### Arrays and inline tables -/

/-- What follows the closing bracket of an array or inline table, if it stands here. -/
def closes? (bracket : Char) (s : List Char) : Option (Rest s) :=
  match h : after? bracket s with
  | some r => some ⟨r, by rw [after?_eq_some_iff.1 h]; exact Nat.lt_succ_self _⟩
  | none => none

/-- What follows an item of an array or inline table. -/
inductive AfterItem (s : List Char) where
  | closed (r : Rest s)
  | comma (r : Rest s)

def afterItem (bracket : Char) (unclosed : Cause) (s : List Char) : Except Fault (AfterItem s) :=
  match closes? bracket s, closes? ',' s with
  | some r, _ => .ok (.closed r)
  | none, some r => .ok (.comma r)
  | none, none => fail unclosed s

/-- Read the equals sign between a key and its value, and the spaces after it. -/
def equalsSign (s : List Char) : Except Fault (Rest s) :=
  match closes? '=' s with
  | some ⟨r, hr⟩ => .ok ⟨skipBlanks r, Nat.lt_of_le_of_lt (skipBlanks_length r) hr⟩
  | none => fail .equalsSign s

/-! ### Nesting -/

/-- The room that an open array takes: for itself and for the item that is being read. -/
def arrayRoom : Nat := 2

/-- The room that an open inline table takes: for itself, for the entry that is being read and for
its value. -/
def tableRoom : Nat := 3

/-- The room that is left inside of something that takes `share` of it. -/
def roomInside (share room : Nat) : Except Fault Nat :=
  if room < share then .error .tooDeep else .ok (room - share)

mutual

/-- Read a value, where `room` is left for what is open in it. -/
def value (room : Nat) (s : List Char) : Except Fault (Value × Rest s) :=
  match s with
  | [] => fail .invalidValue []
  | c :: rest =>
    if c = '[' then do
      let inner ← roomInside arrayRoom room
      let ⟨r, hr⟩ ← skipGaps rest
      match closes? ']' r with
      | some ⟨r', hr'⟩ => .ok (.list [], ⟨r', by rw [List.length_cons]; omega⟩)
      | none =>
        let (vs, ⟨r', hr'⟩) ← items inner r
        .ok (.list vs, ⟨r', by rw [List.length_cons]; omega⟩)
    else if c = '\x7b' then do
      let inner ← roomInside tableRoom room
      have hr := skipBlanks_length rest
      match closes? '\x7d' (skipBlanks rest) with
      | some ⟨r', hr'⟩ => .ok (.table [], ⟨r', by rw [List.length_cons]; omega⟩)
      | none =>
        let (t, ⟨r', hr'⟩) ← pairs inner [] [] (skipBlanks rest)
        .ok (.table t, ⟨r', by rw [List.length_cons]; omega⟩)
    else simpleValue (c :: rest)
termination_by (s.length, 0)

/-- Read the items of an array from the first one to the closing bracket. -/
def items (room : Nat) (s : List Char) : Except Fault (List Value × Rest s) := do
  let (v, ⟨r, hr⟩) ← value room s
  let ⟨r₁, h₁⟩ ← skipGaps r
  match ← afterItem ']' .unclosedArray r₁ with
  | .closed ⟨r₂, h₂⟩ => .ok ([v], ⟨r₂, by omega⟩)
  | .comma ⟨r₂, h₂⟩ =>
    let ⟨r₃, h₃⟩ ← skipGaps r₂
    match closes? ']' r₃ with
    | some ⟨r₄, h₄⟩ => .ok ([v], ⟨r₄, by omega⟩)
    | none =>
      have hlt : r₃.length < s.length := by omega
      let (vs, ⟨r₄, h₄⟩) ← items room r₃
      .ok (v :: vs, ⟨r₄, by omega⟩)
termination_by (s.length, 1)

def pair (room : Nat) (s : List Char) : Except Fault ((Key × Value) × Rest s) := do
  let (k, ⟨r, hr⟩) ← pairKey s
  let ⟨r₁, h₁⟩ ← equalsSign r
  have hlt : r₁.length < s.length := by omega
  let (v, ⟨r₂, h₂⟩) ← value room r₁
  .ok ((k, v), ⟨r₂, by omega⟩)
termination_by (s.length, 1)

/-- Read the entries of an inline table from the next one to the closing bracket, where `t`
holds the entries so far and `frozen` the keys among them that are complete. -/
def pairs (room : Nat) (t : Table) (frozen : List Key) (s : List Char) :
    Except Fault (Table × Rest s) := do
  let ((k, v), ⟨r, hr⟩) ← pair room s
  -- The order of these two checks shows in the fault that is reported.
  if isWithin frozen k then fail (.immutable k) r
  else match insertAt false k v t with
    | .error .blocked => fail .overwrite r
    | .error .taken => fail (.duplicate (lastPart k)) r
    | .ok t' =>
      have h₁ := skipBlanks_length r
      match ← afterItem '\x7d' .unclosedTable (skipBlanks r) with
      | .closed ⟨r₂, h₂⟩ => .ok (t', ⟨r₂, by omega⟩)
      | .comma ⟨r₂, h₂⟩ =>
        have h₃ := skipBlanks_length r₂
        have hlt : (skipBlanks r₂).length < s.length := by omega
        let (t'', ⟨r₄, h₄⟩) ←
          pairs room t' (if v.isCompound then k :: frozen else frozen) (skipBlanks r₂)
        .ok (t'', ⟨r₄, by omega⟩)
termination_by (s.length, 2)

end

end GreetCalc.Toml
