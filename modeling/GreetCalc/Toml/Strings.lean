import GreetCalc.Text.Digit
import GreetCalc.Toml.Scan

/-!
# Strings

The four ways of writing a text. Basic strings stand between double quotes and have escapes;
literal strings stand between single quotes and have none. Both come in one line and, with the
quotes tripled, in a block of several lines. A block drops a line end right after its opening
quotes, and up to two quotes right before its closing quotes belong to the text.

Each reader is given what follows the opening quotes.
-/

namespace GreetCalc.Toml

/-! ### Escapes -/

/-- The character that a letter after a backslash stands for. -/
def shortEscape? : Char → Option Char
  | 'b' => some '\x08'
  | 't' => some '\t'
  | 'n' => some '\n'
  | 'f' => some '\x0c'
  | 'r' => some '\r'
  | '"' => some '"'
  | '\\' => some '\\'
  | _ => none

def hexValue? (ds : List Char) : Option Nat :=
  ds.foldl (fun acc d => do some ((← acc) * 16 + (← Text.hexDigitValue? d))) (some 0)

/-- Read the character whose code point is written in `n` hexadecimal digits. -/
def codePoint (n : Nat) (s : List Char) : Except Fault (Char × List Char) :=
  if s.length < n then fail .invalidHex s
  else match hexValue? (s.take n) with
    | none => fail .invalidHex s
    | some v =>
      if v.isValidChar then .ok (Char.ofNat v, s.drop n) else fail .notScalar (s.drop n)

def escape : List Char → Except Fault (Char × List Char)
  | [] => fail .unescaped []
  | c :: rest =>
    if c = 'u' then codePoint 4 rest
    else if c = 'U' then codePoint 8 rest
    else match shortEscape? c with
      | some d => .ok (d, rest)
      | none => fail .unescaped rest

theorem codePoint_length {n : Nat} {s r : List Char} {c : Char} (h : codePoint n s = .ok (c, r)) :
    r.length ≤ s.length := by
  unfold codePoint fail at h
  split at h
  · cases h
  · split at h
    · cases h
    · split at h
      · cases h; rw [List.length_drop]; omega
      · cases h

theorem escape_length {s r : List Char} {c : Char} (h : escape s = .ok (c, r)) :
    r.length < s.length := by
  match s with
  | [] => simp [escape, fail] at h
  | d :: rest =>
    rw [escape] at h
    rw [List.length_cons]
    split at h
    · have := codePoint_length h; omega
    · split at h
      · have := codePoint_length h; omega
      · split at h
        · cases h; omega
        · simp [fail] at h

/-! ### Basic strings -/

/-- Put a character in front of a text that was read. -/
def push (c : Char) : List Char × List Char → List Char × List Char
  | (cs, r) => (c :: cs, r)

def basicLine (s : List Char) : Except Fault (List Char × List Char) :=
  match s with
  | [] => fail .unterminated []
  | c :: rest =>
    if c = '"' then .ok ([], rest)
    else if c = '\\' then
      match h : escape rest with
      | .error e => .error e
      | .ok (d, r) =>
        have : r.length < rest.length + 1 := Nat.lt_succ_of_lt (escape_length h)
        (basicLine r).map (push d)
    else if isBarred c then fail (.illegal c) (c :: rest)
    else (basicLine rest).map (push c)
termination_by s.length

/-- Read what a backslash in a block stands for: an escape, or nothing where it ends a line and
swallows all space up to the next text. -/
def blockEscape : List Char → Except Fault (List Char × List Char)
  | [] => fail .unescaped []
  | c :: rest =>
    if isGap c then
      match (c :: rest).dropWhile isBlank with
      | [] => .ok ([], [])
      | d :: more =>
        if d = '\n' then .ok ([], more.dropWhile isGap) else fail .unescaped (d :: more)
    else (escape (c :: rest)).map fun (d, r) => ([d], r)

theorem blockEscape_length {s t r : List Char} (h : blockEscape s = .ok (t, r)) :
    r.length < s.length := by
  match s with
  | [] => simp [blockEscape, fail] at h
  | c :: rest =>
    rw [blockEscape] at h
    split at h
    · split at h
      · cases h; simp
      · next d more hd =>
        split at h
        · cases h
          have h₁ := (List.dropWhile_suffix isBlank (l := c :: rest)).length_le
          have h₂ := (List.dropWhile_suffix isGap (l := more)).length_le
          rw [hd] at h₁
          simp only [List.length_cons] at *
          omega
        · simp [fail] at h
    · match he : escape (c :: rest) with
      | .error e => rw [he] at h; cases h
      | .ok (d, r') => rw [he] at h; cases h; exact escape_length he

def basicBlock (s : List Char) : Except Fault (List Char × List Char) :=
  match s with
  | [] => fail .unterminated []
  | c :: rest =>
    if ['"', '"', '"'].isPrefixOf (c :: rest) then .ok ([], rest.drop 2)
    else if c = '\\' then
      match h : blockEscape rest with
      | .error e => .error e
      | .ok (ds, r) =>
        have : r.length < rest.length + 1 := Nat.lt_succ_of_lt (blockEscape_length h)
        (basicBlock r).map fun (cs, r') => (ds ++ cs, r')
    else if isBarredInBlock c then fail (.illegal c) (c :: rest)
    else (basicBlock rest).map (push c)
termination_by s.length

theorem map_eq_ok {α β : Type} {x : Except Fault α} {f : α → β} {b : β} (h : x.map f = .ok b) :
    ∃ a, x = .ok a ∧ f a = b := by
  match x with
  | .error _ => cases h
  | .ok a => cases h; exact ⟨a, rfl, rfl⟩

theorem basicLine_length {s t r : List Char} (h : basicLine s = .ok (t, r)) :
    r.length < s.length := by
  fun_induction basicLine s generalizing t with
  | case1 => simp [fail] at h
  | case2 rest => cases h; simp
  | case3 => cases h
  | case4 rest _ d r' he hlt ih =>
    obtain ⟨⟨t', r''⟩, h', hp⟩ := map_eq_ok h
    cases hp
    have := ih h'
    rw [List.length_cons]; omega
  | case5 => simp [fail] at h
  | case6 c rest _ _ _ ih =>
    obtain ⟨⟨t', r''⟩, h', hp⟩ := map_eq_ok h
    cases hp
    have := ih h'
    rw [List.length_cons]; omega

theorem basicBlock_length {s t r : List Char} (h : basicBlock s = .ok (t, r)) :
    r.length < s.length := by
  fun_induction basicBlock s generalizing t with
  | case1 => simp [fail] at h
  | case2 c rest =>
    cases h
    rw [List.length_drop, List.length_cons]
    omega
  | case3 => cases h
  | case4 rest _ ds r' he hlt ih =>
    obtain ⟨⟨t', r''⟩, h', hp⟩ := map_eq_ok h
    cases hp
    have := ih h'
    rw [List.length_cons]; omega
  | case5 => simp [fail] at h
  | case6 c rest _ _ _ ih =>
    obtain ⟨⟨t', r''⟩, h', hp⟩ := map_eq_ok h
    cases hp
    have := ih h'
    rw [List.length_cons]; omega

/-! ### Literal strings -/

/-- What stands before and after the first place where `mark` begins. -/
def splitAtMark? (mark : List Char) : List Char → Option (List Char × List Char)
  | [] => none
  | c :: cs =>
    if mark.isPrefixOf (c :: cs) then some ([], (c :: cs).drop mark.length)
    else (splitAtMark? mark cs).map (push c)

theorem splitAtMark?_eq_some {mark s before after : List Char}
    (h : splitAtMark? mark s = some (before, after)) : s = before ++ mark ++ after := by
  induction s generalizing before with
  | nil => cases h
  | cons c cs ih =>
    rw [splitAtMark?] at h
    split at h
    · next hp =>
      cases h
      obtain ⟨t, ht⟩ := List.isPrefixOf_iff_prefix.1 hp
      rw [← ht]; simp
    · obtain ⟨⟨b, a⟩, hb, hp⟩ := Option.map_eq_some_iff.1 h
      cases hp
      simp [ih hb]

/-- Read a literal string up to its closing quotes `mark`, where `barred` says which characters may
not stand in it. The closing quotes are looked for first. -/
def literal (mark : List Char) (barred : Char → Bool) (s : List Char) :
    Except Fault (List Char × List Char) :=
  match splitAtMark? mark s with
  | none => fail (.delimiter (String.ofList mark)) []
  | some (inside, after) =>
    match inside.find? barred with
    | some c => fail (.found c) (s.dropWhile (!barred ·))
    | none => .ok (inside, after)

theorem literal_length {mark s t r : List Char} {barred : Char → Bool}
    (h : literal mark barred s = .ok (t, r)) : r.length ≤ s.length := by
  unfold literal at h
  split at h
  · simp [fail] at h
  · next inside after hs =>
    split at h
    · simp [fail] at h
    · cases h
      rw [splitAtMark?_eq_some hs, List.length_append]
      omega

def literalLine (s : List Char) : Except Fault (List Char × List Char) :=
  literal ['\x27'] isBarred s

def literalBlock (s : List Char) : Except Fault (List Char × List Char) :=
  literal ['\x27', '\x27', '\x27'] isBarredInBlock s

/-! ### Blocks -/

/-- A block without the line end right after its opening quotes. -/
def dropFirstNewline : List Char → List Char
  | '\n' :: rest => rest
  | s => s

/-- Move up to two quotes that stand right after a block into its text. -/
def takeQuotes (mark : Char) : List Char × List Char → List Char × List Char
  | (t, r) =>
    let extra := (r.take 2).takeWhile (· == mark)
    (t ++ extra, r.drop extra.length)

def block (mark : Char) (inside : List Char → Except Fault (List Char × List Char))
    (s : List Char) : Except Fault (List Char × List Char) :=
  (inside (dropFirstNewline s)).map (takeQuotes mark)

theorem dropFirstNewline_length (s : List Char) : (dropFirstNewline s).length ≤ s.length := by
  unfold dropFirstNewline
  split <;> simp

theorem block_length {mark : Char} {inside : List Char → Except Fault (List Char × List Char)}
    (hi : ∀ {s t r : List Char}, inside s = .ok (t, r) → r.length ≤ s.length)
    {s t r : List Char} (h : block mark inside s = .ok (t, r)) : r.length ≤ s.length := by
  obtain ⟨⟨t', r'⟩, h', hp⟩ := map_eq_ok h
  cases hp
  have h₁ := hi h'
  have h₂ := dropFirstNewline_length s
  rw [List.length_drop]
  omega

end GreetCalc.Toml
