import GreetCalc.Toml.Strings

/-!
# Keys

A key is a sequence of parts with dots between them, and spaces around the dots. A part is a
bare word or a string of one line.
-/

namespace GreetCalc.Toml

abbrev Key := List String

def keyPart : List Char → Except Fault (String × List Char)
  | [] => fail .keyPart []
  | c :: rest =>
    if isBare c then
      .ok (String.ofList (c :: rest.takeWhile isBare), rest.dropWhile isBare)
    else if c = '\x27' then (literalLine rest).map fun (t, r) => (String.ofList t, r)
    else if c = '"' then (basicLine rest).map fun (t, r) => (String.ofList t, r)
    else fail .keyPart (c :: rest)

theorem keyPart_length {s r : List Char} {k : String} (h : keyPart s = .ok (k, r)) :
    r.length < s.length := by
  match s with
  | [] => simp [keyPart, fail] at h
  | c :: rest =>
    rw [keyPart] at h
    rw [List.length_cons]
    split at h
    · cases h
      exact Nat.lt_succ_of_le (List.dropWhile_suffix isBare).length_le
    · split at h
      · obtain ⟨⟨t, r'⟩, ht, hp⟩ := map_eq_ok h
        cases hp
        exact Nat.lt_succ_of_le (literal_length ht)
      · split at h
        · obtain ⟨⟨t, r'⟩, ht, hp⟩ := map_eq_ok h
          cases hp
          exact Nat.lt_succ_of_lt (basicLine_length ht)
        · simp [fail] at h

/-- What follows a dot between two parts, and the spaces around it. -/
def afterDot? (s : List Char) : Option (List Char) := (after? '.' (skipBlanks s)).map skipBlanks

theorem afterDot?_length {s r : List Char} (h : afterDot? s = some r) : r.length < s.length := by
  obtain ⟨t, ht, rfl⟩ := Option.map_eq_some_iff.1 h
  have h₁ := skipBlanks_length s
  have h₂ := skipBlanks_length t
  rw [after?_eq_some_iff.1 ht, List.length_cons] at h₁
  omega

def key (s : List Char) : Except Fault (Key × List Char) :=
  match h : keyPart s with
  | .error e => .error e
  | .ok (part, r) =>
    match h' : afterDot? r with
    | none => .ok ([part], skipBlanks r)
    | some r' =>
      have : r'.length < s.length := Nat.lt_trans (afterDot?_length h') (keyPart_length h)
      (key r').map fun (parts, rest) => (part :: parts, rest)
termination_by s.length

theorem key_length {s r : List Char} {k : Key} (h : key s = .ok (k, r)) : r.length < s.length := by
  fun_induction key s generalizing k with
  | case1 => cases h
  | case2 s part r' hp _ =>
    cases h
    exact Nat.lt_of_le_of_lt (skipBlanks_length r') (keyPart_length hp)
  | case3 s part r' hp r'' hd hlt ih =>
    obtain ⟨⟨ps, rest⟩, hk, hq⟩ := map_eq_ok h
    cases hq
    exact Nat.lt_trans (ih hk) hlt

end GreetCalc.Toml
