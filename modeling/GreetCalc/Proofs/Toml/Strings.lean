import GreetCalc.Toml.Values

/-!
# Writing basic strings

`Spelled text s` says that the characters `s` write a text between double quotes: quotes and
backslashes stand after a backslash, control characters are given by the four digits of their code
point, and all else stands for itself. The reader of basic strings takes such a spelling for the
text it writes and stops at the closing quote (`basicString_spelled`).
-/

namespace GreetCalc.Toml

/-! ## Spellings -/

/-- A hexadecimal digit, in either case. -/
def IsHexDigit (n : Nat) (d : Char) : Prop :=
  n < 16 ∧ (d = Nat.digitChar n ∨ d = (Nat.digitChar n).toUpper)

instance (n : Nat) (d : Char) : Decidable (IsHexDigit n d) :=
  inferInstanceAs (Decidable (n < 16 ∧ (d = Nat.digitChar n ∨ d = (Nat.digitChar n).toUpper)))

/-- How a text is written between double quotes. -/
inductive Spelled : List Char → List Char → Prop
  | nil : Spelled [] []
  | plain {c : Char} {cs s : List Char} : isControl c = false → c ≠ '"' → c ≠ '\\' →
      Spelled cs s → Spelled (c :: cs) (c :: s)
  | escaped {c : Char} {cs s : List Char} : c = '"' ∨ c = '\\' →
      Spelled cs s → Spelled (c :: cs) ('\\' :: c :: s)
  | control {c hi lo : Char} {cs s : List Char} : isControl c = true →
      IsHexDigit (c.toNat / 16) hi → IsHexDigit (c.toNat % 16) lo →
      Spelled cs s → Spelled (c :: cs) ('\\' :: 'u' :: '0' :: '0' :: hi :: lo :: s)

/-- Whether a character stands for itself between double quotes. -/
def isPlain (c : Char) : Bool := !isControl c && c != '"' && c != '\\'

theorem spelled_self {cs : List Char} (h : cs.all isPlain = true) : Spelled cs cs := by
  induction cs with
  | nil => exact .nil
  | cons c cs ih =>
      simp only [List.all_cons, isPlain, Bool.and_eq_true, Bool.not_eq_true', bne_iff_ne] at h
      obtain ⟨⟨⟨hc, hq⟩, hb⟩, hcs⟩ := h
      exact .plain hc hq hb (ih hcs)

/-- Every text can be written. -/
theorem exists_spelled (cs : List Char) : ∃ s, Spelled cs s := by
  induction cs with
  | nil => exact ⟨_, .nil⟩
  | cons c cs ih =>
      obtain ⟨s, hs⟩ := ih
      by_cases hc : isControl c = true
      · have hlt : c.toNat < 0x80 := by
          simp only [isControl, Bool.or_eq_true, decide_eq_true_eq, beq_iff_eq] at hc
          omega
        exact ⟨_, .control hc ⟨by omega, .inl rfl⟩ ⟨by omega, .inl rfl⟩ hs⟩
      · by_cases he : c = '"' ∨ c = '\\'
        · exact ⟨_, .escaped he hs⟩
        · rw [not_or] at he
          exact ⟨_, .plain (Bool.eq_false_iff.mpr hc) he.1 he.2 hs⟩

/-! ## Digits and escapes -/

theorem hexDigitValue?_of_isHexDigit {n : Nat} {d : Char} (h : IsHexDigit n d) :
    Text.hexDigitValue? d = some n := by
  obtain ⟨hn, hd⟩ := h
  have hall : ∀ k < 16, Text.hexDigitValue? (Nat.digitChar k) = some k ∧
      Text.hexDigitValue? (Nat.digitChar k).toUpper = some k := by decide
  rcases hd with rfl | rfl
  · exact (hall n hn).1
  · exact (hall n hn).2

/-- Hexadecimal digits are read as the character whose code point they write. -/
theorem codePoint_eq {n : Nat} {c : Char} {s : List Char} (hlen : n ≤ s.length)
    (hvalue : hexValue? (s.take n) = some c.toNat) : codePoint n s = .ok (c, s.drop n) := by
  have hvalid : c.toNat.isValidChar := c.valid
  rw [codePoint, if_neg (by omega), hvalue]
  dsimp only
  rw [if_pos hvalid, Char.ofNat_toNat]

theorem escape_control {c hi lo : Char} (hhi : IsHexDigit (c.toNat / 16) hi)
    (hlo : IsHexDigit (c.toNat % 16) lo) (rest : List Char) :
    escape ('u' :: '0' :: '0' :: hi :: lo :: rest) = .ok (c, rest) := by
  have hzero : Text.hexDigitValue? '0' = some 0 := by decide
  have hvalue : hexValue? ['0', '0', hi, lo] = some c.toNat := by
    simp only [hexValue?, List.foldl_cons, List.foldl_nil, hzero, hexDigitValue?_of_isHexDigit hhi,
      hexDigitValue?_of_isHexDigit hlo, Option.bind_eq_bind, Option.bind_some]
    congr 1
    omega
  have hlen : 4 ≤ ('0' :: '0' :: hi :: lo :: rest).length := by simp
  rw [escape, if_pos rfl]
  exact codePoint_eq hlen hvalue

theorem escape_self {c : Char} (h : c = '"' ∨ c = '\\') (rest : List Char) :
    escape (c :: rest) = .ok (c, rest) := by
  rcases h with rfl | rfl <;> rfl

/-! ## Reading -/

theorem basicLine_escape {s r : List Char} {c : Char} (h : escape s = .ok (c, r)) :
    basicLine ('\\' :: s) = (basicLine r).map (push c) := by
  rw [basicLine, if_neg (by decide), if_pos rfl]
  split
  · next e he => rw [h] at he; cases he
  · next d r' he => rw [h] at he; cases he; rfl

/-- A spelling between double quotes is read as the text that it spells. -/
theorem basicLine_spelled {text s : List Char} (h : Spelled text s) (rest : List Char) :
    basicLine (s ++ '"' :: rest) = .ok (text, rest) := by
  induction h with
  | nil => rw [List.nil_append, basicLine, if_pos rfl]
  | @plain c _ _ hc hq hb _ ih =>
      have hbarred : ¬ isBarred c = true := by simp [isBarred, hc]
      rw [List.cons_append, basicLine, if_neg hq, if_neg hb, if_neg hbarred, ih]
      rfl
  | escaped hc _ ih =>
      rw [List.cons_append, List.cons_append, basicLine_escape (escape_self hc _), ih]
      rfl
  | control _ hhi hlo _ ih =>
      simp only [List.cons_append]
      rw [basicLine_escape (escape_control hhi hlo _), ih]
      rfl

theorem Spelled.head_ne_quote {text s : List Char} (h : Spelled text s) : s.head? ≠ some '"' := by
  cases h with
  | nil => simp
  | plain _ hq _ _ => simpa using hq
  | escaped _ _ => simp
  | control _ _ _ _ => simp

/-- A spelling after its opening quote is read as what it writes. A quote right after it would make
the quotes those of a block. -/
theorem basicString_spelled {text s rest : List Char} (h : Spelled text s)
    (hrest : rest.head? ≠ some '"') :
    basicString (s ++ '"' :: rest) = .ok (.text (String.ofList text), rest) := by
  rw [basicString]
  · rw [basicLine_spelled h]
    rfl
  · -- Two quotes right after the opening one would need a quote at the front of the spelling or of
    -- what follows an empty one.
    intro r hr
    cases s with
    | nil =>
        cases hr
        exact hrest rfl
    | cons c s =>
        rw [List.cons_append, List.cons.injEq] at hr
        exact h.head_ne_quote (by rw [hr.1, List.head?_cons])

end GreetCalc.Toml
