import GreetCalc.Addition
import GreetCalc.Proofs.Decimal.Numeral

/-!
# Sums of integers

What `Addition.add` does with two integers and a mode that is spelled as it should be: it refuses
the first operand that is no word, and otherwise adds the two as words (`add_int`). So such a sum
is refused for the size of the numbers or is given (`add_int_cases`). The operands are looked at one
after the other, so that the left one decides alone where it is refused (`add_outOfRange`).
-/

namespace GreetCalc

@[simp] theorem OverflowMode.ofText?_text (m : OverflowMode) : ofText? m.text = some m := by
  cases m <;> decide

namespace Addition

@[simp] theorem mode_text (m : OverflowMode) : mode (.text m.text) = .ok m := by
  rw [mode, OverflowMode.ofText?_text]

theorem add_int (a b : Int) (m : OverflowMode) :
    add (.int a) (.int b) (.text m.text) =
      if Word.Fits a then
        if Word.Fits b then addWords m a b else .error (.outOfRange .right b)
      else .error (.outOfRange .left a) := by
  unfold add
  rw [mode_text]
  by_cases ha : Word.Fits a
  · by_cases hb : Word.Fits b
    · simp [operand, ha, hb, bind, Except.bind]
    · simp [operand, ha, hb, bind, Except.bind]
  · simp [operand, ha, bind, Except.bind]

/-- A sum that is not given: an operand is no word, or the sum is none and may not wrap around. -/
def Impossible (m : OverflowMode) (a b : Int) : Prop :=
  ¬ Word.Fits a ∨ ¬ Word.Fits b ∨ (m = .raise ∧ ¬ Word.Fits (a + b))

/-- A refusal that comes from the size of the numbers. -/
inductive OfSize : Refusal → Prop
  | outOfRange (side : Side) (n : Int) : OfSize (.outOfRange side n)
  | overflow (a b : Int) : OfSize (.overflow a b)

/-- A sum of integers is refused for their size, or it is the word that the exact sum wraps to. -/
theorem add_int_cases (m : OverflowMode) (a b : Int) :
    (Impossible m a b ∧ ∃ refusal, OfSize refusal ∧
      add (.int a) (.int b) (.text m.text) = .error refusal) ∨
    (¬ Impossible m a b ∧ ∃ total, total.value = Word.wrap (a + b) ∧
      add (.int a) (.int b) (.text m.text) = .ok total) := by
  rw [add_int]
  by_cases ha : Word.Fits a
  case neg => exact .inl ⟨.inl ha, _, .outOfRange .left a, if_neg ha⟩
  by_cases hb : Word.Fits b
  case neg =>
    refine .inl ⟨.inr (.inl hb), _, .outOfRange .right b, ?_⟩
    rw [if_pos ha, if_neg hb]
  rw [if_pos ha, if_pos hb]
  unfold addWords
  by_cases hsum : Word.Fits (a + b)
  · refine .inr ⟨?_, ⟨a + b, none⟩, ((Word.wrap_eq_self_iff _).mpr hsum).symm, if_pos hsum⟩
    rintro (h | h | ⟨-, h⟩)
    · exact h ha
    · exact h hb
    · exact h hsum
  · rw [if_neg hsum]
    cases m with
    | raise => exact .inl ⟨.inr (.inr ⟨rfl, hsum⟩), _, .overflow a b, rfl⟩
    | wrap =>
        refine .inr ⟨?_, ⟨Word.wrap (a + b), some (wrapRecord a b)⟩, rfl, rfl⟩
        rintro (h | h | ⟨h, -⟩)
        · exact h ha
        · exact h hb
        · cases h

/-! ## Operands that are no words -/

section Operands

variable {v b : Value} {a : Int} (m : OverflowMode)

/-- Whatever is not an integer is refused as an operand, by the letter of its side. -/
theorem operand_notInteger (side : Side) (h : ∀ n, v ≠ .int n) :
    operand side v = .error (.notInteger side v) := by
  cases v with
  | int n => exact absurd rfl (h n)
  | _ => rfl

/-- The first operand is looked at before the second, which may then be anything. -/
theorem add_notInteger_left (h : ∀ n, v ≠ .int n) (b : Value) :
    add v b (.text m.text) = .error (.notInteger .left v) := by
  rw [add, mode_text]
  show Except.bind (operand .left v) _ = _
  rw [operand_notInteger .left h]
  rfl

theorem add_outOfRange (h : ¬ Word.Fits a) (b : Value) :
    add (.int a) b (.text m.text) = .error (.outOfRange .left a) := by
  rw [add, mode_text]
  show Except.bind (operand .left (.int a)) _ = _
  rw [operand, if_neg h]
  rfl

/-- The second operand counts as soon as the first one is a word. -/
theorem add_notInteger_right (ha : Word.Fits a) (h : ∀ n, b ≠ .int n) :
    add (.int a) b (.text m.text) = .error (.notInteger .right b) := by
  rw [add, mode_text]
  show Except.bind (operand .left (.int a)) _ = _
  rw [operand, if_pos ha]
  show Except.bind (operand .right b) _ = _
  rw [operand_notInteger .right h]
  rfl

end Operands

/-! ## Wording -/

/-- A value that holds no others can be shown, unless it is an integer beyond the limit. -/
theorem exists_plain {v : Value} (hcompound : v.isCompound = false)
    (hint : ∀ n, v = .int n → Decimal.Writable n) : ∃ shown, v.plain Value.ownRoom = .ok shown := by
  cases v with
  | int n =>
      refine ⟨Decimal.numeral n, ?_⟩
      show Decimal.write n = _
      rw [Decimal.write, if_pos (hint n rfl)]
  | list items => cases hcompound
  | table entries => cases hcompound
  | _ => exact ⟨_, rfl⟩

/-- The wording of an unknown mode shows it as it would stand in running text. -/
theorem unknownMode_message {v : Value} {shown : String}
    (h : v.plain Value.ownRoom = .ok shown) :
    (Refusal.unknownMode v).message =
      "Invalid overflow mode '" ++ shown ++ "'. Valid modes: raise, wrap" := by
  have hmodes : "'. Valid modes: " ++ commaSeparated OverflowMode.sortedTexts =
      "'. Valid modes: raise, wrap" := by decide +kernel
  rw [Refusal.message, Refusal.text, h]
  show "Invalid overflow mode '" ++ shown ++ "'. Valid modes: "
    ++ commaSeparated OverflowMode.sortedTexts = _
  rw [String.append_assoc, hmodes]

/-- The wording of an operand that is no word, with the range that words have. -/
theorem outOfRange_message (side : Side) {n : Int} (h : Decimal.Writable n) :
    (Refusal.outOfRange side n).message =
      side.letter ++ "=" ++ Decimal.numeral n
        ++ " is outside the i32 range [-2147483648, 2147483647]" := by
  have hleast : Decimal.numeral Word.least = "-2147483648" := by decide +kernel
  have hgreatest : Decimal.numeral Word.greatest = "2147483647" := by decide +kernel
  have hrange : " is outside the i32 range [" ++ "-2147483648" ++ ", " ++ "2147483647" ++ "]" =
      " is outside the i32 range [-2147483648, 2147483647]" := by decide +kernel
  rw [Refusal.message, Refusal.text, Decimal.write, if_pos h]
  show side.letter ++ "=" ++ Decimal.numeral n ++ " is outside the i32 range ["
    ++ Decimal.numeral Word.least ++ ", " ++ Decimal.numeral Word.greatest ++ "]" = _
  rw [hleast, hgreatest, ← hrange]
  simp only [String.append_assoc]

/-- The operands of an overflow are words, so that they and their sum are short enough. -/
theorem overflow_message {a b : Int} (ha : Word.Fits a) (hb : Word.Fits b) :
    (Refusal.overflow a b).message =
      "i32 overflow: " ++ Decimal.numeral a ++ " + " ++ Decimal.numeral b ++ " = "
        ++ Decimal.numeral (a + b) ++ " is out of range" := by
  have hwrite : ∀ n : Int, n.natAbs ≤ 4294967296 → Decimal.write n = .ok (Decimal.numeral n) := by
    intro n hn
    have hn : n.natAbs < Decimal.tenPow 10 := Nat.lt_of_le_of_lt hn (by decide)
    rw [Decimal.write, if_pos (Decimal.writable_of_lt (by decide) hn)]
  rw [Word.Fits, Word.least_eq, Word.greatest_eq] at ha hb
  rw [Refusal.message, Refusal.text, overflowText, hwrite a (by omega), hwrite b (by omega),
    hwrite (a + b) (by omega)]
  rfl

/-- What cannot be written out is replaced by the limit. -/
theorem outOfRange_message_of_not_writable (side : Side) {n : Int} (h : ¬ Decimal.Writable n) :
    (Refusal.outOfRange side n).message = Decimal.limitMessage "" := by
  rw [Refusal.message, Refusal.text, Decimal.write, if_neg h]
  rfl

end Addition

end GreetCalc
