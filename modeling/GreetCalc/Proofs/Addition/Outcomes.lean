import GreetCalc.Proofs.Addition
import GreetCalc.Proofs.Word

/-!
# What a sum comes to

The operands and the mode of a sum may be values of any kind, and several of them may be unfit at
once. `Outcome` lists what a sum comes to: the mode is judged first, then the left operand by its
kind and its size, then the right one, and only then the sum itself. Each rule asks for what the
rules before it exclude, so that at most one applies; `add_eq_iff` says that addition follows the
rules and that one always does.

A sum leaves a record exactly if what is returned is not the exact sum (`mem_records_add`), which is
where the same sum is refused if it may not wrap around (`add_raise_error_iff`).
-/

namespace GreetCalc

theorem OverflowMode.ofText?_eq_none {s : String} (h : ∀ m : OverflowMode, s ≠ m.text) :
    ofText? s = none := by
  apply List.find?_eq_none.mpr
  intro m _
  simpa using (h m).symm

namespace Addition

/-- What a sum of two operands in a mode comes to. -/
inductive Outcome (a b mode : Value) : Except Refusal Total → Prop
  | compoundMode : mode.isCompound = true → Outcome a b mode (.error (.compoundMode mode))
  | unknownMode : mode.isCompound = false → (∀ m : OverflowMode, mode ≠ .text m.text) →
      Outcome a b mode (.error (.unknownMode mode))
  | leftNotInteger {m : OverflowMode} : mode = .text m.text → (∀ n, a ≠ .int n) →
      Outcome a b mode (.error (.notInteger .left a))
  | leftOutOfRange {m : OverflowMode} {x : Int} : mode = .text m.text → a = .int x →
      ¬ Word.Fits x → Outcome a b mode (.error (.outOfRange .left x))
  | rightNotInteger {m : OverflowMode} {x : Int} : mode = .text m.text → a = .int x →
      Word.Fits x → (∀ n, b ≠ .int n) → Outcome a b mode (.error (.notInteger .right b))
  | rightOutOfRange {m : OverflowMode} {x y : Int} : mode = .text m.text → a = .int x →
      Word.Fits x → b = .int y → ¬ Word.Fits y →
      Outcome a b mode (.error (.outOfRange .right y))
  | exact {m : OverflowMode} {x y : Int} : mode = .text m.text → a = .int x → Word.Fits x →
      b = .int y → Word.Fits y → Word.Fits (x + y) → Outcome a b mode (.ok ⟨x + y, none⟩)
  | refused {x y : Int} : mode = .text "raise" → a = .int x → Word.Fits x →
      b = .int y → Word.Fits y → ¬ Word.Fits (x + y) →
      Outcome a b mode (.error (.overflow x y))
  | wrapped {x y : Int} : mode = .text "wrap" → a = .int x → Word.Fits x →
      b = .int y → Word.Fits y → ¬ Word.Fits (x + y) →
      Outcome a b mode (.ok ⟨Word.wrap (x + y), some (wrapRecord x y)⟩)

/-! ## Addition follows the rules -/

section Rules

variable {a b mode : Value}

/-- A mode that is a list or a table is refused before anything else is looked at. -/
theorem add_compoundMode (h : mode.isCompound = true) :
    add a b mode = .error (.compoundMode mode) := by
  cases mode with
  | list items => rfl
  | table entries => rfl
  | _ => cases h

/-- Any other mode that is none is refused next, whatever the operands are. -/
theorem add_unknownMode (hc : mode.isCompound = false)
    (h : ∀ m : OverflowMode, mode ≠ .text m.text) : add a b mode = .error (.unknownMode mode) := by
  cases mode with
  | list items => cases hc
  | table entries => cases hc
  | text s =>
      have hs : OverflowMode.ofText? s = none := by
        apply OverflowMode.ofText?_eq_none
        rintro m rfl
        exact h m rfl
      have hmode : Addition.mode (.text s) = .error (.unknownMode (.text s)) := by
        rw [Addition.mode, hs]
      rw [add, hmode]
      rfl
  | _ => rfl

/-- The rules are right: a sum comes to what a rule says. -/
theorem add_eq_of_outcome {r : Except Refusal Total} (h : Outcome a b mode r) :
    add a b mode = r := by
  cases h with
  | compoundMode h => exact add_compoundMode h
  | unknownMode hc h => exact add_unknownMode hc h
  | @leftNotInteger m hmode ha =>
      rw [hmode]
      exact add_notInteger_left m ha b
  | @leftOutOfRange m x hmode ha hx =>
      rw [hmode, ha]
      exact add_outOfRange m hx b
  | @rightNotInteger m x hmode ha hx hb =>
      rw [hmode, ha]
      exact add_notInteger_right m hx hb
  | @rightOutOfRange m x y hmode ha hx hb hy =>
      rw [hmode, ha, hb, add_int, if_pos hx, if_neg hy]
  | @exact m x y hmode ha hx hb hy hsum =>
      rw [hmode, ha, hb, add_int, if_pos hx, if_pos hy]
      exact if_pos hsum
  | @refused x y hmode ha hx hb hy hsum =>
      rw [hmode, ha, hb, show "raise" = OverflowMode.raise.text from rfl, add_int, if_pos hx,
        if_pos hy]
      exact if_neg hsum
  | @wrapped x y hmode ha hx hb hy hsum =>
      rw [hmode, ha, hb, show "wrap" = OverflowMode.wrap.text from rfl, add_int, if_pos hx,
        if_pos hy]
      exact if_neg hsum

variable (a b mode)

/-- Some rule always applies. -/
theorem exists_outcome : ∃ r, Outcome a b mode r := by
  by_cases hc : mode.isCompound = true
  case pos => exact ⟨_, .compoundMode hc⟩
  by_cases hmode : ∃ m : OverflowMode, mode = .text m.text
  case neg => exact ⟨_, .unknownMode (by simpa using hc) (by simpa using hmode)⟩
  obtain ⟨m, hm⟩ := hmode
  by_cases ha : ∃ x, a = .int x
  case neg => exact ⟨_, .leftNotInteger hm (by simpa using ha)⟩
  obtain ⟨x, ha⟩ := ha
  by_cases hx : Word.Fits x
  case neg => exact ⟨_, .leftOutOfRange hm ha hx⟩
  by_cases hb : ∃ y, b = .int y
  case neg => exact ⟨_, .rightNotInteger hm ha hx (by simpa using hb)⟩
  obtain ⟨y, hb⟩ := hb
  by_cases hy : Word.Fits y
  case neg => exact ⟨_, .rightOutOfRange hm ha hx hb hy⟩
  by_cases hsum : Word.Fits (x + y)
  case pos => exact ⟨_, .exact hm ha hx hb hy hsum⟩
  cases m with
  | raise => exact ⟨_, .refused hm ha hx hb hy hsum⟩
  | wrap => exact ⟨_, .wrapped hm ha hx hb hy hsum⟩

/-- Addition comes to what the rules say and to nothing else. -/
theorem add_eq_iff {r : Except Refusal Total} : add a b mode = r ↔ Outcome a b mode r := by
  refine ⟨?_, add_eq_of_outcome⟩
  rintro rfl
  obtain ⟨r, hr⟩ := exists_outcome a b mode
  rw [add_eq_of_outcome hr]
  exact hr

end Rules

/-! ## Records -/

/-- The records that a sum leaves. -/
def records : Except Refusal Total → List Record
  | .ok total => total.record.toList
  | .error _ => []

/-- A sum leaves the record of its wrapping around if what is returned is not the exact sum, and no
record otherwise. -/
theorem mem_records_add (a b mode : Value) (r : Record) :
    r ∈ records (add a b mode) ↔
      ∃ x y total, a = .int x ∧ b = .int y ∧ add a b mode = .ok total ∧ total.value ≠ x + y ∧
        r = .ofLevel "arith.ops" .debug ("i32 wraparound: " ++ Decimal.numeral x ++ " + "
          ++ Decimal.numeral y ++ " -> " ++ Decimal.numeral total.value) := by
  obtain ⟨result, hresult⟩ := exists_outcome a b mode
  rw [add_eq_of_outcome hresult]
  cases hresult with
  | @exact m x y hmode ha hx hb hy hsum =>
      -- The exact sum is returned, so there is neither a record nor a difference.
      simp only [records, Option.toList_none, List.not_mem_nil, false_iff]
      rintro ⟨x', y', total, rfl, rfl, htotal, hne, -⟩
      cases ha
      cases hb
      cases htotal
      exact hne rfl
  | @wrapped x y hmode ha hx hb hy hsum =>
      have hne : Word.wrap (x + y) ≠ x + y := fun h => hsum ((Word.wrap_eq_self_iff _).mp h)
      simp only [records, Option.toList_some, List.mem_singleton]
      constructor
      · rintro rfl
        exact ⟨x, y, _, ha, hb, rfl, hne, rfl⟩
      · rintro ⟨x', y', total, rfl, rfl, htotal, -, rfl⟩
        cases ha
        cases hb
        cases htotal
        rfl
  | _ => simp [records]

theorem length_records_le (r : Except Refusal Total) : (records r).length ≤ 1 := by
  cases r with
  | error refusal => simp [records]
  | ok total =>
      rw [records]
      cases total.record with
      | none => simp
      | some record => simp

/-- A sum of words is refused in the one mode where it leaves a record in the other. -/
theorem add_raise_error_iff {x y : Int} (hx : Word.Fits x) (hy : Word.Fits y) :
    (∃ refusal, add (.int x) (.int y) (.text "raise") = .error refusal) ↔
      records (add (.int x) (.int y) (.text "wrap")) ≠ [] := by
  by_cases hsum : Word.Fits (x + y)
  · have hraise : add (.int x) (.int y) (.text "raise") = .ok ⟨x + y, none⟩ :=
      add_eq_of_outcome (.exact (m := .raise) rfl rfl hx rfl hy hsum)
    have hwrap : add (.int x) (.int y) (.text "wrap") = .ok ⟨x + y, none⟩ :=
      add_eq_of_outcome (.exact (m := .wrap) rfl rfl hx rfl hy hsum)
    rw [hraise, hwrap]
    simp [records]
  · rw [add_eq_of_outcome (.refused rfl rfl hx rfl hy hsum),
      add_eq_of_outcome (.wrapped rfl rfl hx rfl hy hsum)]
    simp [records]

end Addition

end GreetCalc
