import GreetCalc.Proofs.Addition.Outcomes
import GreetCalc.Proofs.Session.Steps

/-!
# Sums in a session

A step that asks for a sum is answered with what the sum comes to, whatever the state of the world
is, and hands its record to the log, if there is one (`step_sum`). With the rules for what a sum
comes to this gives all that can be told from outside (`sum_outcomes`).
-/

namespace GreetCalc.World

open Addition (Outcome records)

/-- The log only sees the records of a sum. -/
theorem step_sum {w : World} {s : Step} {a b : Value} {given : Option Value}
    (hop : s.operation = .add a b given) :
    (w.step s).2.reply =
      ((Addition.add a b (given.getD Addition.defaultMode)).map fun total =>
        Reply.int total.value).mapError .addition ∧
    (w.step s).2.writes =
      (records (Addition.add a b (given.getD Addition.defaultMode))).flatMap
        (w.log.tell s.now) := by
  rw [← prepared_log w s]
  show ((w.prepared s).perform _ _ s.operation).2.reply = _ ∧
    ((w.prepared s).perform _ _ s.operation).2.writes = _
  rw [hop, perform]
  cases Addition.add a b (given.getD Addition.defaultMode) with
  | error refusal => exact ⟨rfl, rfl⟩
  | ok total => exact ⟨rfl, rfl⟩

/-- **All that can become of a sum.** For operands and a mode of any kind exactly one of the rules
applies, and it says what the sum comes to. A refusal names what it is about: the mode, or an
operand by its letter; where it would write out an integer beyond the limit of numerals, it is about
this limit. There is a record exactly if what is returned is not the exact sum, and then a single
one, which tells the operands and what is returned. For words this is where the sum is refused if it
may not wrap around. In a session the answer is the same in every world, and the log is handed the
records and nothing else. -/
theorem sum_outcomes (a b mode : Value) :
    (∃! result, Outcome a b mode result) ∧
    Outcome a b mode (Addition.add a b mode) ∧
    (∀ v shown, v.plain Value.ownRoom = .ok shown → (Addition.Refusal.unknownMode v).message =
      "Invalid overflow mode '" ++ shown ++ "'. Valid modes: raise, wrap") ∧
    (∀ v : Value, v.isCompound = false → (∀ n, v = .int n → Decimal.Writable n) →
      ∃ shown, v.plain Value.ownRoom = .ok shown) ∧
    (∀ side v, (Addition.Refusal.notInteger side v).message =
      side.letter ++ " must be an int, got " ++ v.kind) ∧
    (∀ side n, Decimal.Writable n → (Addition.Refusal.outOfRange side n).message =
      side.letter ++ "=" ++ Decimal.numeral n
        ++ " is outside the i32 range [-2147483648, 2147483647]") ∧
    (∀ side n, ¬ Decimal.Writable n →
      (Addition.Refusal.outOfRange side n).message = Decimal.limitMessage "") ∧
    (records (Addition.add a b mode)).length ≤ 1 ∧
    (∀ r, r ∈ records (Addition.add a b mode) ↔
      ∃ x y total, a = .int x ∧ b = .int y ∧ Addition.add a b mode = .ok total ∧
        total.value ≠ x + y ∧
        r = .ofLevel "arith.ops" .debug ("i32 wraparound: " ++ Decimal.numeral x ++ " + "
          ++ Decimal.numeral y ++ " -> " ++ Decimal.numeral total.value)) ∧
    (∀ x y, a = .int x → b = .int y → Word.Fits x → Word.Fits y →
      ((∃ refusal, Addition.add a b (.text "raise") = .error refusal) ↔
        records (Addition.add a b (.text "wrap")) ≠ [])) ∧
    (∀ (w : World) (s : Step) (given : Option Value), s.operation = .add a b given →
      given.getD Addition.defaultMode = mode →
      (w.step s).2.reply = ((Addition.add a b mode).map fun total =>
        Reply.int total.value).mapError .addition ∧
      (w.step s).2.writes = (records (Addition.add a b mode)).flatMap (w.log.tell s.now)) := by
  have hrules : ∀ result, Addition.add a b mode = result ↔ Outcome a b mode result :=
    fun _ => Addition.add_eq_iff a b mode
  refine ⟨?_, (hrules _).mp rfl, fun _ _ => Addition.unknownMode_message,
    fun _ => Addition.exists_plain, fun _ _ => rfl, fun side _ => Addition.outOfRange_message side,
    fun side _ => Addition.outOfRange_message_of_not_writable side, Addition.length_records_le _,
    Addition.mem_records_add a b mode, ?_, ?_⟩
  · exact ⟨_, (hrules _).mp rfl, fun result h => ((hrules result).mpr h).symm⟩
  · rintro x y rfl rfl hx hy
    exact Addition.add_raise_error_iff hx hy
  · rintro w s given hop rfl
    exact step_sum hop

/-- A mode that is none is reported although both operands are unfit, a truth value for a number is
reported before a right operand of too great a size, and the least sum of two words wraps around to
nothing in a session whose log is set up. -/
theorem sum_outcomes_unfit :
    Outcome (.bool true) (.text "1") (.text "loud") (.error (.unknownMode (.text "loud"))) ∧
    Outcome (.bool true) (.int 2147483648) (.text "raise")
      (.error (.notInteger .left (.bool true))) ∧
    ((⟨⟨[]⟩, .lone [], ⟨10, ["audit"]⟩, [], []⟩ : World).step
      ⟨[], 0, none, .add (.int (-2147483648)) (.int (-2147483648)) none⟩).2.writes =
        [⟨"audit", "1970-01-01 00:00:00 DEBUG    [arith.ops] "
          ++ "i32 wraparound: -2147483648 + -2147483648 -> 0\n"⟩] := by
  have hmode : Addition.add (.bool true) (.text "1") (.text "loud") =
      .error (.unknownMode (.text "loud")) := by cbv
  have hkind : Addition.add (.bool true) (.int 2147483648) (.text "raise") =
      .error (.notInteger .left (.bool true)) := rfl
  refine ⟨?_, ?_, ?_⟩
  · have h := (sum_outcomes (.bool true) (.text "1") (.text "loud")).2.1
    rw [hmode] at h
    exact h
  · have h := (sum_outcomes (.bool true) (.int 2147483648) (.text "raise")).2.1
    rw [hkind] at h
    exact h
  · obtain ⟨-, -, -, -, -, -, -, -, -, -, hstep⟩ := sum_outcomes (.int (-2147483648))
      (.int (-2147483648)) (.text "wrap")
    rw [(hstep _ _ none rfl rfl).2]
    decide +kernel

end GreetCalc.World
