import GreetCalc.Proofs.CommandLine.Arrangement
import GreetCalc.Proofs.CommandLine.Endings
import GreetCalc.Proofs.Decimal.Numeral

/-!
# Sums as they are typed

Two integers are typed as their canonical numerals, with or without an overflow mode after them.
Such arguments are read as what they say: both numerals are words, also where one begins with a
minus sign, and each is read back as its integer (`read_sumArgs`). In a directory without a
settings file nothing else can interfere: the log is quiet, and the run writes the sum or the
reason why there is none, and nothing more (`run_typed_sum`).
-/

namespace GreetCalc

/-! ## Directories without a settings file -/

/-- There is no settings file in a directory: looking for one finds nothing or a directory, or fails
because nothing is there. -/
def Settings.Missing (disk : Disk) (root : Path) : Prop :=
  disk.files.find disk.host.current (root.child fileName) = .absent ∨
  disk.files.find disk.host.current (root.child fileName) = .found .directory ∨
  ∃ fault, disk.files.find disk.host.current (root.child fileName) = .failed fault ∧
    fault.IsAbsence

theorem Settings.load_of_missing {disk : Disk} {root : Path} (h : Missing disk root) :
    load disk root = .ok {} := by
  unfold load
  rcases h with h | h | ⟨fault, h, habsence⟩
  · simp only [h]
  · simp only [h]
  · simp only [h, if_pos habsence]

namespace CommandLine

/-! ## Numerals are words -/

theorem isDecimal_of_isAsciiDigit {c : Char} (h : Text.isAsciiDigit c = true) :
    Text.isDecimal c = true := by
  have hc := (Decimal.isAsciiDigit_iff c).mp h
  simp [Text.isDecimal, Text.digitValue?, Text.zeroDigits, hc.1, Nat.lt_succ_of_le hc.2]

theorem isDigits_digits (n : Nat) : isDigits (Decimal.digits n) = true := by
  rw [isDigits, Bool.and_eq_true, List.all_eq_true]
  refine ⟨by simp [Decimal.digits_ne_nil n], ?_⟩
  intro c hc
  exact isDecimal_of_isAsciiDigit (Decimal.isAsciiDigit_of_mem_digits hc)

/-- The numeral of an integer looks like one, with a sign or without. -/
theorem isNumeral_numeral (i : Int) : IsNumeral (Decimal.numeral i) := by
  by_cases h : i < 0
  · exact .inr ⟨_, Decimal.toList_numeral_of_neg h, isDigits_digits _⟩
  · refine .inl ?_
    rw [Decimal.toList_numeral_of_nonneg (by omega)]
    exact isDigits_digits _

/-! ## The arguments of a sum -/

/-- The arguments that ask for the sum of two integers, in a mode if one is given. -/
def sumArgs (a b : Int) (mode : Option OverflowMode) : List String :=
  "add" :: Decimal.numeral a :: Decimal.numeral b ::
    match mode with
    | none => []
    | some m => ["--overflow", m.text]

/-- What the arguments of a sum ask for. -/
def sumInvocation (a b : Int) (mode : Option OverflowMode) : Invocation :=
  ⟨.absent, .absent, .add (.given a) (.given b) (mode.elim .absent .given)⟩

/-- The arguments of a sum are an arrangement of its numerals and its mode. -/
theorem exists_arranged_sumArgs (a b : Int) (mode : Option OverflowMode) :
    ∃ args, sumArgs a b mode = Command.add.name :: args ∧
      Arranged .add [Decimal.numeral a, Decimal.numeral b] (mode.map Choice.overflow).toList
        args := by
  refine ⟨_, rfl, .word (.word ?_)⟩
  cases mode with
  | none => exact .nil
  | some m =>
      have hswitch : (Choice.overflow m).switch ∈ Command.add.switches := by
        show Switch.overflow ∈ Command.add.switches
        decide
      have hplain : Plain m.text := by cases m <;> decide
      have hspelled : Spelled .add (.overflow m) (Choice.overflow m).full :=
        Spelled.full (.apart rfl hplain (Abbreviates.full hswitch))
      exact .choice hspelled .nil

theorem takeWord_numeral {d : Draft} {side : Addition.Side} {free : List Place}
    (h : d.free = .operand side :: free) {i : Int} (hi : Decimal.Writable i) :
    d.takeWord (Decimal.numeral i) (some (Decimal.numeral i)) =
      .ok (Draft.setOperand { d with free := free, placed := true } side (.given i)) := by
  unfold Draft.takeWord
  rw [h]
  simp only [Draft.fill, Decimal.readInt?_numeral hi]

/-- The numerals of a sum go to the two operands in their order. -/
theorem takeWords_numerals {a b : Int} (ha : Decimal.Writable a) (hb : Decimal.Writable b) :
    takeWords (Draft.start Command.add.places) [Decimal.numeral a, Decimal.numeral b] =
      .ok { Draft.start [] with left := .given a, right := .given b, placed := true } := by
  have hmarker : ∀ i, Decimal.numeral i ≠ marker := fun i =>
    (isWord_of_isNumeral (c := .add) (isNumeral_numeral i)).2
  rw [takeWords, if_neg (hmarker a), takeWord_numeral rfl ha]
  show takeWords (Draft.setOperand _ .left (.given a)) _ = _
  rw [takeWords, if_neg (hmarker b), takeWord_numeral rfl hb]
  rfl

theorem read_sumArgs {a b : Int} (ha : Decimal.Writable a) (hb : Decimal.Writable b)
    (mode : Option OverflowMode) :
    read (sumArgs a b mode) = .ok (sumInvocation a b mode) := by
  obtain ⟨args, hargs, harranged⟩ := exists_arranged_sumArgs a b mode
  have hwords : WordsOf .add [Decimal.numeral a, Decimal.numeral b] :=
    .add (isNumeral_numeral a) (isNumeral_numeral b)
  rw [hargs, read_command, readCommand_arranged harranged hwords.isWord,
    takeWords_numerals ha hb]
  cases mode <;> rfl

/-! ## The outcome -/

/-- What a sum of integers comes to where the log does not tell that it wrapped around. -/
theorem performSum_quiet {log : Log} (hlog : ¬ log.Tells LevelName.debug.severity) (now : Int)
    (m : OverflowMode) (a b : Int) :
    performSum log now (Addition.add (.int a) (.int b) (.text m.text)) =
      if Word.Fits a then
        if Word.Fits b then
          if Word.Fits (a + b) ∨ m = .wrap then
            (.returned 0, [resultLine (Decimal.numeral (Word.wrap (a + b)))])
          else (.returned 1, [errorLine (Addition.Refusal.overflow a b).message])
        else (.returned 1, [errorLine (Addition.Refusal.outOfRange .right b).message])
      else (.returned 1, [errorLine (Addition.Refusal.outOfRange .left a).message]) := by
  rw [Addition.add_int]
  by_cases ha : Word.Fits a
  case neg => simp [ha, performSum, isReported]
  by_cases hb : Word.Fits b
  case neg => simp [ha, hb, performSum, isReported]
  rw [if_pos ha, if_pos hb, if_pos ha, if_pos hb]
  unfold Addition.addWords
  by_cases hsum : Word.Fits (a + b)
  · have hwrap : Word.wrap (a + b) = a + b := (Word.wrap_eq_self_iff _).mpr hsum
    simp [hsum, performSum, hwrap]
  · cases m with
    | raise =>
        have hno : ¬ (Word.Fits (a + b) ∨ OverflowMode.raise = .wrap) := by simp [hsum]
        rw [if_neg hsum, if_neg hno]
        rfl
    | wrap =>
        have htold : log.tell now (Addition.wrapRecord a b) = [] := Log.tell_eq_nil hlog now
        simp [hsum, performSum, htold]

/-- The log that a run sets up without settings and switches: it tells warnings and worse. -/
def quietLog : Log := ⟨LevelName.warning.severity, [standardError]⟩

theorem quietLog_not_tells : ¬ quietLog.Tells LevelName.debug.severity := by decide

/-- A run of a typed sum comes to the sum in its mode, under the quiet log. -/
theorem run_sumArgs {a b : Int} (ha : Decimal.Writable a) (hb : Decimal.Writable b)
    (mode : Option OverflowMode) {disk : Disk}
    (hd : Settings.Missing disk (Path.ofLocation disk.host.current)) (now : Int) (log : Log) :
    run disk now log (sumArgs a b mode) =
      let (ending, writes) := performSum quietLog now
        (Addition.add (.int a) (.int b) (.text (mode.getD .wrap).text))
      ⟨ending, writes, quietLog⟩ := by
  have hroot : (sumInvocation a b mode).rootLocation disk = .ok disk.host.current := rfl
  have hlevel : resolveLevel ((sumInvocation a b mode).levelValue {}) = .ok quietLog.threshold :=
    resolveLevel_levelValue (by simp [sumInvocation]) {}
  -- The announcement is below the threshold, so only what the sum comes to is written.
  have hannounced : quietLog.tell now
      (announcement "cli" (sumInvocation a b mode) disk.host.current {}) = [] :=
    Log.tell_eq_nil quietLog_not_tells now
  have hperform : perform quietLog now {} (sumInvocation a b mode).task =
      performSum quietLog now (Addition.add (.int a) (.int b) (.text (mode.getD .wrap).text)) := by
    cases mode <;> rfl
  have hquiet : Plan.log ⟨sumInvocation a b mode, disk.host.current, {}, quietLog.threshold⟩ =
      quietLog := rfl
  rw [run_of_plan (read_sumArgs ha hb mode) hroot (Settings.load_of_missing hd) hlevel,
    Plan.outcome, hquiet, hannounced, hperform]
  rfl

/-- **Sums as they are typed.** In a directory without a settings file, two integers of at most as
many digits as a numeral may have are read as they are typed, with their signs. If both are words
and their sum is one or may wrap around, the run returns 0 and writes the word that the exact sum
wraps to. Otherwise it returns 1 and writes why: the exact sum that is out of range, or the first
operand that is. -/
theorem run_typed_sum {a b : Int} (ha : Decimal.Writable a) (hb : Decimal.Writable b)
    (mode : Option OverflowMode) {disk : Disk}
    (hd : Settings.Missing disk (Path.ofLocation disk.host.current)) (now : Int) (log : Log) :
    read (sumArgs a b mode) = .ok (sumInvocation a b mode) ∧
    (Word.Fits a → Word.Fits b → (Word.Fits (a + b) ∨ mode ≠ some .raise) →
      run disk now log (sumArgs a b mode) =
        ⟨.returned 0, [resultLine (Decimal.numeral (Word.wrap (a + b)))], quietLog⟩) ∧
    (Word.Fits a → Word.Fits b → ¬ Word.Fits (a + b) → mode = some .raise →
      run disk now log (sumArgs a b mode) =
        ⟨.returned 1, [errorLine ("i32 overflow: " ++ Decimal.numeral a ++ " + "
          ++ Decimal.numeral b ++ " = " ++ Decimal.numeral (a + b) ++ " is out of range")],
          quietLog⟩) ∧
    (¬ Word.Fits a →
      run disk now log (sumArgs a b mode) =
        ⟨.returned 1, [errorLine ("a=" ++ Decimal.numeral a
          ++ " is outside the i32 range [-2147483648, 2147483647]")], quietLog⟩) ∧
    (Word.Fits a → ¬ Word.Fits b →
      run disk now log (sumArgs a b mode) =
        ⟨.returned 1, [errorLine ("b=" ++ Decimal.numeral b
          ++ " is outside the i32 range [-2147483648, 2147483647]")], quietLog⟩) := by
  rw [run_sumArgs ha hb mode hd, performSum_quiet quietLog_not_tells]
  refine ⟨read_sumArgs ha hb mode, ?_, ?_, ?_, ?_⟩
  · intro hfa hfb hsum
    have hmode : Word.Fits (a + b) ∨ mode.getD .wrap = .wrap := by
      refine hsum.imp id fun hne => ?_
      match mode with
      | none => rfl
      | some .wrap => rfl
      | some .raise => exact absurd rfl hne
    simp only [if_pos hfa, if_pos hfb, if_pos hmode]
  · rintro hfa hfb hsum rfl
    have hmode : ¬ (Word.Fits (a + b) ∨ (some OverflowMode.raise).getD .wrap = .wrap) := by
      simp [hsum]
    simp only [if_pos hfa, if_pos hfb, if_neg hmode, Addition.overflow_message hfa hfb]
  · intro hfa
    simp only [if_neg hfa, Addition.outOfRange_message _ ha]
    rfl
  · intro hfa hfb
    simp only [if_pos hfa, if_neg hfb, Addition.outOfRange_message _ hb]
    rfl

/-- The least word and minus one, both of which begin like switches, have no sum that is a word. -/
theorem run_typed_sum_least :
    Decimal.Writable (-2147483648) ∧ Decimal.Writable (-1) ∧
    Settings.Missing (Disk.empty (.lone [])) (Path.ofLocation []) ∧
    run (Disk.empty (.lone [])) 0 Log.fresh (sumArgs (-2147483648) (-1) (some .raise)) =
      ⟨.returned 1, [errorLine ("i32 overflow: " ++ Decimal.numeral (-2147483648) ++ " + "
        ++ Decimal.numeral (-1) ++ " = " ++ Decimal.numeral (-2147483648 + -1)
        ++ " is out of range")], quietLog⟩ := by
  have ha : Decimal.Writable (-2147483648) := by decide +kernel
  have hb : Decimal.Writable (-1) := by decide +kernel
  have hd : Settings.Missing (Disk.empty (.lone [])) (Path.ofLocation []) := .inl rfl
  exact ⟨ha, hb, hd, (run_typed_sum ha hb (some .raise) hd 0 Log.fresh).2.2.1
    (by decide) (by decide) (by decide) rfl⟩

end CommandLine

end GreetCalc
