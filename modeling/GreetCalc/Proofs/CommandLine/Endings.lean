import GreetCalc.Proofs.Addition
import GreetCalc.Proofs.CommandLine.Plans
import GreetCalc.Proofs.CommandLine.Reading

/-!
# How a run ends

A run goes through reading, locating, loading and setting up the log before it does its work, and
ends at the first of these that fails. The lemmas `run_of_…` give the whole outcome of each path.

Arguments without the marker leave nothing empty (`read_filled`), so that the work itself can only
succeed or be refused for the size of the operands (`perform_filled`). This is what makes the exit
code tell what has happened, and the streams carry results and errors apart (`run_discipline`).
-/

namespace GreetCalc.CommandLine

/-- The texts that an outcome writes to a stream, in order. -/
def Outcome.textsOn (o : Outcome) (stream : String) : List String :=
  (o.writes.filter (·.stream == stream)).map Write.text

/-! ## The paths of a run -/

section Paths

variable {disk : Disk} {argv : List String} {i : Invocation} {root : Location}

/-- Arguments that cannot be used, or that ask for help, end a run at once. -/
theorem run_of_stop {stop : Stop} (h : read argv = .error stop) (now : Int) (log : Log) :
    run disk now log argv = ⟨.left stop.code, stop.writes, log⟩ := by
  simp only [run, runAs, plan, h]

/-- A root without a location makes a run fail before anything is read. -/
theorem run_of_noLocation {failure : Failure} (h : read argv = .ok i)
    (hr : i.rootLocation disk = .error failure) (now : Int) (log : Log) :
    run disk now log argv = ⟨.failed failure, [], log⟩ := by
  simp only [run, runAs, plan, Invocation.plan, h, hr]

/-- Settings that cannot be loaded end a run before its log is set up. -/
theorem run_of_loadFault {fault : Settings.LoadFault} (h : read argv = .ok i)
    (hr : i.rootLocation disk = .ok root)
    (hl : Settings.load disk (Path.ofLocation root) = .error fault) (now : Int) (log : Log) :
    run disk now log argv =
      ⟨(Halt.ofLoadFault disk.host.writeRoom fault).ending,
        (Halt.ofLoadFault disk.host.writeRoom fault).writes, log⟩ := by
  simp only [run, runAs, plan, Invocation.plan, h, hr, hl]

/-- A level that is none makes a run fail before its log is set up. -/
theorem run_of_levelFault {s : Settings} {fault : LevelFault} (h : read argv = .ok i)
    (hr : i.rootLocation disk = .ok root)
    (hl : Settings.load disk (Path.ofLocation root) = .ok s)
    (hs : resolveLevel (i.levelValue s) = .error fault) (now : Int) (log : Log) :
    run disk now log argv = ⟨.failed (.level fault), [], log⟩ := by
  simp only [run, runAs, plan, Invocation.plan, h, hr, hl, hs]

/-- A run that gets past all this carries out its plan. -/
theorem run_of_plan {s : Settings} {n : Int} (h : read argv = .ok i)
    (hr : i.rootLocation disk = .ok root)
    (hl : Settings.load disk (Path.ofLocation root) = .ok s)
    (hs : resolveLevel (i.levelValue s) = .ok n) (now : Int) (log : Log) :
    run disk now log argv = Plan.outcome ⟨i, root, s, n⟩ "cli" now := by
  simp only [run, runAs, plan, Invocation.plan, h, hr, hl, hs, Plan.carryOut_eq]

end Paths

/-! ## What counts before the settings -/

/-- The value that is given, or else the standard one. -/
def Entry.getD {α : Type} (standard : α) : Entry α → α
  | .given a => a
  | _ => standard

theorem levelValue_eq {i : Invocation} (h : i.level ≠ .empty) (s : Settings) :
    i.levelValue s = .text (i.level.getD s.logLevel).text := by
  unfold Invocation.levelValue
  cases hl : i.level with
  | absent => rfl
  | empty => exact absurd hl h
  | given l => rfl

theorem overflowValue_eq {o : Entry OverflowMode} (h : o ≠ .empty) (s : Settings) :
    overflowValue o s = .text (o.getD s.overflow).text := by
  cases o with
  | absent => rfl
  | empty => exact absurd rfl h
  | given m => rfl

/-- The log that a run sets up: the level that is given or else that of the settings, and the error
stream for its only handler. -/
def Invocation.log (i : Invocation) (s : Settings) : Log :=
  ⟨(i.level.getD s.logLevel).severity, [standardError]⟩

theorem resolveLevel_levelValue {i : Invocation} (h : i.level ≠ .empty) (s : Settings) :
    resolveLevel (i.levelValue s) = .ok (i.log s).threshold := by
  rw [levelValue_eq h, resolveLevel_text]
  rfl

/-! ## The work -/

/-- The text that a task results in. -/
inductive ResultOf (s : Settings) : Task → String → Prop
  | add {a b : Int} {m : Entry OverflowMode} :
      ResultOf s (.add (.given a) (.given b) m) (Decimal.numeral (Word.wrap (a + b)))
  | sample : ResultOf s .sample "30"
  | greet {name : Option String} : ResultOf s (.greet name) ("hello " ++ name.getD s.defaultName)

/-- The task is a sum that is not given. -/
def Refused (s : Settings) (t : Task) : Prop :=
  ∃ a b m, t = .add (.given a) (.given b) m ∧ Addition.Impossible (m.getD s.overflow) a b

/-- What a log with a single handler for the error stream tells goes there. -/
theorem stream_of_mem_tell {log : Log} (h : log.handlers = [standardError]) {now : Int} {r : Record}
    {w : Write} (hw : w ∈ log.tell now r) : w.stream = standardError := by
  obtain ⟨n, handlers⟩ := log
  obtain rfl : handlers = [standardError] := h
  rw [Log.tell_handler] at hw
  split at hw
  · rw [List.mem_singleton.mp hw]
  · cases hw

/-- A refusal for the size of an operand or a sum is reported by the run itself. -/
theorem isReported_of_ofSize {refusal : Addition.Refusal} (h : Addition.OfSize refusal) :
    isReported refusal = true := by
  cases h <;> rfl

/-- A task that holds nothing empty is refused with an error or gives its result; whatever is told
on the way goes to the error stream. -/
theorem perform_filled {i : Invocation} (hi : i.Filled) {log : Log}
    (hlog : log.handlers = [standardError]) (now : Int) (s : Settings) :
    (Refused s i.task ∧ ∃ message,
      perform log now s i.task = (.returned 1, [errorLine message])) ∨
    (¬ Refused s i.task ∧ ∃ told result, ResultOf s i.task result ∧
      (∀ w ∈ told, w.stream = standardError) ∧
      perform log now s i.task = (.returned 0, told ++ [resultLine result])) := by
  have htold : ∀ {records : List Record}, ∀ w ∈ records.flatMap (log.tell now),
      w.stream = standardError := by
    intro records w hw
    obtain ⟨r, _, hw⟩ := List.mem_flatMap.mp hw
    exact stream_of_mem_tell hlog hw
  cases ht : i.task with
  | add a b m =>
      obtain ⟨hm, x, y, rfl, rfl⟩ := hi.task a b m ht
      have hperform : perform log now s (.add (.given x) (.given y) m) =
          performSum log now
            (Addition.add (.int x) (.int y) (.text (m.getD s.overflow).text)) := by
        rw [← overflowValue_eq hm s]
        rfl
      rw [hperform]
      rcases Addition.add_int_cases (m.getD s.overflow) x y with
        ⟨himp, refusal, hsize, hadd⟩ | ⟨hposs, total, hvalue, hadd⟩
      · refine .inl ⟨⟨x, y, m, rfl, himp⟩, refusal.message, ?_⟩
        rw [hadd, performSum, if_pos (isReported_of_ofSize hsize)]
      · -- A sum that wrapped around may leave a record, which is told before the result.
        refine .inr ⟨?_, total.record.toList.flatMap (log.tell now), _, .add, htold, ?_⟩
        · rintro ⟨x', y', m', he, himp⟩
          cases he
          exact hposs himp
        · rw [hadd, performSum, hvalue]
  | sample =>
      refine .inr ⟨?_, [], _, .sample, by simp, ?_⟩
      · rintro ⟨x, y, m, he, _⟩
        cases he
      · show performSum log now Addition.sample = _
        have : Addition.sample = .ok ⟨30, none⟩ := by
          unfold Addition.sample Addition.defaultMode
          rw [Addition.add_int]
          rfl
        rw [this]
        rfl
  | greet name =>
      refine .inr ⟨?_, [], _, .greet, by simp, rfl⟩
      rintro ⟨x, y, m, he, _⟩
      cases he

/-! ## Streams -/

theorem textsOn_eq_nil {o : Outcome} {stream : String} (h : ∀ w ∈ o.writes, w.stream ≠ stream) :
    o.textsOn stream = [] := by
  unfold Outcome.textsOn
  rw [List.filter_eq_nil_iff.mpr (fun w hw => by simpa using h w hw), List.map_nil]

theorem textsOn_eq_map {o : Outcome} {stream : String} (h : ∀ w ∈ o.writes, w.stream = stream) :
    o.textsOn stream = o.writes.map Write.text := by
  unfold Outcome.textsOn
  rw [List.filter_eq_self.mpr (fun w hw => by simpa using h w hw)]

theorem standardOutput_ne_standardError : standardOutput ≠ standardError := by decide

/-! ## Discipline -/

/-- A run with settings `s` goes through: it returns 0 with the result as the only text on the
output stream, or 1 with an error as the last text on the error stream and no other text there but
what the log tells. -/
structure GoesThrough (i : Invocation) (root : Location) (s : Settings) (now : Int)
    (o : Outcome) : Prop where
  code : o.ending = .returned 0 ∨ o.ending = .returned 1
  refused : o.ending = .returned 1 ↔ Refused s i.task
  result : o.ending = .returned 0 → ∃ result, ResultOf s i.task result ∧
    o.textsOn standardOutput = [result ++ "\n"]
  error : o.ending = .returned 1 → o.textsOn standardOutput = [] ∧
    ∃ message, o.textsOn standardError =
      (o.log.tell now (announcement "cli" i root s)).map Write.text ++
        ["error: " ++ message ++ "\n"]
  log : o.log = i.log s

/-- A plan that leaves nothing empty goes through. -/
theorem outcome_goesThrough {i : Invocation} (hi : i.Filled) (root : Location) (s : Settings)
    (now : Int) :
    GoesThrough i root s now (Plan.outcome ⟨i, root, s, (i.log s).threshold⟩ "cli" now) := by
  have hlog : Plan.log ⟨i, root, s, (i.log s).threshold⟩ = i.log s := rfl
  have hhandlers : (i.log s).handlers = [standardError] := rfl
  have hannounced : ∀ w ∈ (i.log s).tell now (announcement "cli" i root s),
      w.stream = standardError := fun w hw => stream_of_mem_tell hhandlers hw
  rcases perform_filled hi hhandlers now s with
    ⟨href, message, hperform⟩ | ⟨href, told, result, hresult, htold, hperform⟩
  · have hends : Ending.returned 1 ≠ .returned 0 := by simp
    unfold Plan.outcome
    rw [hlog, hperform]
    refine ⟨.inr rfl, ⟨fun _ => href, fun _ => rfl⟩, fun h => absurd h hends, fun _ => ?_, rfl⟩
    have herror : ∀ w ∈ (i.log s).tell now (announcement "cli" i root s) ++ [errorLine message],
        w.stream = standardError := by
      intro w hw
      rcases List.mem_append.mp hw with hw | hw
      · exact hannounced w hw
      · rw [List.mem_singleton.mp hw]
        rfl
    refine ⟨textsOn_eq_nil fun w hw => ?_, message, ?_⟩
    · rw [herror w hw]
      exact standardOutput_ne_standardError.symm
    · rw [textsOn_eq_map herror]
      simp [errorLine]
  · have hends : Ending.returned 0 ≠ .returned 1 := by simp
    unfold Plan.outcome
    rw [hlog, hperform]
    refine ⟨.inl rfl, ⟨fun h => absurd h hends, fun h => absurd h href⟩, fun _ => ?_,
      fun h => absurd h hends, rfl⟩
    refine ⟨result, hresult, ?_⟩
    -- All that is told goes to the error stream and leaves the result alone on the other.
    have hnone : ∀ ws : List Write, (∀ w ∈ ws, w.stream = standardError) →
        ws.filter (·.stream == standardOutput) = [] := by
      intro ws hws
      rw [List.filter_eq_nil_iff]
      intro w hw
      rw [hws w hw]
      decide
    unfold Outcome.textsOn
    rw [List.filter_append, List.filter_append, hnone _ hannounced, hnone _ htold]
    rfl

/-- **Exit codes and streams.** On arguments without the marker, a run that stops at its arguments
leaves with 2 and an empty output stream, or with 0 and an empty error stream where help was asked
for; one whose settings file is at fault returns 2 with that error alone; in these cases the log is
as it was. A run with settings goes through. -/
theorem run_discipline {argv : List String} (hm : ¬ Marked argv)
    (disk : Disk) (now : Int) (log : Log) :
    (∀ page complaint, read argv = .error (.misuse page complaint) →
      (run disk now log argv).ending = .left 2 ∧
      (run disk now log argv).textsOn standardOutput = [] ∧
      (run disk now log argv).log = log) ∧
    (∀ page, read argv = .error (.help page) →
      (run disk now log argv).ending = .left 0 ∧
      (run disk now log argv).textsOn standardError = [] ∧
      (run disk now log argv).log = log) ∧
    (∀ i root, read argv = .ok i → i.rootLocation disk = .ok root →
      (∀ path fault, Settings.load disk (Path.ofLocation root) = .error (.file path fault) →
        (run disk now log argv).ending = .returned 2 ∧
        (run disk now log argv).textsOn standardOutput = [] ∧
        (run disk now log argv).textsOn standardError =
          ["error: " ++ fault.message disk.host.writeRoom path ++ "\n"] ∧
        (run disk now log argv).log = log) ∧
      (∀ s, Settings.load disk (Path.ofLocation root) = .ok s →
        GoesThrough i root s now (run disk now log argv))) := by
  refine ⟨?_, ?_, ?_⟩
  · intro page complaint h
    rw [run_of_stop h]
    refine ⟨rfl, textsOn_eq_nil ?_, rfl⟩
    intro w hw
    simp only [Stop.writes, List.mem_cons, List.not_mem_nil, or_false] at hw
    rcases hw with rfl | rfl <;> exact standardOutput_ne_standardError.symm
  · intro page h
    rw [run_of_stop h]
    refine ⟨rfl, textsOn_eq_nil ?_, rfl⟩
    intro w hw
    rw [List.mem_singleton.mp hw]
    exact standardOutput_ne_standardError
  · intro i root h hr
    refine ⟨?_, ?_⟩
    · intro path fault hl
      rw [run_of_loadFault h hr hl]
      have hall : ∀ w ∈ (Halt.ofLoadFault disk.host.writeRoom (.file path fault)).writes,
          w.stream = standardError := by
        intro w hw
        rw [List.mem_singleton.mp hw]
        rfl
      refine ⟨rfl, textsOn_eq_nil fun w hw => ?_, ?_, rfl⟩
      · rw [hall w hw]
        exact standardOutput_ne_standardError.symm
      · rw [textsOn_eq_map hall]
        rfl
    · intro s hl
      -- Without the marker nothing is left empty, so the run cannot fail from here on.
      have hi := read_filled h hm
      rw [run_of_plan h hr hl (resolveLevel_levelValue hi.level s)]
      exact outcome_goesThrough hi root s now

/-- A sum that overflows is refused where the arguments ask for it, against the settings. -/
theorem run_discipline_overflow :
    ¬ Marked ["add", "2147483647", "1", "--overflow", "raise"] ∧
    (run (Disk.empty (.lone [])) 0 Log.fresh
      ["add", "2147483647", "1", "--overflow", "raise"]).ending = .returned 1 := by
  have hm : ¬ Marked ["add", "2147483647", "1", "--overflow", "raise"] := by decide
  have hread : read ["add", "2147483647", "1", "--overflow", "raise"] =
      .ok ⟨.absent, .absent, .add (.given 2147483647) (.given 1) (.given .raise)⟩ := by cbv
  have hthrough :=
    ((run_discipline hm (Disk.empty (.lone [])) 0 Log.fresh).2.2 _ [] hread rfl).2 {} rfl
  refine ⟨hm, hthrough.refused.mpr ⟨2147483647, 1, .given .raise, rfl, ?_⟩⟩
  exact .inr (.inr ⟨rfl, by decide⟩)

end GreetCalc.CommandLine
