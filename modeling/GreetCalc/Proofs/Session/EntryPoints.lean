import GreetCalc.Proofs.Session.History

/-!
# The program on its own and as a part of another

The program can be run as a part of another one or on its own. Only two things depend on this: the
name under which it tells what it is about to do, and whether it returns a code or leaves with it.
All the rest of a run comes from its plan, which is the same in both cases (`launch_both`), so in
every world both runs leave the same world and write the same, but for the name in the first line
(`entry_points_agree`).
-/

namespace GreetCalc

namespace CommandLine

/-! ## What is announced -/

/-- What a plan is told to be, whoever tells it. -/
def Plan.message (p : Plan) : String := (announcement "" p.invocation p.root p.settings).message

/-- What a run writes on the error stream before its work, under the name of its logger: a line
about its plan, if it has one and the log of the plan lets everything be told. -/
def announced (logger : String) (now : Int) : Except Halt Plan → List String
  | .error _ => []
  | .ok p =>
    if p.log.threshold ≤ LevelName.debug.severity then
      [clockStamp now ++ " DEBUG    [" ++ logger ++ "] " ++ p.message ++ "\n"]
    else []

theorem debug_line {logger : String} (h : logger ≠ "") (now : Int) (message : String) :
    (Record.ofLevel logger .debug message).line now =
      clockStamp now ++ " DEBUG    [" ++ logger ++ "] " ++ message ++ "\n" := by
  have hword : " " ++ padRight 8 LevelName.debug.word ++ " [" = " DEBUG    [" := by decide
  rw [Record.line_eq]
  show clockStamp now ++ " " ++ padRight 8 LevelName.debug.word ++ " [" ++ shownLogger logger
    ++ "] " ++ message ++ "\n" = _
  rw [shownLogger, if_neg h, ← hword]
  simp only [String.append_assoc]

/-- The log of a plan writes to the error stream. -/
theorem tell_announcement (p : Plan) {logger : String} (h : logger ≠ "") (now : Int) :
    p.log.tell now (announcement logger p.invocation p.root p.settings) =
      (announced logger now (.ok p)).map (Write.mk standardError) := by
  have hline : (announcement logger p.invocation p.root p.settings).line now =
      clockStamp now ++ " DEBUG    [" ++ logger ++ "] " ++ p.message ++ "\n" := debug_line h now _
  have hseverity : (announcement logger p.invocation p.root p.settings).severity =
      LevelName.debug.severity := rfl
  have hpositive : 0 < LevelName.debug.severity := by decide
  have hthreshold : p.log.threshold = p.threshold := rfl
  rw [Plan.log, Log.tell_handler, hseverity, hline, announced, hthreshold]
  by_cases ht : p.threshold ≤ LevelName.debug.severity
  · rw [if_pos ⟨hpositive, ht⟩, if_pos ht, List.map_singleton]
  · rw [if_neg fun htells => ht htells.2, if_neg ht, List.map_nil]

/-! ## Both runs -/

/-- Both runs have the same plan or the same reason to have none, and do the same work. -/
theorem launch_both (disk : Disk) (now : Int) (log : Log) (argv : List String) :
    ∃ ending log' work,
      run disk now log argv =
        ⟨ending, (announced "cli" now (plan disk argv)).map (Write.mk standardError) ++ work,
          log'⟩ ∧
      runMain disk now log argv =
        ⟨ending.alone,
          (announced "__main__" now (plan disk argv)).map (Write.mk standardError) ++ work,
          log'⟩ := by
  rw [runMain_eq]
  unfold run runAs
  cases hplan : plan disk argv with
  | error halt => exact ⟨_, _, _, rfl, rfl⟩
  | ok p =>
      have hcli : "cli" ≠ "" := by decide
      have hmain : "__main__" ≠ "" := by decide
      -- Both loggers have names, so the announcements differ in nothing but these.
      refine ⟨(perform p.log now p.settings p.invocation.task).1, p.log,
        (perform p.log now p.settings p.invocation.task).2, ?_, ?_⟩
      · rw [← tell_announcement p hcli]
        exact p.carryOut_eq "cli" now log
      · dsimp only
        rw [← tell_announcement p hmain, p.carryOut_eq "__main__" now log]
        rfl

end CommandLine

/-- The texts that an answer writes to a stream, in order. -/
def Answer.textsOn (a : Answer) (stream : String) : List String :=
  (a.writes.filter (·.stream == stream)).map Write.text

section Texts

variable (reply : Except Failure Reply) (texts : List String) (work : List Write)

/-- What is told on the error stream comes before the rest of what is written there. -/
theorem Answer.textsOn_standardError :
    textsOn ⟨reply, texts.map (Write.mk standardError) ++ work⟩ standardError =
      texts ++ textsOn ⟨reply, work⟩ standardError := by
  simp [textsOn, List.filter_map, Function.comp_def]

theorem Answer.textsOn_standardOutput :
    textsOn ⟨reply, texts.map (Write.mk standardError) ++ work⟩ standardOutput =
      textsOn ⟨reply, work⟩ standardOutput := by
  simp [textsOn, List.filter_map, Function.comp_def, standardError, standardOutput]

end Texts

namespace World

open CommandLine (Ending announced)

/-- **The two ways of running the program agree.** In every world, whatever the arguments, the clock
and the fault with which files are opened, a run of the program on its own ends like one as a part
of another, except that a code is left with and not returned; it leaves the same log and the same
rest of the world, writes the same texts to the output stream, and on the error stream the same
texts after the line about its plan. This line is there in both cases or in none, and holds the name
of the logger. -/
theorem entry_points_agree (w : World) (changes : List (List String × Change)) (now : Int)
    (fault : Option SystemFault) (argv : List String) :
    let called := w.step ⟨changes, now, fault, .run argv false⟩
    let alone := w.step ⟨changes, now, fault, .run argv true⟩
    let plan := CommandLine.plan ((changes.foldl change w).disk fault) argv
    (∃ ending : Ending, called.2.reply = endingReply called.1.log ending ∧
      alone.2.reply = endingReply called.1.log ending.alone) ∧
    { alone.1 with written := called.1.written } = called.1 ∧
    alone.2.textsOn standardOutput = called.2.textsOn standardOutput ∧
    ∃ rest, called.2.textsOn standardError = announced "cli" now plan ++ rest ∧
      alone.2.textsOn standardError = announced "__main__" now plan ++ rest := by
  intro called alone plan
  have hcalled : called = (changes.foldl change w).runReply
      (CommandLine.run ((changes.foldl change w).disk fault) now w.log argv) :=
    step_run (s := ⟨changes, now, fault, .run argv false⟩) rfl
  have halone : alone = (changes.foldl change w).runReply
      (CommandLine.runMain ((changes.foldl change w).disk fault) now w.log argv) :=
    step_run (s := ⟨changes, now, fault, .run argv true⟩) rfl
  obtain ⟨ending, log, work, hrun, hmain⟩ :=
    CommandLine.launch_both ((changes.foldl change w).disk fault) now w.log argv
  -- From here on both runs are given by one ending, one log and one piece of work.
  rw [hrun] at hcalled
  rw [hmain] at halone
  rw [hcalled, halone, runReply_answer, runReply_answer, runReply_world, runReply_world]
  refine ⟨⟨ending, rfl, rfl⟩, rfl, ?_, _, Answer.textsOn_standardError _ _ _,
    Answer.textsOn_standardError _ _ _⟩
  rw [Answer.textsOn_standardOutput, Answer.textsOn_standardOutput]
  rfl

end World

end GreetCalc
