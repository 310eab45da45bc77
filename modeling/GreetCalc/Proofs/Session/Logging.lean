import GreetCalc.Proofs.Addition
import GreetCalc.Proofs.Session.Steps

/-!
# The log over a session

Whatever happens in a session, the log is as the last step left it that set it up, and as it was at
the start if no step did. `SetsUp` says when a step sets up the log and with what, in terms of what
the step is asked for; one lemma each says what such a step and any other step leave
(`SetsUp.log_step`, `log_step_of_not_setsUp`).

A record that is told later is written by the handler of this log, once and nowhere else. Nothing
can be recorded with a severity whose number is too long to be written, and an attempt to tell
something of such a severity writes nothing (`log_after_session`).
-/

namespace GreetCalc.World

/-! ## Steps that set up the log -/

/-- A step sets up the log with a threshold and a stream: it is asked to and is given a level, or it
is a run that is accepted, finds its root and loads settings that make up for a level. -/
inductive SetsUp : Int → String → World → Step → Prop
  | direct {w : World} {s : Step} {level : Option Value} {stream : Option String} {n : Int} :
      s.operation = .setUpLog level stream → resolveLevel (level.getD defaultLevel) = .ok n →
      SetsUp n (stream.getD standardError) w s
  | run {w : World} {s : Step} {argv : List String} {alone : Bool} {i : CommandLine.Invocation}
      {root : Location} {settings : Settings} {n : Int} :
      s.operation = .run argv alone → CommandLine.read argv = .ok i →
      i.rootLocation ((w.prepared s).disk s.openFault) = .ok root →
      Settings.load ((w.prepared s).disk s.openFault) (Path.ofLocation root) = .ok settings →
      resolveLevel (i.levelValue settings) = .ok n →
      SetsUp n standardError w s

/-- A step sets up the log, with whatever it is. -/
def SetsUpLog (w : World) (s : Step) : Prop := ∃ n stream, SetsUp n stream w s

/-- A run sets up the log if it has a plan. -/
theorem setsUpLog_of_plan {w : World} {s : Step} {argv : List String} {alone : Bool}
    (hop : s.operation = .run argv alone) {p : CommandLine.Plan}
    (hplan : CommandLine.plan ((w.prepared s).disk s.openFault) argv = .ok p) : SetsUpLog w s := by
  obtain ⟨hread, hroot, hload, hlevel⟩ := CommandLine.plan_eq_ok_iff.mp hplan
  exact ⟨p.threshold, standardError, .run hop hread hroot hload hlevel⟩

/-- A run leaves the log of its plan, or the log that it found if it has none. -/
theorem log_step_run {w : World} {s : Step} {argv : List String} {alone : Bool}
    (hop : s.operation = .run argv alone) :
    (∃ p, CommandLine.plan ((w.prepared s).disk s.openFault) argv = .ok p ∧
      (w.step s).1.log = p.log) ∨
    (∃ halt, CommandLine.plan ((w.prepared s).disk s.openFault) argv = .error halt ∧
      (w.step s).1.log = w.log) := by
  rw [step_run hop, runReply_world]
  obtain ⟨ending, writes, ⟨p, hp, hout⟩ | ⟨halt, hhalt, hout⟩⟩ :=
    CommandLine.launch_cases alone ((w.prepared s).disk s.openFault) s.now argv
  · exact .inl ⟨p, hp, by rw [hout]⟩
  · exact .inr ⟨halt, hhalt, by rw [hout]⟩

/-- Whatever log was there, it now has the one handler that was asked for. -/
theorem SetsUp.log_step {w : World} {s : Step} {n : Int} {stream : String}
    (h : SetsUp n stream w s) : (w.step s).1.log = ⟨n, [stream]⟩ := by
  cases h with
  | @direct _ _ level stream _ hop hn =>
      have hlog : (w.prepared s).log.setUp (level.getD defaultLevel) (stream.getD standardError) =
          .ok ⟨n, [stream.getD standardError]⟩ := Log.setUp_eq_ok_iff.mpr ⟨n, hn, rfl⟩
      show ((w.prepared s).perform _ _ s.operation).1.log = _
      rw [hop, perform, hlog]
      rfl
  | @run _ _ argv alone i root settings _ hop hread hroot hload hn =>
      have hplan : CommandLine.plan ((w.prepared s).disk s.openFault) argv =
          .ok ⟨i, root, settings, n⟩ := CommandLine.plan_eq_ok_iff.mpr ⟨hread, hroot, hload, hn⟩
      rcases log_step_run hop with ⟨p, hp, hleft⟩ | ⟨halt, hhalt, -⟩
      · rw [hplan] at hp
        cases hp
        exact hleft
      · rw [hplan] at hhalt
        cases hhalt

/-! ## Steps that leave the log alone -/

/-- Only two operations can change the log. -/
theorem Performed.log_eq {w : World} {now : Int} {fault : Option SystemFault} {op : Operation}
    {p : World × Answer} (h : Performed w now fault op p)
    (hset : ∀ level stream, op ≠ .setUpLog level stream)
    (hrun : ∀ argv alone, op ≠ .run argv alone) : p.1.log = w.log := by
  cases h with
  | setUp => exact absurd rfl (hset _ _)
  | run => exact absurd rfl (hrun _ _)
  | _ => rfl

theorem log_step_of_not_setsUp {w : World} {s : Step} (h : ¬ SetsUpLog w s) :
    (w.step s).1.log = w.log := by
  cases hop : s.operation with
  | setUpLog level stream =>
      have hstep : w.step s = (w.prepared s).perform s.now s.openFault s.operation := rfl
      rw [hstep, hop, perform]
      cases hlog : (w.prepared s).log.setUp (level.getD defaultLevel)
          (stream.getD standardError) with
      | error fault => exact prepared_log w s
      | ok log =>
          obtain ⟨n, hn, -⟩ := Log.setUp_eq_ok_iff.mp hlog
          exact absurd ⟨n, _, .direct hop hn⟩ h
  | run argv alone =>
      rcases log_step_run hop with ⟨p, hp, -⟩ | ⟨halt, -, hleft⟩
      · exact absurd (setsUpLog_of_plan hop hp) h
      · exact hleft
  | _ =>
      rw [← prepared_log w s]
      apply (performed_step w s).log_eq
      · simp [hop]
      · simp [hop]

section Sessions

variable {w : World} {ss : List Step}

theorem log_steps_of_never (h : Never SetsUpLog w ss) : (w.steps ss).1.log = w.log := by
  refine holds_of_never (I := fun v => v.log = w.log) ?_ h rfl
  intro v s hs hv
  rw [log_step_of_not_setsUp hs, hv]

/-- The last step that sets up the log determines it. -/
theorem log_steps_of_since {n : Int} {stream : String}
    (h : Since (SetsUp n stream) SetsUpLog w ss) : (w.steps ss).1.log = ⟨n, [stream]⟩ := by
  refine holds_of_since (I := fun v => v.log = ⟨n, [stream]⟩) (fun _ _ hs => hs.log_step) ?_ h
  intro v s hs hv
  rw [log_step_of_not_setsUp hs, hv]

/-- Either no step sets up the log, or one is the last to do so. -/
theorem never_or_since_setsUp (w : World) (ss : List Step) :
    Never SetsUpLog w ss ∨ ∃ n stream, Since (SetsUp n stream) SetsUpLog w ss := by
  rcases never_or_since SetsUpLog w ss with
    hnever | ⟨before, s, after, heq, ⟨n, stream, hs⟩, hafter⟩
  · exact .inl hnever
  · exact .inr ⟨n, stream, before, s, after, heq, hs, hafter⟩

end Sessions

/-! ## Records -/

/-- An operation tells a record: it is asked to tell something that can be recorded, or it is a sum
that wraps around. -/
inductive TellsRecord : Operation → Record → Prop
  | tell {logger message : String} {severity : Int} {r : Record} :
      Record.make logger severity message = .ok r →
      TellsRecord (.tell logger severity message) r
  | sum {a b : Int} {mode : Option Value} : Word.Fits a → Word.Fits b → ¬ Word.Fits (a + b) →
      mode = none ∨ mode = some (.text "wrap") →
      TellsRecord (.add (.int a) (.int b) mode) (Addition.wrapRecord a b)

/-- A step that tells a record writes what the log makes of it, and nothing else. -/
theorem writes_step {w : World} {s : Step} {r : Record} (h : TellsRecord s.operation r) :
    (w.step s).2.writes = w.log.tell s.now r := by
  rw [← prepared_log w s]
  show ((w.prepared s).perform s.now _ s.operation).2.writes = _
  generalize s.operation = op at h
  cases h with
  | tell hr =>
      rw [perform, Log.tellAs_of_make hr]
      rfl
  | @sum a b mode ha hb hsum hmode =>
      -- Both operands are words and their sum is none: this is the branch that leaves a record.
      have hmode : mode.getD Addition.defaultMode = .text OverflowMode.wrap.text := by
        rcases hmode with rfl | rfl <;> rfl
      have hadd : Addition.add (.int a) (.int b) (.text OverflowMode.wrap.text) =
          .ok ⟨Word.wrap (a + b), some (Addition.wrapRecord a b)⟩ := by
        rw [Addition.add_int, if_pos ha, if_pos hb]
        exact if_neg hsum
      rw [perform, hmode, hadd]
      simp [addReply, replyWriting]

/-- An attempt to tell something that cannot be recorded writes nothing and leaves the world alone.
It fails if the log would tell it. -/
theorem step_of_not_writable {w : World} {s : Step} {logger message : String} {severity : Int}
    (hop : s.operation = .tell logger severity message) (h : ¬ Decimal.Writable severity) :
    ((w.step s).2.reply =
      if w.log.Tells severity then .error (.unwritable .digits) else .ok .nothing) ∧
    (w.step s).2.writes = [] ∧ (w.step s).1.log = w.log := by
  rw [← prepared_log w s]
  have hstep : w.step s = (w.prepared s).perform s.now s.openFault s.operation := rfl
  rw [hstep, hop, perform, Log.tellAs_of_not_writable h]
  by_cases htells : (w.prepared s).log.Tells severity
  · rw [if_pos htells, if_pos htells]
    exact ⟨rfl, rfl, rfl⟩
  · rw [if_neg htells, if_neg htells]
    exact ⟨rfl, rfl, rfl⟩

/-- Something of a severity that can be written is told as a record. -/
theorem exists_tellsRecord {severity : Int} (h : Decimal.Writable severity)
    (logger message : String) :
    ∃ r, TellsRecord (.tell logger severity message) r ∧
      r.logger = logger ∧ r.severity = severity ∧ r.message = message := by
  obtain ⟨r, hr⟩ := Record.make_eq_ok h logger message
  exact ⟨r, .tell hr, Record.of_make hr⟩

end GreetCalc.World

namespace GreetCalc

/-- A single handler writes the line of a record to its stream and nothing else. -/
theorem Log.tell_single {n : Int} {stream : String} {r : Record} (h : 1 ≤ r.severity) (now : Int) :
    Log.tell ⟨n, [stream]⟩ now r = if n ≤ r.severity then [⟨stream, r.line now⟩] else [] := by
  rw [Log.tell_handler]
  by_cases hn : n ≤ r.severity
  · rw [if_pos hn, if_pos ⟨by omega, hn⟩]
  · rw [if_neg hn, if_neg fun ht => hn ht.2]

/-- Without a handler, warnings and worse go to the error stream as they are. -/
theorem Log.tell_fresh (r : Record) (now : Int) :
    Log.fresh.tell now r =
      if 30 ≤ r.severity then [⟨standardError, r.message ++ "\n"⟩] else [] := by
  by_cases hr : 30 ≤ r.severity
  · have htells : Log.fresh.Tells r.severity := ⟨by omega, hr⟩
    rw [Log.tell, if_pos htells, if_pos hr]
    exact if_pos hr
  · have htells : ¬ Log.fresh.Tells r.severity := fun ht => hr ht.2
    rw [Log.tell, if_neg htells, if_neg hr]

namespace World

/-- **The log over a session.** In a session from a fresh world either no step sets up the log, or
there is a last one that does. If none does, the threshold is 30 and there is no handler, and a
record that is told later goes to the error stream as a bare message if its severity is 30 or more.
If the last one does so with a threshold and a stream, the log has this threshold and exactly one
handler, which writes to this stream, and a record that is told later is written there, in full and
once, if its severity reaches the threshold. Otherwise nothing is written.

Something of any severity that can be written as a number is told as a record. What is of another
severity cannot be recorded: nothing is written then, and the log stays as it is. -/
theorem log_after_session (host : Host) (ss : List Step) :
    (Never SetsUpLog (fresh host) ss ∨
      ∃ n stream, Since (SetsUp n stream) SetsUpLog (fresh host) ss) ∧
    (Never SetsUpLog (fresh host) ss →
      ((fresh host).steps ss).1.log.threshold = 30 ∧
      ((fresh host).steps ss).1.log.handlers = [] ∧
      ∀ (s : Step) (r : Record), TellsRecord s.operation r →
        (((fresh host).steps ss).1.step s).2.writes =
          if 30 ≤ r.severity then [⟨standardError, r.message ++ "\n"⟩] else []) ∧
    (∀ n stream, Since (SetsUp n stream) SetsUpLog (fresh host) ss →
      ((fresh host).steps ss).1.log.threshold = n ∧
      ((fresh host).steps ss).1.log.handlers = [stream] ∧
      ∀ (s : Step) (r : Record), TellsRecord s.operation r → 1 ≤ r.severity →
        (((fresh host).steps ss).1.step s).2.writes =
          if n ≤ r.severity then
            [⟨stream, clockStamp s.now ++ " " ++ padRight 8 r.word
              ++ " [" ++ shownLogger r.logger ++ "] " ++ r.message ++ "\n"⟩]
          else []) ∧
    ∀ (s : Step) (logger : String) (severity : Int) (message : String),
      s.operation = .tell logger severity message →
      (Decimal.Writable severity → ∃ r, TellsRecord s.operation r ∧
        r.logger = logger ∧ r.severity = severity ∧ r.message = message) ∧
      (¬ Decimal.Writable severity →
        ((((fresh host).steps ss).1.step s).2.reply =
          if ((fresh host).steps ss).1.log.Tells severity then .error (.unwritable .digits)
          else .ok .nothing) ∧
        (((fresh host).steps ss).1.step s).2.writes = [] ∧
        (((fresh host).steps ss).1.step s).1.log = ((fresh host).steps ss).1.log) := by
  refine ⟨never_or_since_setsUp _ _, ?_, ?_, ?_⟩
  · intro h
    have hlog : ((fresh host).steps ss).1.log = Log.fresh := log_steps_of_never h
    rw [hlog]
    refine ⟨rfl, rfl, ?_⟩
    intro s r hr
    rw [writes_step hr, hlog, Log.tell_fresh]
  · intro n stream h
    have hlog := log_steps_of_since h
    rw [hlog]
    refine ⟨rfl, rfl, ?_⟩
    intro s r hr hseverity
    rw [writes_step hr, hlog, Log.tell_single hseverity, Record.line_eq]
  · intro s logger severity message hop
    refine ⟨fun h => ?_, step_of_not_writable hop⟩
    rw [hop]
    exact exists_tellsRecord h logger message

/-- A session that sets up the log under a level in mixed case, then fails to set it up again, by a
level that is none and by a run that is not accepted. -/
def setUpOnce : List Step :=
  [⟨[], 0, none, .setUpLog (some (.text "DeBuG")) (some "audit")⟩,
    ⟨[], 0, none, .setUpLog (some (.text "loud")) none⟩,
    ⟨[], 0, none, .run ["add", "--log-level", "error"] false⟩]

/-- After it, a sum that wraps around leaves its record where the log was set up to. -/
theorem log_after_session_setUpOnce :
    Since (SetsUp 10 "audit") SetsUpLog (fresh (.lone ["home"])) setUpOnce ∧
    TellsRecord (.add (.int 2147483647) (.int 1) none) (Addition.wrapRecord 2147483647 1) ∧
    (((fresh (.lone ["home"])).steps setUpOnce).1.step
      ⟨[], 0, none, .add (.int 2147483647) (.int 1) none⟩).2.writes =
        [⟨"audit", "1970-01-01 00:00:00 DEBUG    [arith.ops] "
          ++ "i32 wraparound: 2147483647 + 1 -> -2147483648\n"⟩] := by
  have hset : SetsUp 10 "audit" (fresh (.lone ["home"]))
      ⟨[], 0, none, .setUpLog (some (.text "DeBuG")) (some "audit")⟩ := by
    have hname : LevelName.ofText? (Text.lower "DeBuG") = some .debug := by decide +kernel
    have hlevel : resolveLevel (.text "DeBuG") = .ok 10 := by
      rw [resolveLevel, hname]
      rfl
    exact @SetsUp.direct _ _ (some (.text "DeBuG")) (some "audit") _ rfl hlevel
  have hloud : ∀ w, ¬ SetsUpLog w ⟨[], 0, none, .setUpLog (some (.text "loud")) none⟩ := by
    rintro w ⟨n, stream, h⟩
    cases h with
    | direct hop hn =>
        cases hop
        have hname : LevelName.ofText? (Text.lower "loud") = none := by decide +kernel
        have hfault : resolveLevel (.text "loud") = .error (.unknown (.text "loud")) := by
          rw [resolveLevel, hname]
        rw [Option.getD_some, hfault] at hn
        cases hn
    | run hop => cases hop
  have hrun : ∀ w, ¬ SetsUpLog w ⟨[], 0, none, .run ["add", "--log-level", "error"] false⟩ := by
    rintro w ⟨n, stream, h⟩
    cases h with
    | direct hop => cases hop
    | run hop hread =>
        cases hop
        have hstop : CommandLine.read ["add", "--log-level", "error"] =
            .error (.misuse (some .add) (.missing ["a", "b"])) := by cbv
        rw [hstop] at hread
        cases hread
  -- The two later steps fail, so the first one is the last that sets up the log.
  have hlast : Since (SetsUp 10 "audit") SetsUpLog (fresh (.lone ["home"])) setUpOnce :=
    ⟨[], _, _, rfl, hset,
      never_cons.mpr ⟨hloud _, never_cons.mpr ⟨hrun _, never_nil _ _⟩⟩⟩
  have htells : TellsRecord (.add (.int 2147483647) (.int 1) none)
      (Addition.wrapRecord 2147483647 1) :=
    .sum (by decide) (by decide) (by decide) (.inl rfl)
  refine ⟨hlast, htells, ?_⟩
  obtain ⟨-, -, hsince, -⟩ := log_after_session (.lone ["home"]) setUpOnce
  rw [(hsince 10 "audit" hlast).2.2 _ _ htells (by decide)]
  decide +kernel

end World

end GreetCalc
