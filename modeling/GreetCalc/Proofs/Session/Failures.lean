import GreetCalc.Proofs.Session.Steps

/-!
# Steps that fail

A step that fails leaves nothing behind but the changes to files that come before its operation: an
operation does all that it is asked for or nothing (`Performed.of_error`). A run that stops at its
arguments or at its settings has written why, and has done nothing else (`log_of_stopped`).

What has been written is a mere record that no operation reads. Worlds that differ in nothing else
answer alike for ever (`answers_steps`), and so after such a step or run every answer is the one
that would have been given without it (`failed_step_leaves_no_trace`).
-/

namespace GreetCalc.World

/-! ## Worlds that answer alike -/

/-- Worlds that differ at most in what has been written. -/
structure SameState (v w : World) : Prop where
  files : v.files = w.files
  host : v.host = w.host
  log : v.log = w.log
  greeters : v.greeters = w.greeters

namespace SameState

variable {v w : World}

theorem refl (w : World) : SameState w w := ⟨rfl, rfl, rfl, rfl⟩

/-- The one world is the other with something else on record. -/
theorem eq_with (h : SameState v w) : v = { w with written := v.written } := by
  obtain ⟨files, host, log, greeters, written⟩ := v
  obtain ⟨rfl, rfl, rfl, rfl⟩ := h
  rfl

theorem change (h : SameState v w) (c : List String × Change) :
    SameState (v.change c) (w.change c) := by
  rw [h.eq_with]
  obtain ⟨names, c⟩ := c
  cases c <;> exact ⟨rfl, rfl, rfl, rfl⟩

/-- Files are changed in the same way whatever has been written. -/
theorem prepared (h : SameState v w) (s : Step) : SameState (v.prepared s) (w.prepared s) := by
  unfold World.prepared
  induction s.changes generalizing v w with
  | nil => exact h
  | cons c cs ih => exact ih (h.change c)

end SameState

/-- The same answers in worlds that differ at most in what has been written. -/
def Alike (p q : World × Answer) : Prop := SameState p.1 q.1 ∧ p.2 = q.2

section Record

variable (w : World) (ws : List Write)

theorem alike_reply (r : Except Failure Reply) :
    Alike (reply { w with written := ws } r) (w.reply r) := ⟨⟨rfl, rfl, rfl, rfl⟩, rfl⟩

theorem alike_replyWriting (r : Except Failure Reply) (writes : List Write) :
    Alike (replyWriting { w with written := ws } r writes) (w.replyWriting r writes) :=
  ⟨⟨rfl, rfl, rfl, rfl⟩, rfl⟩

/-- The answer to a sum depends on the log, and not on what it has written. -/
theorem alike_addReply (now : Int) (sum : Except Addition.Refusal Addition.Total) :
    Alike (addReply { w with written := ws } now sum) (w.addReply now sum) := by
  cases sum with
  | error refusal => exact alike_reply w ws _
  | ok total => exact alike_replyWriting w ws _ _

/-- The answer to a change of a greeter does not depend on what has been written. -/
theorem alike_changeReply (id : String) (f : KeptGreeter → Except KeptGreeter.Fault KeptGreeter) :
    Alike (changeReply { w with written := ws } id f) (w.changeReply id f) := by
  have hgreeter : greeter { w with written := ws } id = w.greeter id := rfl
  unfold changeReply
  rw [hgreeter]
  cases w.greeter id with
  | error failure => exact alike_reply w ws _
  | ok g =>
      dsimp only
      cases f g with
      | error fault => exact alike_reply w ws _
      | ok g' => exact alike_reply (w.keep id g') ws _

theorem alike_runReply (o : CommandLine.Outcome) :
    Alike (runReply { w with written := ws } o) (w.runReply o) := by
  unfold runReply
  cases o.ending <;> exact alike_replyWriting { w with log := o.log } ws _ _

/-- No operation reads the record. -/
theorem alike_perform (now : Int) (fault : Option SystemFault) (op : Operation) :
    Alike (perform { w with written := ws } now fault op) (w.perform now fault op) := by
  cases op with
  | add => exact alike_addReply w ws now _
  | sample => exact alike_addReply w ws now _
  | setField id => exact alike_changeReply w ws id _
  | deleteField id => exact alike_changeReply w ws id _
  | run => exact alike_runReply w ws _
  | tell logger severity message =>
      rw [perform, perform]
      cases w.log.tellAs now logger severity message with
      | error fault => exact alike_reply w ws _
      | ok writes => exact alike_replyWriting w ws _ _
  | makeGreeter id fields =>
      rw [perform, perform]
      cases Greeter.ofFields fields with
      | error report => exact alike_reply w ws _
      | ok g => exact alike_reply (w.keep id (.ofGreeter g)) ws _
  | setUpLog level stream =>
      rw [perform, perform]
      cases w.log.setUp (level.getD defaultLevel) (stream.getD standardError) with
      | error fault => exact alike_reply w ws _
      | ok log => exact alike_reply { w with log := log } ws _
  | _ => exact alike_reply w ws _

end Record

/-- One step keeps worlds alike that differ in what has been written. -/
theorem alike_step {v w : World} (h : SameState v w) (s : Step) : Alike (v.step s) (w.step s) := by
  show Alike ((v.prepared s).perform _ _ _) ((w.prepared s).perform _ _ _)
  -- One of the worlds is the other with something else on record.
  rw [(h.prepared s).eq_with]
  exact alike_perform _ _ _ _ _

/-- Worlds that differ at most in what has been written give the same answers for ever. -/
theorem answers_steps {v w : World} (h : SameState v w) (ss : List Step) :
    (v.steps ss).2 = (w.steps ss).2 := by
  induction ss generalizing v w with
  | nil => rfl
  | cons s ss ih =>
      obtain ⟨hstate, hanswer⟩ := alike_step h s
      show (v.step s).2 :: ((v.step s).1.steps ss).2 = (w.step s).2 :: ((w.step s).1.steps ss).2
      rw [hanswer, ih hstate]

/-! ## Operations that fail -/

/-- An operation other than a run that fails changes nothing and writes nothing. -/
theorem Performed.of_error {w : World} {now : Int} {fault : Option SystemFault} {op : Operation}
    {p : World × Answer} (h : Performed w now fault op p)
    (hrun : ∀ argv alone, op ≠ .run argv alone) {failure : Failure}
    (hfailed : p.2.reply = .error failure) : p = (w, ⟨.error failure, []⟩) := by
  cases h with
  | refused =>
      cases hfailed
      rfl
  | run => exact absurd rfl (hrun _ _)
  | _ => cases hfailed

/-! ## Runs that stop -/

/-- The answer of a run that has come to a stop: it left, or it returned the code of a settings file
at fault. -/
inductive Stopped : Except Failure Reply → Prop
  | left (code : Nat) (log : Log) : Stopped (.ok (.left code log))
  | faulty (log : Log) : Stopped (.ok (.returned 2 log))

theorem stopped_runReply {w : World} {o : CommandLine.Outcome}
    (h : Stopped (w.runReply o).2.reply) : o.ending.Stopped := by
  obtain ⟨ending, writes, log⟩ := o
  cases ending with
  | returned code =>
      cases h
      exact .faulty
  | left code => exact .left code
  | failed failure => cases h

/-- A run that stops changes nothing but what has been written. -/
theorem sameState_of_stopped {w : World} {s : Step} {argv : List String}
    (hop : s.operation = .run argv false) (h : Stopped (w.step s).2.reply) :
    SameState (w.step s).1 (w.prepared s) := by
  rw [step_run hop] at h ⊢
  have hlog := CommandLine.log_of_stopped (stopped_runReply h)
  unfold CommandLine.launch at h ⊢
  generalize CommandLine.run _ s.now w.log argv = o at hlog h ⊢
  obtain ⟨ending, writes, log⟩ := o
  have hlog : log = (w.prepared s).log := hlog.trans (prepared_log w s).symm
  subst hlog
  cases ending <;> exact ⟨rfl, rfl, rfl, rfl⟩

/-! ## No trace -/

/-- A step without its operation, which is only what is done to files before it. -/
def withoutOperation (s : Step) : Step := { s with operation := .idle }

/-- A step leaves the log and the greeters as they were, and whatever is done later, it is answered
as if the operation of the step had not been done. -/
structure LeavesNoTrace (w : World) (s : Step) : Prop where
  log : (w.step s).1.log = w.log
  greeters : (w.step s).1.greeters = w.greeters
  answers : ∀ later,
    ((w.step s).1.steps later).2 = ((w.step (withoutOperation s)).1.steps later).2

/-- A step leaves no trace that does no more than its changes to files. -/
theorem leavesNoTrace_of_sameState {w : World} {s : Step}
    (h : SameState (w.step s).1 (w.prepared s)) : LeavesNoTrace w s where
  log := h.log.trans (prepared_log w s)
  greeters := by rw [h.greeters, prepared_eq]
  answers later := answers_steps h later

/-- **Failed steps leave no trace.** A step that fails, other than a run, leaves no trace and writes
nothing: all streams hold what they held. A run that stops, because it leaves or because its
settings file is at fault, leaves no trace either. -/
theorem failed_step_leaves_no_trace (w : World) (s : Step) :
    (∀ failure, (∀ argv alone, s.operation ≠ .run argv alone) →
      (w.step s).2.reply = .error failure →
      LeavesNoTrace w s ∧ (w.step s).2.writes = [] ∧
      ∀ stream, (w.step s).1.streamText stream = w.streamText stream) ∧
    (∀ argv, s.operation = .run argv false → Stopped (w.step s).2.reply → LeavesNoTrace w s) := by
  constructor
  · intro failure hrun hfailed
    have hstep : w.step s = (w.prepared s, ⟨.error failure, []⟩) :=
      (performed_step w s).of_error hrun hfailed
    refine ⟨leavesNoTrace_of_sameState ?_, by rw [hstep], ?_⟩
    · rw [hstep]
      exact .refl _
    · intro stream
      rw [hstep, prepared_eq]
      rfl
  · intro argv hop hstopped
    exact leavesNoTrace_of_sameState (sameState_of_stopped hop hstopped)

/-- A world that keeps one greeter. -/
def welcoming : World := (fresh (.lone ["home"])).keep "g" (.ofGreeter ⟨"Ann"⟩)

/-- An attempt to replace its greeter by one whose name is a number. -/
def misnaming : Step := ⟨[], 0, none, .makeGreeter "g" [("name", .int 1)]⟩

/-- A run that lacks an operand. -/
def halfSum : Step := ⟨[], 0, none, .run ["add", "1"] false⟩

/-- Neither of them leaves a trace: the greeter that was kept still greets. -/
theorem failed_step_leaves_no_trace_welcoming :
    (∃ report, (welcoming.step misnaming).2.reply = .error (.invalid report)) ∧
    LeavesNoTrace welcoming misnaming ∧
    (welcoming.step halfSum).2.reply = .ok (.left 2 Log.fresh) ∧
    LeavesNoTrace welcoming halfSum ∧
    ((welcoming.step misnaming).1.steps [⟨[], 0, none, .greet "g"⟩]).2.map Answer.reply =
      [.ok (.text "hello Ann")] := by
  have hfailed : (welcoming.step misnaming).2.reply =
      .error (.invalid ⟨Greeter.subject, [⟨.notText, some "name", .int 1⟩]⟩) := rfl
  have hread : CommandLine.read ["add", "1"] =
      .error (.misuse (some .add) (.missing ["b"])) := by cbv
  have hstopped : (welcoming.step halfSum).2.reply = .ok (.left 2 Log.fresh) := by
    show (welcoming.runReply (CommandLine.runAs "cli" (welcoming.disk none) 0 Log.fresh
      ["add", "1"])).2.reply = _
    rw [CommandLine.runAs, CommandLine.plan, hread]
    rfl
  have hrun : ∀ argv alone, misnaming.operation ≠ .run argv alone := by
    intro argv alone h
    cases h
  have hquiet := ((failed_step_leaves_no_trace welcoming misnaming).1 _ hrun hfailed).1
  refine ⟨⟨_, hfailed⟩, hquiet, hstopped,
    (failed_step_leaves_no_trace welcoming halfSum).2 _ rfl (hstopped ▸ .left 2 _), ?_⟩
  rw [hquiet.answers]
  rfl

end GreetCalc.World
