import GreetCalc.Proofs.CommandLine.Plans
import GreetCalc.Session

/-!
# The steps of a session

A step changes files and then does its operation. What an operation can do to a world is said once,
with a rule for each of the ways (`Performed`, `performed_perform`); what it leaves alone follows by
cases on these rules.

What follows for a whole session is a matter of what was done last: `Since P Q` says that some step
did `P` and none has done `Q` after it, and `holds_of_since` is the induction over the steps that
are left.
-/

namespace GreetCalc.World

/-! ## Changes to files -/

/-- The world in which the operation of a step is done. -/
def prepared (w : World) (s : Step) : World := s.changes.foldl change w

theorem prepared_eq (w : World) (s : Step) :
    w.prepared s = { w with files := (w.prepared s).files } := by
  unfold prepared
  induction s.changes generalizing w with
  | nil => rfl
  | cons c cs ih =>
      obtain ⟨names, c⟩ := c
      cases c <;> exact ih _

theorem prepared_log (w : World) (s : Step) : (w.prepared s).log = w.log := by
  rw [prepared_eq]

theorem prepared_greeters (w : World) (s : Step) : (w.prepared s).greeters = w.greeters := by
  rw [prepared_eq]

theorem prepared_host (w : World) (s : Step) : (w.prepared s).host = w.host := by
  rw [prepared_eq]

/-! ## Operations -/

/-- A run changes the log and what has been written, and nothing else. -/
theorem runReply_world (w : World) (o : CommandLine.Outcome) :
    (w.runReply o).1 = { w with log := o.log, written := w.written ++ o.writes } := by
  unfold runReply
  cases o.ending <;> rfl

/-- The operations that may touch the greeters or the log. -/
def Touching : Operation → Prop
  | .makeGreeter .. => True
  | .setField .. => True
  | .deleteField .. => True
  | .setUpLog .. => True
  | .run .. => True
  | _ => False

/-- What comes of an operation. It is refused, or answered with some texts on the way; it makes a
greeter or changes one; it sets up the log; or it runs the program. -/
inductive Performed (w : World) (now : Int) (fault : Option SystemFault) :
    Operation → World × Answer → Prop
  | refused {op : Operation} {failure : Failure} :
      Performed w now fault op (w, ⟨.error failure, []⟩)
  | answered {op : Operation} {r : Reply} {writes : List Write} : ¬ Touching op →
      Performed w now fault op ({ w with written := w.written ++ writes }, ⟨.ok r, writes⟩)
  | made {id : String} {fields : Table} {g : Greeter} : Greeter.ofFields fields = .ok g →
      Performed w now fault (.makeGreeter id fields)
        (w.keep id (.ofGreeter g), ⟨.ok (.text g.name), []⟩)
  | set {id key : String} {v : Value} {g g' : KeptGreeter} : w.greeters.lookup id = some g →
      g.set key v = .ok g' →
      Performed w now fault (.setField id key v) (w.keep id g', ⟨.ok .nothing, []⟩)
  | deleted {id key : String} {g g' : KeptGreeter} : w.greeters.lookup id = some g →
      g.delete key = .ok g' →
      Performed w now fault (.deleteField id key) (w.keep id g', ⟨.ok .nothing, []⟩)
  | setUp {level : Option Value} {stream : Option String} {log : Log} :
      w.log.setUp (level.getD defaultLevel) (stream.getD standardError) = .ok log →
      Performed w now fault (.setUpLog level stream) ({ w with log := log }, ⟨.ok (.log log), []⟩)
  | run {argv : List String} {alone : Bool} :
      Performed w now fault (.run argv alone)
        (w.runReply (CommandLine.launch alone (w.disk fault) now w.log argv))

section Performing

variable (w : World) (now : Int) (fault : Option SystemFault)

/-- A reply that changes nothing is an answer or a refusal. -/
theorem performed_reply {op : Operation} (h : ¬ Touching op) (r : Except Failure Reply) :
    Performed w now fault op (w.reply r) := by
  cases r with
  | error failure => exact .refused
  | ok r =>
      have hwritten : w = { w with written := w.written ++ [] } := by rw [List.append_nil]
      have hreply : w.reply (.ok r) = ({ w with written := w.written ++ [] }, ⟨.ok r, []⟩) := by
        rw [← hwritten]
        rfl
      rw [hreply]
      exact .answered h

theorem performed_addReply {op : Operation} (h : ¬ Touching op)
    (sum : Except Addition.Refusal Addition.Total) :
    Performed w now fault op (w.addReply now sum) := by
  cases sum with
  | error refusal => exact .refused
  | ok total => exact .answered h

/-- A change of a greeter is refused, or the greeter that was kept makes way for the changed one. -/
theorem changeReply_cases (id : String) (f : KeptGreeter → Except KeptGreeter.Fault KeptGreeter) :
    (∃ failure, w.changeReply id f = (w, ⟨.error failure, []⟩)) ∨
    ∃ g g', w.greeters.lookup id = some g ∧ f g = .ok g' ∧
      w.changeReply id f = (w.keep id g', ⟨.ok .nothing, []⟩) := by
  unfold changeReply greeter
  cases w.greeters.lookup id with
  | none => exact .inl ⟨_, rfl⟩
  | some g =>
      dsimp only
      cases hf : f g with
      | error fault => exact .inl ⟨_, rfl⟩
      | ok g' => exact .inr ⟨g, g', rfl, hf, rfl⟩

/-- Every operation goes by one of the rules. -/
theorem performed_perform (op : Operation) : Performed w now fault op (w.perform now fault op) := by
  cases op with
  | add => exact performed_addReply w now fault id _
  | sample => exact performed_addReply w now fault id Addition.sample
  | run argv alone => exact .run
  | makeGreeter id fields =>
      rw [perform]
      cases hg : Greeter.ofFields fields with
      | error report => exact .refused
      | ok g => exact .made hg
  | setField id key v =>
      rw [perform]
      rcases changeReply_cases w id fun g => g.set key v with
        ⟨failure, hrefused⟩ | ⟨g, g', hg, hset, hchanged⟩
      · rw [hrefused]
        exact .refused
      · rw [hchanged]
        exact .set hg hset
  | deleteField id key =>
      rw [perform]
      rcases changeReply_cases w id fun g => g.delete key with
        ⟨failure, hrefused⟩ | ⟨g, g', hg, hdelete, hchanged⟩
      · rw [hrefused]
        exact .refused
      · rw [hchanged]
        exact .deleted hg hdelete
  | setUpLog level stream =>
      rw [perform]
      cases hlog : w.log.setUp (level.getD defaultLevel) (stream.getD standardError) with
      | error fault => exact .refused
      | ok log => exact .setUp hlog
  | tell logger severity message =>
      rw [perform]
      cases w.log.tellAs now logger severity message with
      | error fault => exact .refused
      | ok writes => exact .answered id
  | _ => exact performed_reply w now fault id _

end Performing

/-- A step goes by one of the rules, in the world that its changes to files prepare. -/
theorem performed_step (w : World) (s : Step) :
    Performed (w.prepared s) s.now s.openFault s.operation (w.step s) :=
  performed_perform _ _ _ _

/-- A run sees the files that the changes of its step have left, and the log from before. -/
theorem step_run {w : World} {s : Step} {argv : List String} {alone : Bool}
    (hop : s.operation = .run argv alone) :
    w.step s = (w.prepared s).runReply
      (CommandLine.launch alone ((w.prepared s).disk s.openFault) s.now w.log argv) := by
  show (w.prepared s).perform _ _ s.operation = _
  rw [hop, ← prepared_log w s]
  rfl

/-! ## Sessions -/

/-- A session goes on from where its first part ends. -/
theorem steps_append (w : World) (ss ts : List Step) :
    (w.steps (ss ++ ts)).1 = ((w.steps ss).1.steps ts).1 := by
  induction ss generalizing w with
  | nil => rfl
  | cons s ss ih => exact ih (w.step s).1

theorem Performed.host_eq {w : World} {now : Int} {fault : Option SystemFault} {op : Operation}
    {p : World × Answer} (h : Performed w now fault op p) : p.1.host = w.host := by
  cases h with
  | run => rw [runReply_world]
  | _ => rfl

theorem steps_host (w : World) (ss : List Step) : (w.steps ss).1.host = w.host := by
  induction ss generalizing w with
  | nil => rfl
  | cons s ss ih =>
      exact ((ih (w.step s).1).trans (performed_step w s).host_eq).trans (prepared_host w s)

/-- No step of a session does `Q`. -/
def Never (Q : World → Step → Prop) (w : World) (ss : List Step) : Prop :=
  ∀ before s after, ss = before ++ s :: after → ¬ Q (w.steps before).1 s

/-- Some step of a session does `P`, and no step after it does `Q`. -/
def Since (P Q : World → Step → Prop) (w : World) (ss : List Step) : Prop :=
  ∃ before s after, ss = before ++ s :: after ∧ P (w.steps before).1 s ∧
    Never Q (w.steps (before ++ [s])).1 after

section Since

variable {P Q : World → Step → Prop} {w : World} {ss : List Step}

theorem never_nil (Q : World → Step → Prop) (w : World) : Never Q w [] := by
  intro before s after heq
  simp at heq

/-- A session never does something if its first step does not and the rest never does. -/
theorem never_cons {s : Step} : Never Q w (s :: ss) ↔ ¬ Q w s ∧ Never Q (w.step s).1 ss := by
  constructor
  · intro h
    refine ⟨h [] s ss rfl, ?_⟩
    rintro before t after rfl
    exact h (s :: before) t after rfl
  · rintro ⟨hs, hss⟩ before t after heq
    cases before with
    | nil =>
        cases heq
        exact hs
    | cons s' before =>
        cases heq
        exact hss before t after rfl

/-- What every step keeps that does not do `Q` is kept by a session that never does `Q`. -/
theorem holds_of_never {I : World → Prop} (hkeep : ∀ w s, ¬ Q w s → I w → I (w.step s).1)
    (h : Never Q w ss) (hw : I w) : I (w.steps ss).1 := by
  induction ss generalizing w with
  | nil => exact hw
  | cons s ss ih =>
      obtain ⟨hs, hss⟩ := never_cons.mp h
      exact ih hss (hkeep w s hs hw)

/-- What `P` brings about, and what every step keeps that does not do `Q`, holds at the end. -/
theorem holds_of_since {I : World → Prop} (hset : ∀ w s, P w s → I (w.step s).1)
    (hkeep : ∀ w s, ¬ Q w s → I w → I (w.step s).1) (h : Since P Q w ss) : I (w.steps ss).1 := by
  obtain ⟨before, s, after, rfl, hs, hafter⟩ := h
  have hsplit : before ++ s :: after = (before ++ [s]) ++ after := by simp
  have hlast : (w.steps (before ++ [s])).1 = ((w.steps before).1.step s).1 := by
    rw [steps_append]
    rfl
  rw [hsplit, steps_append]
  exact holds_of_never hkeep hafter (hlast ▸ hset _ _ hs)

/-- If a session does something at all, there is a last time. -/
theorem never_or_since (Q : World → Step → Prop) (w : World) (ss : List Step) :
    Never Q w ss ∨ Since Q Q w ss := by
  induction ss generalizing w with
  | nil => exact .inl (never_nil Q w)
  | cons s ss ih =>
      -- The last time in the rest is the last of all. Only without one does the first step count.
      rcases ih (w.step s).1 with hnever | ⟨before, t, after, rfl, ht, hafter⟩
      · by_cases hs : Q w s
        · exact .inr ⟨[], s, ss, rfl, hs, hnever⟩
        · exact .inl (never_cons.mpr ⟨hs, hnever⟩)
      · exact .inr ⟨s :: before, t, after, rfl, ht, hafter⟩

end Since

end GreetCalc.World
