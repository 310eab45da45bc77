import GreetCalc.Proofs.CommandLine.Endings
import GreetCalc.Proofs.Session.Logging

/-!
# Runs and what happened before them

Two worlds may have come about in different ways and still have the same files (`SameMachine`).
Operations do not touch files, so this is already so if the same was done to the files of both
(`sameMachine_of_changes`). A run cannot tell such worlds apart: it ends in the same way and writes
the same. If it gets as far as its log, it leaves the same log in both worlds, and otherwise it
leaves each log alone (`run_forgets_past`).

Getting past the settings is not quite enough for the same log: a level that was given as nothing
at all, by the marker, stops a run between its settings and its log (`log_remembered`).
-/

namespace GreetCalc.World

open CommandLine (Invocation Ending)

/-! ## The same machine -/

/-- Worlds with the same files and the same surroundings. -/
structure SameMachine (v w : World) : Prop where
  files : v.files.Same w.files
  host : v.host = w.host

namespace SameMachine

variable {u v w : World}

theorem refl (w : World) : SameMachine w w := ⟨fun _ => rfl, rfl⟩

theorem symm (h : SameMachine v w) : SameMachine w v :=
  ⟨fun l => (h.files l).symm, h.host.symm⟩

theorem trans (h : SameMachine u v) (h' : SameMachine v w) : SameMachine u w :=
  ⟨fun l => (h.files l).trans (h'.files l), h.host.trans h'.host⟩

/-- The same change leads from the same machine to the same machine. -/
theorem change (h : SameMachine v w) (c : List String × Change) :
    SameMachine (v.change c) (w.change c) := by
  have hput (names : List String) (node : Node) :
      (v.files.put (v.host.current ++ names) node).Same
        (w.files.put (w.host.current ++ names) node) := by
    rw [h.host]
    exact h.files.put _ _
  obtain ⟨names, c⟩ := c
  cases c with
  | write content => exact ⟨hput _ _, h.host⟩
  | makeDirectory => exact ⟨hput _ _, h.host⟩
  | bar barrier => exact ⟨hput _ _, h.host⟩
  | remove =>
      refine ⟨?_, h.host⟩
      show (v.files.remove (v.host.current ++ names)).Same
        (w.files.remove (w.host.current ++ names))
      rw [h.host]
      exact h.files.remove _

theorem changes (h : SameMachine v w) (cs : List (List String × Change)) :
    SameMachine (cs.foldl World.change v) (cs.foldl World.change w) := by
  induction cs generalizing v w with
  | nil => exact h
  | cons c cs ih => exact ih (h.change c)

/-- Readers of files see the same on the same machine. -/
theorem disk (h : SameMachine v w) (fault : Option SystemFault) :
    (v.disk fault).Same (w.disk fault) :=
  ⟨h.files, h.host, rfl⟩

end SameMachine

/-! ## Operations leave the machine alone -/

/-- No operation touches the files or what surrounds the program. -/
theorem Performed.machine {w : World} {now : Int} {fault : Option SystemFault} {op : Operation}
    {p : World × Answer} (h : Performed w now fault op p) : SameMachine p.1 w := by
  cases h with
  | run =>
      rw [runReply_world]
      exact ⟨fun _ => rfl, rfl⟩
  | _ => exact ⟨fun _ => rfl, rfl⟩

/-- A session leaves the files as what is done to them on the way makes them, whatever else it
does. -/
theorem machine_steps (w : World) (ss : List Step) :
    SameMachine (w.steps ss).1 ((ss.flatMap Step.changes).foldl change w) := by
  induction ss generalizing w with
  | nil => exact .refl w
  | cons s ss ih =>
      have hstep : SameMachine (w.step s).1 (w.prepared s) := (performed_step w s).machine
      rw [List.flatMap_cons, List.foldl_append]
      exact (ih (w.step s).1).trans (hstep.changes _)

/-- Sessions that do the same to the files come to the same machine. -/
theorem sameMachine_of_changes (host : Host) {ss ts : List Step}
    (h : ss.flatMap Step.changes = ts.flatMap Step.changes) :
    SameMachine ((fresh host).steps ss).1 ((fresh host).steps ts).1 := by
  have hss := machine_steps (fresh host) ss
  rw [h] at hss
  exact hss.trans (machine_steps (fresh host) ts).symm

/-! ## Answers to runs -/

/-- The reply to a run that ends so and leaves a log. -/
def endingReply (log : Log) : Ending → Except Failure Reply
  | .returned code => .ok (.returned code log)
  | .left code => .ok (.left code log)
  | .failed failure => .error failure

/-- The answer to a run is its ending, with the log that it leaves, and what it wrote. -/
theorem runReply_answer (w : World) (o : CommandLine.Outcome) :
    (w.runReply o).2 = ⟨endingReply o.log o.ending, o.writes⟩ := by
  unfold runReply endingReply
  cases o.ending <;> rfl

/-- Arguments are accepted, and the settings load that hold in their root directory. -/
def LoadsSettings (disk : Disk) (argv : List String) (i : Invocation) : Prop :=
  CommandLine.read argv = .ok i ∧ ∃ root settings, i.rootLocation disk = .ok root ∧
    Settings.load disk (Path.ofLocation root) = .ok settings

/-- A run has a plan exactly if it gets past its settings and has a level then. -/
theorem exists_plan_iff {disk : Disk} {argv : List String} :
    (∃ p, CommandLine.plan disk argv = .ok p) ↔
      ∃ i, LoadsSettings disk argv i ∧ i.level ≠ .empty := by
  constructor
  · rintro ⟨p, hp⟩
    obtain ⟨hread, hroot, hload, hresolved⟩ := CommandLine.plan_eq_ok_iff.mp hp
    refine ⟨p.invocation, ⟨hread, _, _, hroot, hload⟩, ?_⟩
    intro hlevel
    have hvalue : p.invocation.levelValue p.settings = .list [] := by
      rw [Invocation.levelValue, hlevel]
      rfl
    rw [hvalue] at hresolved
    cases hresolved
  · rintro ⟨i, ⟨hread, root, settings, hroot, hload⟩, hlevel⟩
    exact ⟨⟨i, root, settings, (i.log settings).threshold⟩, CommandLine.plan_eq_ok_iff.mpr
      ⟨hread, hroot, hload, CommandLine.resolveLevel_levelValue hlevel settings⟩⟩

/-- What a run does in two worlds with the same files, by its plan. -/
theorem step_run_both {v w : World} (h : SameMachine v w) {s : Step} {argv : List String}
    {alone : Bool} (hop : s.operation = .run argv alone) :
    ∃ ending writes,
      (v.step s).2 = ⟨endingReply (v.step s).1.log ending, writes⟩ ∧
      (w.step s).2 = ⟨endingReply (w.step s).1.log ending, writes⟩ ∧
      ((∃ p, CommandLine.plan ((v.prepared s).disk s.openFault) argv = .ok p ∧
          (v.step s).1.log = p.log ∧ (w.step s).1.log = p.log) ∨
        (∃ halt, CommandLine.plan ((v.prepared s).disk s.openFault) argv = .error halt ∧
          (v.step s).1.log = v.log ∧ (w.step s).1.log = w.log)) := by
  have hdisk : ((v.prepared s).disk s.openFault).Same ((w.prepared s).disk s.openFault) :=
    (h.changes s.changes).disk s.openFault
  -- The files are the same in both worlds, so one launch stands for both.
  rw [step_run hop, step_run hop, ← CommandLine.launch_congr hdisk]
  simp only [runReply_answer, runReply_world]
  obtain ⟨ending, writes, ⟨p, hp, hout⟩ | ⟨halt, hhalt, hout⟩⟩ :=
    CommandLine.launch_cases alone ((v.prepared s).disk s.openFault) s.now argv
  · rw [hout, hout]
    exact ⟨ending, writes, rfl, rfl, .inl ⟨p, hp, rfl, rfl⟩⟩
  · rw [hout, hout]
    exact ⟨ending, writes, rfl, rfl, .inr ⟨halt, hhalt, rfl, rfl⟩⟩

/-- **A run does not depend on the past.** In two worlds with the same files, however they came
about, a run ends in the same way and writes the same. The log after it is the same in both if the
run gets past its settings with a level, and is each world's own log from before if the run does
not get past its settings, or if the level was given as nothing at all. -/
theorem run_forgets_past {v w : World} (h : SameMachine v w) {s : Step} {argv : List String}
    {alone : Bool} (hop : s.operation = .run argv alone) :
    ∃ ending writes,
      (v.step s).2 = ⟨endingReply (v.step s).1.log ending, writes⟩ ∧
      (w.step s).2 = ⟨endingReply (w.step s).1.log ending, writes⟩ ∧
      (∀ i, LoadsSettings ((v.prepared s).disk s.openFault) argv i → i.level ≠ .empty →
        (v.step s).1.log = (w.step s).1.log) ∧
      ((∀ i, LoadsSettings ((v.prepared s).disk s.openFault) argv i → i.level = .empty) →
        (v.step s).1.log = v.log ∧ (w.step s).1.log = w.log) := by
  obtain ⟨ending, writes, hv, hw, hlog⟩ := step_run_both h hop
  refine ⟨ending, writes, hv, hw, ?_, ?_⟩
  · intro i hloads hlevel
    obtain ⟨p, hp⟩ := exists_plan_iff.mpr ⟨i, hloads, hlevel⟩
    rcases hlog with ⟨_, _, hv', hw'⟩ | ⟨halt, hhalt, -⟩
    · rw [hv', hw']
    · rw [hp] at hhalt
      cases hhalt
  · intro hempty
    rcases hlog with ⟨p, hp, -⟩ | ⟨_, _, hlog⟩
    · obtain ⟨i, hloads, hlevel⟩ := exists_plan_iff.mp ⟨p, hp⟩
      exact absurd (hempty i hloads) hlevel
    · exact hlog

/-! ### Two worlds -/

/-- A world in which the log was once set up to tell everything. -/
def talkative : World :=
  ((fresh (.lone ["home"])).steps [⟨[], 0, none, .setUpLog (some (.text "debug")) none⟩]).1

theorem talkative_log : talkative.log = ⟨10, [standardError]⟩ := by
  have hlevel : resolveLevel (.text "debug") = .ok 10 := resolveLevel_text .debug
  have hset : SetsUp 10 standardError (fresh (.lone ["home"]))
      ⟨[], 0, none, .setUpLog (some (.text "debug")) none⟩ :=
    @SetsUp.direct _ _ (some (.text "debug")) none _ rfl hlevel
  exact hset.log_step

theorem sameMachine_talkative : SameMachine (fresh (.lone ["home"])) talkative := by
  show SameMachine ((fresh (.lone ["home"])).steps []).1 talkative
  exact sameMachine_of_changes (.lone ["home"]) rfl

theorem loadsSettings_fresh {argv : List String} {i : Invocation}
    (hread : CommandLine.read argv = .ok i) (hroot : i.root = .absent) :
    LoadsSettings ((fresh (.lone ["home"])).disk none) argv i := by
  have hlocation : i.rootLocation ((fresh (.lone ["home"])).disk none) = .ok ["home"] := by
    rw [Invocation.rootLocation, hroot]
    rfl
  exact ⟨hread, ["home"], {}, hlocation, rfl⟩

/-- A greeting in a world that tells everything is the greeting in a fresh one. -/
theorem run_forgets_past_greet :
    SameMachine (fresh (.lone ["home"])) talkative ∧
    LoadsSettings ((fresh (.lone ["home"])).disk none) ["greet"] ⟨.absent, .absent, .greet none⟩ ∧
    ((fresh (.lone ["home"])).step ⟨[], 0, none, .run ["greet"] false⟩).1.log =
      (talkative.step ⟨[], 0, none, .run ["greet"] false⟩).1.log ∧
    ((fresh (.lone ["home"])).step ⟨[], 0, none, .run ["greet"] false⟩).2 =
      (talkative.step ⟨[], 0, none, .run ["greet"] false⟩).2 := by
  have hloads : LoadsSettings ((fresh (.lone ["home"])).disk none) ["greet"]
      ⟨.absent, .absent, .greet none⟩ := loadsSettings_fresh (by cbv) rfl
  obtain ⟨_, _, hv, hw, hlog, _⟩ := run_forgets_past sameMachine_talkative
    (s := ⟨[], 0, none, .run ["greet"] false⟩) rfl
  have hsame := hlog _ hloads (by simp)
  refine ⟨sameMachine_talkative, hloads, hsame, ?_⟩
  rw [hv, hw, hsame]

/-- A run whose level is the marker gets past its settings and still leaves the log that it found,
in a fresh world and in one that tells everything. -/
theorem log_remembered :
    SameMachine (fresh (.lone ["home"])) talkative ∧
    LoadsSettings ((fresh (.lone ["home"])).disk none) ["greet", "--log-level=--"]
      ⟨.absent, .empty, .greet none⟩ ∧
    ((fresh (.lone ["home"])).step ⟨[], 0, none, .run ["greet", "--log-level=--"] false⟩).1.log =
      ⟨30, []⟩ ∧
    (talkative.step ⟨[], 0, none, .run ["greet", "--log-level=--"] false⟩).1.log =
      ⟨10, [standardError]⟩ := by
  have hread : CommandLine.read ["greet", "--log-level=--"] =
      .ok ⟨.absent, .empty, .greet none⟩ := by cbv
  have hloads := loadsSettings_fresh hread rfl
  obtain ⟨_, _, _, _, ⟨p, hp, -⟩ | ⟨_, _, hv, hw⟩⟩ := step_run_both sameMachine_talkative
    (s := ⟨[], 0, none, .run ["greet", "--log-level=--"] false⟩) rfl
  · obtain ⟨i, ⟨hread', -⟩, hlevel⟩ := exists_plan_iff.mp ⟨p, hp⟩
    rw [hread] at hread'
    cases hread'
    exact absurd rfl hlevel
  · refine ⟨sameMachine_talkative, hloads, hv, ?_⟩
    rw [hw, talkative_log]

end GreetCalc.World
