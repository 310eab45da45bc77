import GreetCalc.CommandLine.Run
import GreetCalc.Proofs.FileTree
import GreetCalc.Proofs.Log

/-!
# Plans

A run makes a plan before it touches the log, and all that it writes comes from the plan or from the
reason why there is none. The log that it sets up then does not depend on the one that is there
(`Plan.carryOut_eq`). So a run cannot tell one log from another: how it ends and what it writes is
the same for every log, and so is the log that it leaves, unless it leaves the log alone
(`launch_cases`).

There is a plan exactly if the arguments are accepted, the root directory is found, the settings
load and their level is one (`plan_eq_ok_iff`). It depends on the files of the machine, and not on
how they came to be there (`plan_congr`). A run with a plan never ends like one that is stopped for
want of a plan (`log_of_stopped`).
-/

namespace GreetCalc

/-- Machines on which the same files can be read. -/
structure Disk.Same (d e : Disk) : Prop where
  files : d.files.Same e.files
  host : d.host = e.host
  openFault : d.openFault = e.openFault

/-- Loading reads nothing but the file, and how it can be opened. -/
theorem Settings.load_congr {d e : Disk} (h : d.Same e) (root : Path) :
    load d root = load e root := by
  rw [load, load, h.files.find, h.host, h.openFault]

namespace CommandLine

/-! ## When there is a plan -/

/-- A plan holds what was found at each of its stages. -/
theorem Invocation.plan_eq_ok_iff {i : Invocation} {disk : Disk} {p : Plan} :
    i.plan disk = .ok p ↔
      p.invocation = i ∧ i.rootLocation disk = .ok p.root ∧
      Settings.load disk (Path.ofLocation p.root) = .ok p.settings ∧
      resolveLevel (i.levelValue p.settings) = .ok p.threshold := by
  obtain ⟨j, root, s, threshold⟩ := p
  unfold Invocation.plan
  constructor
  · intro h
    split at h
    · cases h
    · next hroot =>
      split at h
      · cases h
      · next hload =>
        split at h
        · cases h
        · next hlevel =>
          cases h
          exact ⟨rfl, hroot, hload, hlevel⟩
  · rintro ⟨rfl, hroot, hload, hlevel⟩
    simp only [hroot, hload, hlevel]

theorem plan_eq_ok_iff {disk : Disk} {argv : List String} {p : Plan} :
    plan disk argv = .ok p ↔
      read argv = .ok p.invocation ∧ p.invocation.rootLocation disk = .ok p.root ∧
      Settings.load disk (Path.ofLocation p.root) = .ok p.settings ∧
      resolveLevel (p.invocation.levelValue p.settings) = .ok p.threshold := by
  unfold plan
  cases read argv with
  | error stop => simp
  | ok i =>
      simp only [Invocation.plan_eq_ok_iff, Except.ok.injEq]
      constructor
      · rintro ⟨rfl, h⟩
        exact ⟨rfl, h⟩
      · rintro ⟨rfl, h⟩
        exact ⟨rfl, h⟩

/-! ## What a plan depends on -/

section Machines

variable {d e : Disk}

theorem rootLocation_congr (h : d.Same e) (i : Invocation) :
    i.rootLocation d = i.rootLocation e := by
  rw [Invocation.rootLocation, Invocation.rootLocation, h.host]

/-- The past of a machine does not enter a plan. -/
theorem plan_congr (h : d.Same e) (argv : List String) : plan d argv = plan e argv := by
  unfold plan Invocation.plan
  simp only [rootLocation_congr h, Settings.load_congr h, h.host]

end Machines

/-! ## Runs -/

/-- The log that a plan sets up. -/
def Plan.log (p : Plan) : Log := ⟨p.threshold, [standardError]⟩

/-- What carrying out a plan amounts to. -/
def Plan.outcome (p : Plan) (logger : String) (now : Int) : Outcome :=
  ⟨(perform p.log now p.settings p.invocation.task).1,
    p.log.tell now (announcement logger p.invocation p.root p.settings) ++
      (perform p.log now p.settings p.invocation.task).2, p.log⟩

/-- A plan is carried out in the same way whatever log is there. -/
theorem Plan.carryOut_eq (p : Plan) (logger : String) (now : Int) (log : Log) :
    p.carryOut logger now log = p.outcome logger now := by
  rw [carryOut, Log.configure_eq]
  rfl

/-- How a program ends that is on its own: a code that it would return is one that it leaves with.
-/
def Ending.alone : Ending → Ending
  | .returned code => .left code
  | e => e

/-- A run on its own is the same run under another name, and leaves with its code. -/
theorem runMain_eq (disk : Disk) (now : Int) (log : Log) (argv : List String) :
    runMain disk now log argv =
      { runAs "__main__" disk now log argv with
        ending := (runAs "__main__" disk now log argv).ending.alone } := by
  unfold runMain
  obtain ⟨ending, writes, log'⟩ := runAs "__main__" disk now log argv
  cases ending <;> rfl

/-- A run of the program, on its own or as a part of another. -/
def launch (alone : Bool) (disk : Disk) (now : Int) (log : Log) (argv : List String) : Outcome :=
  if alone then runMain disk now log argv else run disk now log argv

theorem launch_congr {d e : Disk} (h : d.Same e) (alone : Bool) (now : Int) (log : Log)
    (argv : List String) : launch alone d now log argv = launch alone e now log argv := by
  unfold launch runMain run runAs
  rw [plan_congr h]

/-- What a run does with the log: with a plan it leaves the log of the plan, without one the log
that was there. Nothing else about the run depends on the log that was there. -/
theorem launch_cases (alone : Bool) (disk : Disk) (now : Int) (argv : List String) :
    ∃ ending writes,
      (∃ p, plan disk argv = .ok p ∧
        ∀ log, launch alone disk now log argv = ⟨ending, writes, p.log⟩) ∨
      (∃ halt, plan disk argv = .error halt ∧
        ∀ log, launch alone disk now log argv = ⟨ending, writes, log⟩) := by
  unfold launch
  simp only [runMain_eq]
  unfold run runAs
  cases plan disk argv with
  | error halt =>
      cases alone with
      | false => exact ⟨_, _, .inr ⟨halt, rfl, fun log => rfl⟩⟩
      | true => exact ⟨halt.ending.alone, halt.writes, .inr ⟨halt, rfl, fun log => rfl⟩⟩
  | ok p =>
      simp only [Plan.carryOut_eq]
      cases alone with
      | false => exact ⟨_, _, .inl ⟨p, rfl, fun log => rfl⟩⟩
      | true => exact ⟨_, _, .inl ⟨p, rfl, fun log => rfl⟩⟩

/-! ## Runs that stop -/

/-- A run has come to a stop: it left, or it returned the code of a settings file at fault. -/
inductive Ending.Stopped : Ending → Prop
  | left (code : Nat) : Stopped (.left code)
  | faulty : Stopped (.returned 2)

theorem not_stopped_performSum (log : Log) (now : Int)
    (sum : Except Addition.Refusal Addition.Total) :
    ¬ (performSum log now sum).1.Stopped := by
  cases sum with
  | ok total => exact nofun
  | error refusal =>
      rw [performSum]
      split
      · exact nofun
      · exact nofun

/-- No work ends like a run that stops before it. -/
theorem not_stopped_perform (log : Log) (now : Int) (s : Settings) (t : Task) :
    ¬ (perform log now s t).1.Stopped := by
  cases t with
  | add => exact not_stopped_performSum log now _
  | sample => exact not_stopped_performSum log now _
  | greet name => exact nofun

/-- A run that stops has no plan, and leaves the log that was there. -/
theorem log_of_stopped {disk : Disk} {now : Int} {log : Log} {argv : List String}
    (h : (run disk now log argv).ending.Stopped) : (run disk now log argv).log = log := by
  unfold run runAs at h ⊢
  cases hplan : plan disk argv with
  | error halt => rfl
  | ok p =>
      simp only [hplan, Plan.carryOut_eq] at h
      exact absurd h (not_stopped_perform p.log now p.settings p.invocation.task)

end CommandLine

end GreetCalc
