import GreetCalc.Proofs.CommandLine.Arrangement
import GreetCalc.Proofs.CommandLine.Failures
import GreetCalc.Proofs.CommandLine.Plans
import GreetCalc.Proofs.Settings.Contents

/-!
# What is in force

The level of the log, the overflow mode and the root directory each have up to three sources: the
switches among the arguments, the settings file, and what holds where neither says anything. The
last switch that speaks of a setting counts, then the file, then the standard (`InForce`).

`given` lists the switches of a command in their order, whatever they are about. Taking an argument
keeps a draft in step with the switches that have been given (`Draft.Reflects`), so an accepted
invocation holds nothing but the last of them (`read_given`).

A run that returns 0 or 1 works with what is in force, and says so if everything is told
(`run_in_force`). The mode that it tells and the mode that it adds in come about in two ways, and
these could only differ where the mode is left empty; but then no sum is added.
-/

namespace GreetCalc.CommandLine

/-! ## The switches that are given -/

/-- A switch as it is given, with its value if it has one. -/
structure Given where
  switch : Switch
  value : Option String
  deriving DecidableEq, Repr

/-- The switches among tokens, in their order. -/
def givenBy (c : Command) : List Token → List Given
  | [] => []
  | .short o attached :: ts =>
    match shortSwitches c.switches o attached with
    | .ok os => os.map (⟨·, none⟩) ++ givenBy c ts
    | .error _ => givenBy c ts
  | .long o (some v) :: ts => ⟨o, some v⟩ :: givenBy c ts
  | .long o none :: ts =>
    if o.takesValue then
      match ts with
      | .word v :: ts' => ⟨o, some v⟩ :: givenBy c ts'
      | _ => []
    else ⟨o, none⟩ :: givenBy c ts
  | _ :: ts => givenBy c ts

/-- The switches among the arguments of a command, in their order. The marker ends them. -/
def given (c : Command) (args : List String) : List Given :=
  match classifyAll c.switches (args.takeWhile (· != marker)) with
  | .ok ts => givenBy c ts
  | .error _ => []

namespace Given

/-- The root directory that a switch asks for, if it speaks of one. The marker asks for nothing. -/
def root? : Given → Option (Option String)
  | ⟨.root, some v⟩ => some (if v = marker then none else some v)
  | _ => none

/-- The level that a switch asks for, if it speaks of one. -/
def level? : Given → Option (Option LevelName)
  | ⟨.verbose, _⟩ => some (some .debug)
  | ⟨.logLevel, some v⟩ => some (LevelName.ofText? v)
  | _ => none

/-- The overflow mode that a switch asks for, if it speaks of one. -/
def mode? : Given → Option (Option OverflowMode)
  | ⟨.overflow, some v⟩ => some (OverflowMode.ofText? v)
  | _ => none

end Given

example : given .add ["-v", "1", "--log-l=info", "2", "--over", "raise", "-vv", "--", "-v"] =
    [⟨.verbose, none⟩, ⟨.logLevel, some "info"⟩, ⟨.overflow, some "raise"⟩, ⟨.verbose, none⟩,
      ⟨.verbose, none⟩] := rfl

theorem givenBy_flag {c : Command} {o : Switch} (ho : o.takesValue = false) (ts : List Token) :
    givenBy c (.long o none :: ts) = ⟨o, none⟩ :: givenBy c ts := by
  conv => lhs; unfold givenBy
  simp [ho]

/-! ## Drafts in step with the switches -/

/-- The entry that is left by the last of several requests. -/
def Entry.ofLast {α : Type} (asked : List (Option α)) : Entry α :=
  match asked.getLast? with
  | none => .absent
  | some none => .empty
  | some (some a) => .given a

/-- An entry after a switch that may speak of it, and may ask for nothing then. -/
def Entry.update {α : Type} (e : Entry α) : Option (Option α) → Entry α
  | none => e
  | some none => .empty
  | some (some a) => .given a

/-- One more switch updates the entry that its predecessors left. -/
theorem Entry.ofLast_filterMap {α : Type} (f : Given → Option (Option α)) (gs : List Given)
    (g : Given) : ofLast ((gs ++ [g]).filterMap f) = (ofLast (gs.filterMap f)).update (f g) := by
  rw [List.filterMap_append]
  cases hf : f g with
  | none => simp [hf, update]
  | some x =>
      unfold ofLast
      cases x <;> simp [hf, update]

/-- A draft holds the last of what the switches ask for. -/
structure Draft.Reflects (d : Draft) (gs : List Given) : Prop where
  root : d.root = .ofLast (gs.filterMap Given.root?)
  level : d.level = .ofLast (gs.filterMap Given.level?)
  overflow : d.overflow = .ofLast (gs.filterMap Given.mode?)

section Reflects

variable {c : Command} {d d' : Draft} {gs : List Given}

theorem reflects_start (places : List Place) : (Draft.start places).Reflects [] :=
  ⟨rfl, rfl, rfl⟩

/-- Arguments that are no switches leave what switches ask for as it is. -/
theorem Draft.Reflects.of_eq (h : d.Reflects gs) (hroot : d'.root = d.root)
    (hlevel : d'.level = d.level) (hoverflow : d'.overflow = d.overflow) : d'.Reflects gs :=
  ⟨hroot.trans h.root, hlevel.trans h.level, hoverflow.trans h.overflow⟩

theorem Draft.Reflects.give (h : d.Reflects gs) {g : Given}
    (hroot : d'.root = d.root.update g.root?) (hlevel : d'.level = d.level.update g.level?)
    (hoverflow : d'.overflow = d.overflow.update g.mode?) : d'.Reflects (gs ++ [g]) where
  root := by rw [Entry.ofLast_filterMap, hroot, h.root]
  level := by rw [Entry.ofLast_filterMap, hlevel, h.level]
  overflow := by rw [Entry.ofLast_filterMap, hoverflow, h.overflow]

/-- A word is no switch and leaves the entries of switches alone. -/
theorem reflects_takeWord {s : String} {word : Option String}
    (hd : d.takeWord s word = .ok d') (h : d.Reflects gs) : d'.Reflects gs := by
  unfold Draft.takeWord at hd
  split at hd
  · cases hd
    exact h.of_eq rfl rfl rfl
  · next p free _ =>
    cases p with
    | name =>
        cases hd
        exact h.of_eq rfl rfl rfl
    | operand side =>
        cases word with
        | none =>
            cases hd
            cases side <;> exact h.of_eq rfl rfl rfl
        | some w =>
            simp only [Draft.fill] at hd
            split at hd
            · cases hd
              cases side <;> exact h.of_eq rfl rfl rfl
            · cases hd

/-- A switch with a value is the last that speaks of its setting. -/
theorem reflects_takeValue {o : Switch} {v : String} (hd : d.takeValue o v = .ok d')
    (h : d.Reflects gs) : d'.Reflects (gs ++ [⟨o, some v⟩]) := by
  cases o with
  | help => cases hd
  | verbose => cases hd
  | root =>
      cases hd
      refine h.give ?_ rfl rfl
      by_cases hv : v = marker <;> simp [Given.root?, Entry.update, hv]
  | logLevel =>
      -- The marker is the name of no level, so the switch asks for nothing.
      simp only [Draft.takeValue] at hd
      split at hd
      · next hv =>
        cases hd
        have hnone : LevelName.ofText? v = none := by rw [hv]; decide
        exact h.give rfl (by rw [Given.level?, hnone]; rfl) rfl
      · split at hd
        · next l hl =>
          cases hd
          exact h.give rfl (by rw [Given.level?, hl]; rfl) rfl
        · cases hd
  | overflow =>
      simp only [Draft.takeValue] at hd
      split at hd
      · next hv =>
        cases hd
        have hnone : OverflowMode.ofText? v = none := by rw [hv]; decide
        exact h.give rfl rfl (by rw [Given.mode?, hnone]; rfl)
      · split at hd
        · next m hm =>
          cases hd
          exact h.give rfl rfl (by rw [Given.mode?, hm]; rfl)
        · cases hd

/-- Switches without values leave their traces one after another. -/
theorem reflects_takeSwitches {page : Page} {os : List Switch}
    (hd : takeSwitches page d os = .ok d') (h : d.Reflects gs) :
    d'.Reflects (gs ++ os.map (⟨·, none⟩)) := by
  induction os generalizing d gs with
  | nil =>
      cases hd
      rw [List.map_nil, List.append_nil]
      exact h.of_eq rfl rfl rfl
  | cons o os ih =>
      rw [List.map_cons, List.append_cons]
      cases o with
      | help => cases hd
      | verbose => exact ih hd (h.give rfl rfl rfl)
      | root => exact ih hd (h.give rfl rfl rfl)
      | logLevel => exact ih hd (h.give rfl rfl rfl)
      | overflow => exact ih hd (h.give rfl rfl rfl)

/-- Taking tokens keeps the draft in step with the switches among them. -/
theorem reflects_take {ts : List Token} (hd : take c d ts = .ok d') (h : d.Reflects gs) :
    d'.Reflects (gs ++ givenBy c ts) := by
  fun_induction take c d ts generalizing gs with
  | case1 d =>
      cases hd
      simpa [givenBy] using h
  | case2 d s ts ih =>
      obtain ⟨d₁, h₁, hd⟩ := bind_ok hd
      exact ih d₁ hd (reflects_takeWord (onPage_ok h₁) h)
  | case3 d s ts ih => exact ih hd (h.of_eq rfl rfl rfl)
  | case4 d o attached ts ih =>
      obtain ⟨os, hos, hd⟩ := bind_ok hd
      obtain ⟨d₁, h₁, hd⟩ := bind_ok hd
      have := ih d₁ hd (reflects_takeSwitches h₁ h)
      simpa [givenBy, onPage_ok hos] using this
  | case5 d o s ts ih =>
      obtain ⟨d₁, h₁, hd⟩ := bind_ok hd
      simpa [givenBy] using ih d₁ hd (reflects_takeValue (onPage_ok h₁) h)
  | case6 d o ho s ts ih =>
      -- The value is the word after the switch, so two tokens go at once.
      obtain ⟨d₁, h₁, hd⟩ := bind_ok hd
      simpa [givenBy, ho] using ih d₁ hd (reflects_takeValue (onPage_ok h₁) h)
  | case7 => cases hd
  | case8 d o ts ho ih =>
      obtain ⟨d₁, h₁, hd⟩ := bind_ok hd
      rw [givenBy_flag (Bool.eq_false_iff.mpr ho), List.append_cons]
      exact ih d₁ hd (reflects_takeSwitches h₁ h)

theorem reflects_takeWords {ws : List String} (hd : takeWords d ws = .ok d')
    (h : d.Reflects gs) : d'.Reflects gs := by
  induction ws generalizing d with
  | nil =>
      cases hd
      exact h
  | cons w ws ih =>
      obtain ⟨d₁, h₁, hd⟩ := bind_ok hd
      exact ih hd (reflects_takeWord h₁ h)

theorem reflects_takeMarked {ws : List String} (hd : takeMarked d ws = .ok d')
    (h : d.Reflects gs) : d'.Reflects gs := by
  unfold takeMarked at hd
  split at hd
  · exact reflects_takeWords hd h
  · split at hd
    · cases hd
      exact h.of_eq rfl rfl rfl
    · obtain ⟨d₁, h₁, hd⟩ := bind_ok hd
      exact reflects_takeWords hd (reflects_takeWord h₁ h)
    · cases hd
      exact h.of_eq rfl rfl rfl

/-- The draft of accepted arguments is in step with all switches that are given. -/
theorem reflects_takeAll {args : List String} (hd : takeAll c args = .ok d) :
    d.Reflects (given c args) := by
  obtain ⟨ts, hts, hd⟩ := bind_ok hd
  obtain ⟨d₁, h₁, hd⟩ := bind_ok hd
  have hgiven : d₁.Reflects (given c args) := by
    unfold given
    rw [onPage_ok hts]
    simpa using reflects_take h₁ (reflects_start c.places)
  split at hd
  · cases hd
    exact hgiven
  · exact reflects_takeMarked (onPage_ok hd) hgiven

end Reflects

/-- An accepted invocation holds the last of what the switches ask for. -/
theorem read_given {argv : List String} {i : Invocation} (h : read argv = .ok i) :
    ∃ args, argv = i.task.command.name :: args ∧
      i.root = .ofLast ((given i.task.command args).filterMap Given.root?) ∧
      i.level = .ofLast ((given i.task.command args).filterMap Given.level?) ∧
      ∀ a b m, i.task = .add a b m →
        m = .ofLast ((given i.task.command args).filterMap Given.mode?) := by
  obtain ⟨c, args, rfl, hr⟩ := read_ok h
  rw [readCommand_eq] at hr
  obtain ⟨d, hd, hfinish⟩ := bind_ok hr
  obtain ⟨-, rfl⟩ := Draft.finish_ok hfinish
  have hc : (d.task c).command = c := by cases c <;> rfl
  have hreflects := reflects_takeAll hd
  refine ⟨args, by rw [hc], ?_, ?_, ?_⟩
  · rw [hc]
    exact hreflects.root
  · rw [hc]
    exact hreflects.level
  · intro a b m ht
    obtain ⟨-, -, -, hm⟩ := Draft.task_eq_add ht
    rw [hc, ← hm]
    exact hreflects.overflow

/-! ## What counts -/

/-- What is in force for a setting: the last of what switches ask for, or else what it falls back
on. -/
inductive InForce {α : Type} (asked : List (Option α)) (fallback : α → Prop) : α → Prop
  | asked {a : α} : asked.getLast? = some (some a) → InForce asked fallback a
  | fallback {a : α} : asked = [] → fallback a → InForce asked fallback a

/-- What an entry holds, or else the standard, is in force. -/
theorem inForce_getD {α : Type} {asked : List (Option α)} {fallback : α → Prop} {e : Entry α}
    (he : e = .ofLast asked) (hne : e ≠ .empty) {standard : α} (h : fallback standard) :
    InForce asked fallback (e.getD standard) := by
  subst he
  unfold Entry.ofLast at hne ⊢
  split at hne
  · next hnone => exact .fallback (List.getLast?_eq_none_iff.mp hnone) h
  · exact absurd rfl hne
  · next a ha => exact .asked ha

/-! ## Runs -/

/-- The line that tells what is in force. -/
def announcedLine (now : Int) (c : Command) (root : Location) (level : LevelName)
    (mode : OverflowMode) : String :=
  Record.line now <| .ofLevel "cli" .debug <|
    "command=" ++ c.name ++ " root=" ++ ("/" ++ "/".intercalate root) ++ " overflow=" ++ mode.text
      ++ " log_level=" ++ level.text

/-- A run works under a level and a mode, with a root directory: it sets up the log with the level,
tells what is in force if the level lets everything be told, and then does its work, a sum in the
mode. -/
structure WorksUnder (task : Task) (root : Location) (level : LevelName) (mode : OverflowMode)
    (now : Int) (o : Outcome) : Prop where
  log : o.log = ⟨level.severity, [standardError]⟩
  first : level = .debug → ∃ rest,
    o.textsOn standardError = announcedLine now task.command root level mode :: rest
  work : ∃ writes,
    o.writes = (if level = .debug then
      [⟨standardError, announcedLine now task.command root level mode⟩] else []) ++ writes ∧
    ∀ a b m, task = .add a b m → (o.ending, writes) = performSum o.log now
      (Addition.add (a.value .null .int) (b.value .null .int) (.text mode.text))

/-- What is recorded at the lowest level is told at this threshold alone. -/
theorem tell_debug (level : LevelName) (now : Int) {r : Record}
    (hr : r.severity = LevelName.debug.severity) :
    Log.tell ⟨level.severity, [standardError]⟩ now r =
      if level = .debug then [⟨standardError, r.line now⟩] else [] := by
  have htells : Log.Tells ⟨level.severity, [standardError]⟩ r.severity ↔ level = .debug := by
    rw [hr]
    cases level <;> decide
  unfold Log.tell
  simp only [htells]
  rfl

/-- The announcement of a run tells its root, its level and its mode. -/
theorem announcement_line {i : Invocation} (h : i.level ≠ .empty) (root : Location) (s : Settings)
    (now : Int) :
    (announcement "cli" i root s).line now =
      announcedLine now i.task.command root (i.level.getD s.logLevel) (i.task.shownOverflow s) := by
  unfold announcement
  rw [levelValue_eq h]
  rfl

theorem shownOverflow_add {a b : Entry Int} {m : Entry OverflowMode} (s : Settings) :
    (Task.add a b m).shownOverflow s = m.getD s.overflow := by
  cases m <;> rfl

/-- A plan is carried out under the level and the mode that it holds. -/
theorem outcome_worksUnder {i : Invocation} (hlevel : i.level ≠ .empty)
    (hmode : ∀ a b m, i.task = .add a b m → m ≠ .empty) (root : Location) (s : Settings)
    (now : Int) :
    WorksUnder i.task root (i.level.getD s.logLevel) (i.task.shownOverflow s) now
      (Plan.outcome ⟨i, root, s, (i.log s).threshold⟩ "cli" now) := by
  have hlog : Plan.log ⟨i, root, s, (i.log s).threshold⟩ = i.log s := rfl
  have htold := tell_debug (i.level.getD s.logLevel) now (r := announcement "cli" i root s) rfl
  rw [announcement_line hlevel] at htold
  unfold Plan.outcome
  rw [hlog, Invocation.log, htold]
  refine ⟨rfl, ?_, _, rfl, ?_⟩
  · intro hdebug
    unfold Outcome.textsOn
    simp [hdebug]
  · intro a b m ht
    rw [ht, shownOverflow_add, ← overflowValue_eq (hmode a b m ht)]
    rfl

theorem halt_ending {disk : Disk} {argv : List String} {halt : Halt}
    (h : plan disk argv = .error halt) :
    halt.ending.Stopped ∨ ∃ failure, halt.ending = .failed failure := by
  unfold plan Invocation.plan at h
  split at h
  · cases h
    exact .inl (.left _)
  · split at h
    · cases h
      exact .inr ⟨_, rfl⟩
    · split at h
      · next fault _ =>
        cases h
        cases fault with
        | file path fault => exact .inl .faulty
        | _ => exact .inr ⟨_, rfl⟩
      · split at h
        · cases h
          exact .inr ⟨_, rfl⟩
        · cases h

/-- A run that returns 0 or 1 had a plan. -/
theorem exists_plan_of_returned {disk : Disk} {now : Int} {log : Log} {argv : List String}
    (h : (run disk now log argv).ending = .returned 0 ∨
      (run disk now log argv).ending = .returned 1) : ∃ p, plan disk argv = .ok p := by
  unfold run runAs at h
  cases hplan : plan disk argv with
  | ok p => exact ⟨p, rfl⟩
  | error halt =>
      rw [hplan] at h
      dsimp only at h
      rcases halt_ending hplan with hstop | ⟨failure, hfailed⟩
      · rcases h with h | h <;> (rw [h] at hstop; cases hstop)
      · rw [hfailed] at h
        rcases h with h | h <;> cases h

/-- **What is in force in a run.** A run that returns 0 or 1 has accepted its arguments and loaded
the settings of its root directory. It works under the level that the last of the switches for it
asks for, or else the file, and `warning` if neither says anything; a sum is added in the mode that
the last of the switches for it asks for, or else the file, and `wrap` if neither says anything.
This mode and this level, and the directory that the file was looked up in, are what it tells first
if everything is told. -/
theorem run_in_force {disk : Disk} {now : Int} {log : Log} {argv : List String}
    (h : (run disk now log argv).ending = .returned 0 ∨
      (run disk now log argv).ending = .returned 1) :
    ∃ i args r root t level mode,
      read argv = .ok i ∧ argv = i.task.command.name :: args ∧
      InForce ((given i.task.command args).filterMap Given.root?) (· = defaultRoot) r ∧
      (Path.ofText r).resolve disk.host.current disk.host.homes = .ok root ∧
      Settings.FileHolds disk (Path.ofLocation root) t ∧
      InForce ((given i.task.command args).filterMap Given.level?)
        (Settings.Says t "log_level" LevelName.text .warning) level ∧
      (i.task.command = .add → InForce ((given i.task.command args).filterMap Given.mode?)
        (Settings.Says t "overflow" OverflowMode.text .wrap) mode) ∧
      (i.task.command ≠ .add → Settings.Says t "overflow" OverflowMode.text .wrap mode) ∧
      WorksUnder i.task root level mode now (run disk now log argv) := by
  obtain ⟨⟨i, root, s, threshold⟩, hplan⟩ := exists_plan_of_returned h
  obtain ⟨hread, hlocation, hload, hlog⟩ := plan_eq_ok_iff.mp hplan
  dsimp only at hread hlocation hload hlog
  obtain ⟨args, hargv, hroot, hlevel, hmode⟩ := read_given hread
  obtain ⟨t, hfile, htable⟩ := Settings.load_ok hload
  obtain ⟨hsaysLevel, hsaysMode⟩ := Settings.says_of_ofTable htable
  -- Nothing that counts was left empty: there would be no location, no log or no sum.
  have hroot_ne : i.root ≠ .empty := by
    intro he
    rw [Invocation.rootLocation, he] at hlocation
    cases hlocation
  have hlevel_ne : i.level ≠ .empty := by
    intro he
    rw [Invocation.levelValue, he] at hlog
    cases hlog
  have hrun : run disk now log argv =
      Plan.outcome ⟨i, root, s, (i.log s).threshold⟩ "cli" now :=
    run_of_plan hread hlocation hload (resolveLevel_levelValue hlevel_ne s) now log
  have hmode_ne : ∀ a b m, i.task = .add a b m → m ≠ .empty := by
    rintro a b m ht rfl
    obtain ⟨failure, hfailed⟩ := perform_emptyMode a b (i.log s) now s
    have hending : (run disk now log argv).ending = .failed failure := by
      rw [hrun, ← hfailed, ← ht]
      rfl
    rw [hending] at h
    rcases h with h | h <;> cases h
  -- What is in force is what the entries hold, or else what the settings say.
  refine ⟨i, args, i.root.getD defaultRoot, root, t, i.level.getD s.logLevel,
    i.task.shownOverflow s, hread, hargv, inForce_getD hroot hroot_ne rfl, ?_, hfile,
    inForce_getD hlevel hlevel_ne hsaysLevel, ?_, ?_, ?_⟩
  · have hresolved := hlocation
    rw [rootLocation_eq hroot_ne, Invocation.rootText] at hresolved
    cases hr : (Path.ofText (i.root.getD defaultRoot)).resolve disk.host.current
        disk.host.homes with
    | error fault =>
        rw [hr] at hresolved
        cases hresolved
    | ok root' =>
        rw [hr] at hresolved
        cases hresolved
        rfl
  · intro hadd
    cases ht : i.task with
    | add a b m =>
        rw [shownOverflow_add, ← ht]
        exact inForce_getD (hmode a b m ht) (hmode_ne a b m ht) hsaysMode
    | sample =>
        rw [ht] at hadd
        cases hadd
    | greet name =>
        rw [ht] at hadd
        cases hadd
  · intro hother
    cases ht : i.task with
    | add a b m => exact absurd (by rw [ht]; rfl) hother
    | sample => exact hsaysMode
    | greet name => exact hsaysMode
  · rw [hrun]
    exact outcome_worksUnder hlevel_ne hmode_ne root s now

/-- Levels and modes asked for twice, without a settings file: the last ones count, and the sum is
refused. -/
theorem run_in_force_last :
    WorksUnder (.add (.given 2147483647) (.given 1) (.given .raise)) [] .debug .raise 0
      (run (Disk.empty (.lone [])) 0 Log.fresh
        ["add", "2147483647", "1", "--overflow=wrap", "--log-level", "error", "--verbose",
          "--overflow", "raise"]) := by
  have hread : read ["add", "2147483647", "1", "--overflow=wrap", "--log-level", "error",
      "--verbose", "--overflow", "raise"] = .ok ⟨.absent, .given .debug,
        .add (.given 2147483647) (.given 1) (.given .raise)⟩ := by cbv
  have hgiven : given .add ["2147483647", "1", "--overflow=wrap", "--log-level", "error",
      "--verbose", "--overflow", "raise"] = [⟨.overflow, some "wrap"⟩, ⟨.logLevel, some "error"⟩,
        ⟨.verbose, none⟩, ⟨.overflow, some "raise"⟩] := rfl
  have hending : (run (Disk.empty (.lone [])) 0 Log.fresh ["add", "2147483647", "1",
      "--overflow=wrap", "--log-level", "error", "--verbose", "--overflow", "raise"]).ending =
        .returned 1 := by
    rw [run_of_plan hread rfl rfl rfl]
    rfl
  -- What is in force is only known to exist; the switches leave one choice for each.
  obtain ⟨i, args, r, root, t, level, mode, hi, hargs, hr, hroot, -, hlevel, hmode, -, hworks⟩ :=
    run_in_force (.inr hending)
  cases hread.symm.trans hi
  cases hargs
  rw [show Task.command _ = Command.add from rfl, hgiven] at hr hlevel hmode
  have hroot_eq : root = [] := by
    cases hr with
    | asked ha => cases ha
    | fallback _ hdefault =>
        subst hdefault
        cases hroot
        rfl
  have hlevel_eq : level = .debug := by
    cases hlevel with
    | asked ha =>
        cases ha
        rfl
    | fallback hnone _ => cases hnone
  have hmode_eq : mode = .raise := by
    cases hmode rfl with
    | asked ha =>
        cases ha
        rfl
    | fallback hnone _ => cases hnone
  subst hroot_eq hlevel_eq hmode_eq
  exact hworks

end GreetCalc.CommandLine
