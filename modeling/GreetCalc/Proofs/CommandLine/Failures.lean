import GreetCalc.Proofs.CommandLine.Endings
import GreetCalc.Proofs.Path
import GreetCalc.Proofs.Settings.Faults
import GreetCalc.Proofs.Text.Utf8
import GreetCalc.Proofs.Toml.Numbers

/-!
# Runs that fail

A run should end with a code, whatever its arguments and the files are. It does so for arguments
that cannot be used, for a settings file that is at fault and for a sum that is refused (`Handled`).
A few things it does not handle, and then it fails (`Stray`):

* a root directory that is empty, holds the null character, or begins at the home of a user whose
  home is not known;
* a settings file whose look-up fails for another reason than that nothing is there, or that holds
  an integer of too many digits or values that stand too deep in one another;
* an empty level, overflow mode or operand.

On a machine as `Disk` describes it, with the homes that are known on it and the faults of its
files, a run ends with a code if and only if nothing strays (`run_orderly_iff`).
-/

namespace GreetCalc.CommandLine

/-! ## Sums that cannot be asked for -/

/-- A sum without a mode, or without the operand that is looked at first. -/
inductive Task.Hollow : Task → Prop
  | mode {a b : Entry Int} : Hollow (.add a b .empty)
  | left {b : Entry Int} {m : Entry OverflowMode} : Hollow (.add .empty b m)
  | right {x : Int} {m : Entry OverflowMode} : Word.Fits x → Hollow (.add (.given x) .empty m)

/-- A sum in an empty mode fails whatever its operands are, for the mode is looked at first. -/
theorem perform_emptyMode (a b : Entry Int) (log : Log) (now : Int) (s : Settings) :
    ∃ failure, (perform log now s (.add a b .empty)).1 = .failed failure := ⟨_, rfl⟩

theorem perform_hollow {t : Task} (h : t.Hollow) (log : Log) (now : Int) (s : Settings) :
    ∃ failure, (perform log now s t).1 = .failed failure := by
  cases h with
  | mode => exact perform_emptyMode _ _ log now s
  | @left b m =>
      by_cases hm : m = .empty
      · subst hm
        exact perform_emptyMode _ _ log now s
      · refine ⟨.addition (.notInteger .left (.list [])), ?_⟩
        rw [perform, overflowValue_eq hm]
        show (performSum log now (Addition.add (.list []) _ _)).1 = _
        rw [Addition.add_notInteger_left _ (by simp)]
        rfl
  | @right x m hx =>
      by_cases hm : m = .empty
      · subst hm
        exact perform_emptyMode _ _ log now s
      · refine ⟨.addition (.notInteger .right (.list [])), ?_⟩
        rw [perform, overflowValue_eq hm]
        show (performSum log now (Addition.add (.int x) (.list []) _)).1 = _
        rw [Addition.add_notInteger_right _ hx (by simp)]
        rfl

/-- A left operand that is no word is reported before the right one is looked at. -/
theorem perform_outOfRange {x : Int} (hx : ¬ Word.Fits x) (b : Entry Int) {m : Entry OverflowMode}
    (hm : m ≠ .empty) (log : Log) (now : Int) (s : Settings) :
    (perform log now s (.add (.given x) b m)).1 = .returned 1 := by
  rw [perform, overflowValue_eq hm]
  show (performSum log now (Addition.add (.int x) _ _)).1 = _
  rw [Addition.add_outOfRange _ hx]
  rfl

/-- Of a complete invocation with a root and a level, the work is hollow, or it is a sum whose left
operand is no word, or nothing is empty. -/
theorem Invocation.Complete.cases {i : Invocation} (h : i.Complete) (hroot : i.root ≠ .empty)
    (hlevel : i.level ≠ .empty) :
    i.task.Hollow ∨
    (∃ x b m, i.task = .add (.given x) b m ∧ ¬ Word.Fits x ∧ m ≠ .empty) ∨
    i.Filled := by
  cases ht : i.task with
  | sample =>
      refine .inr (.inr ⟨hroot, hlevel, ?_⟩)
      intro a b m he
      rw [ht] at he
      cases he
  | greet name =>
      refine .inr (.inr ⟨hroot, hlevel, ?_⟩)
      intro a b m he
      rw [ht] at he
      cases he
  | add a b m =>
      obtain ⟨ha, hb⟩ := h a b m ht
      by_cases hm : m = .empty
      · subst hm
        exact .inl .mode
      cases a with
      | absent => exact absurd rfl ha
      | empty => exact .inl .left
      | given x =>
          by_cases hx : Word.Fits x
          · cases b with
            | absent => exact absurd rfl hb
            | empty => exact .inl (.right hx)
            | given y =>
                refine .inr (.inr ⟨hroot, hlevel, ?_⟩)
                intro a b m' he
                rw [ht] at he
                cases he
                exact ⟨hm, x, y, rfl, rfl⟩
          · exact .inr (.inl ⟨x, b, m, rfl, hx, hm⟩)

/-! ## Roots that have no location -/

/-- The text that names the root directory. -/
def Invocation.rootText (i : Invocation) : String := i.root.getD defaultRoot

theorem rootLocation_eq {i : Invocation} (h : i.root ≠ .empty) (disk : Disk) :
    i.rootLocation disk =
      ((Path.ofText i.rootText).resolve disk.host.current disk.host.homes).mapError
        Failure.path := by
  unfold Invocation.rootLocation Invocation.rootText
  cases hr : i.root with
  | absent => rfl
  | empty => exact absurd hr h
  | given r => rfl

/-- A root has no location in three cases. -/
theorem rootLocation_error_iff (i : Invocation) (disk : Disk) :
    (∃ failure, i.rootLocation disk = .error failure) ↔
      i.root = .empty ∨ '\x00' ∈ i.rootText.toList ∨
        (Path.ofText i.rootText).AsksForUnknown disk.host.homes := by
  by_cases hr : i.root = .empty
  · refine ⟨fun _ => .inl hr, fun _ => ⟨.noRoot, ?_⟩⟩
    rw [Invocation.rootLocation, hr]
  · have hmap : ∀ x : Except Path.Fault Location,
        (∃ failure, x.mapError Failure.path = .error failure) ↔ ∃ fault, x = .error fault := by
      intro x
      cases x <;> simp [Except.mapError]
    rw [rootLocation_eq hr, hmap, Path.resolve_error_iff, Path.any_hasNull_ofText]
    exact ⟨.inr, fun h => h.resolve_left hr⟩

/-! ## Endings -/

/-- The codes that a run may end with. -/
def Ending.Orderly : Ending → Prop
  | .returned code => code = 0 ∨ code = 1 ∨ code = 2
  | .left code => code = 0 ∨ code = 2
  | .failed _ => False

/-- What a run does not handle. -/
inductive Stray (disk : Disk) (i : Invocation) : Prop
  | emptyRoot : i.root = .empty → Stray disk i
  | nullRoot : '\x00' ∈ i.rootText.toList → Stray disk i
  | userRoot : (Path.ofText i.rootText).AsksForUnknown disk.host.homes → Stray disk i
  | unreported {root : Location} : i.rootLocation disk = .ok root →
      Settings.Unreported disk ((Path.ofLocation root).child Settings.fileName) → Stray disk i
  | emptyLevel {root : Location} {s : Settings} : i.rootLocation disk = .ok root →
      Settings.load disk (Path.ofLocation root) = .ok s → i.level = .empty → Stray disk i
  | hollow {root : Location} {s : Settings} : i.rootLocation disk = .ok root →
      Settings.load disk (Path.ofLocation root) = .ok s → i.task.Hollow → Stray disk i

/-- How a run ends that handles what happens to it: it leaves at arguments that cannot be used or
that ask for help, it returns 2 for a settings file that is at fault, 1 for a sum that is refused
and 0 for all else. -/
inductive Handled (disk : Disk) (argv : List String) : Ending → Prop
  | stop {stop : Stop} : read argv = .error stop → Handled disk argv (.left stop.code)
  | settings {i : Invocation} {root : Location} {path : Path} {fault : Settings.FileFault} :
      read argv = .ok i → i.rootLocation disk = .ok root →
      Settings.load disk (Path.ofLocation root) = .error (.file path fault) →
      Handled disk argv (.returned 2)
  | operand {i : Invocation} {x : Int} {b : Entry Int} {m : Entry OverflowMode} :
      read argv = .ok i → i.task = .add (.given x) b m → ¬ Word.Fits x →
      Handled disk argv (.returned 1)
  | refused {i : Invocation} {root : Location} {s : Settings} :
      read argv = .ok i → i.rootLocation disk = .ok root →
      Settings.load disk (Path.ofLocation root) = .ok s → Refused s i.task →
      Handled disk argv (.returned 1)
  | done {i : Invocation} {root : Location} {s : Settings} :
      read argv = .ok i → i.rootLocation disk = .ok root →
      Settings.load disk (Path.ofLocation root) = .ok s → ¬ Refused s i.task →
      Handled disk argv (.returned 0)

theorem Handled.orderly {disk : Disk} {argv : List String} {e : Ending}
    (h : Handled disk argv e) : e.Orderly := by
  cases h with
  | @stop stop _ =>
      cases stop with
      | help page => exact .inl rfl
      | misuse page complaint => exact .inr rfl
  | settings => exact .inr (.inr rfl)
  | operand => exact .inr (.inl rfl)
  | refused => exact .inr (.inl rfl)
  | done => exact .inl rfl

/-- An ending that tells whether something strayed: the run failed if it did, and else has handled
what happened. -/
def Decided (disk : Disk) (argv : List String) (i : Invocation) (e : Ending) : Prop :=
  (Stray disk i ∧ ∃ failure, e = .failed failure) ∨ (¬ Stray disk i ∧ Handled disk argv e)

/-! ## Runs of accepted arguments -/

section Accepted

variable {disk : Disk} {argv : List String} {i : Invocation} {root : Location}

/-- Where the root has a location, only loading and what comes after it can stray. -/
theorem Stray.of_located (hr : i.rootLocation disk = .ok root) (h : Stray disk i) :
    Settings.Unreported disk ((Path.ofLocation root).child Settings.fileName) ∨
    ∃ s, Settings.load disk (Path.ofLocation root) = .ok s ∧
      (i.level = .empty ∨ i.task.Hollow) := by
  have hnone : ¬ (i.root = .empty ∨ '\x00' ∈ i.rootText.toList ∨
      (Path.ofText i.rootText).AsksForUnknown disk.host.homes) := by
    rw [← rootLocation_error_iff i disk, hr]
    rintro ⟨failure, he⟩
    cases he
  cases h with
  | emptyRoot h => exact absurd (.inl h) hnone
  | nullRoot h => exact absurd (.inr (.inl h)) hnone
  | userRoot h => exact absurd (.inr (.inr h)) hnone
  | unreported hr' h =>
      rw [hr] at hr'
      cases hr'
      exact .inl h
  | emptyLevel hr' hl h =>
      rw [hr] at hr'
      cases hr'
      exact .inr ⟨_, hl, .inl h⟩
  | hollow hr' hl h =>
      rw [hr] at hr'
      cases hr'
      exact .inr ⟨_, hl, .inr h⟩

/-- If loading fails, a fault of the file is handled and any other strays. -/
theorem run_of_unloaded {fault : Settings.LoadFault} (h : read argv = .ok i)
    (hr : i.rootLocation disk = .ok root)
    (hl : Settings.load disk (Path.ofLocation root) = .error fault) (now : Int) (log : Log) :
    Decided disk argv i (run disk now log argv).ending := by
  rw [run_of_loadFault h hr hl]
  have hiff := Settings.load_unreported_iff disk (Path.ofLocation root)
  by_cases hfile : fault.IsFile
  · -- What loading ends with is determined, so a fault of the file is no other fault.
    obtain ⟨path, f, rfl⟩ := hfile
    refine .inr ⟨fun hstray => ?_, .settings h hr hl⟩
    rcases hstray.of_located hr with hun | ⟨s, hs, -⟩
    · obtain ⟨fault, hl', hno⟩ := hiff.mpr hun
      rw [hl] at hl'
      cases hl'
      exact hno ⟨path, f, rfl⟩
    · rw [hl] at hs
      cases hs
  · refine .inl ⟨.unreported hr (hiff.mp ⟨fault, hl, hfile⟩), .load fault, ?_⟩
    cases fault with
    | file path f => exact absurd ⟨path, f, rfl⟩ hfile
    | lookUp path f => rfl
    | tooManyDigits n => rfl
    | tooDeep => rfl

/-- With settings, only what is empty can stray. -/
theorem run_of_loaded {s : Settings} (h : read argv = .ok i)
    (hr : i.rootLocation disk = .ok root)
    (hl : Settings.load disk (Path.ofLocation root) = .ok s) (now : Int) (log : Log) :
    Decided disk argv i (run disk now log argv).ending := by
  -- After loading come the level, the mode and the operands, in this order.
  by_cases hlevel : i.level = .empty
  · refine .inl ⟨.emptyLevel hr hl hlevel, .level (.noCase (.list [])), ?_⟩
    have hvalue : i.levelValue s = .list [] := by rw [Invocation.levelValue, hlevel]; rfl
    rw [run_of_levelFault h hr hl (by rw [hvalue]; rfl)]
  rw [run_of_plan h hr hl (resolveLevel_levelValue hlevel s)]
  by_cases hhollow : i.task.Hollow
  · exact .inl ⟨.hollow hr hl hhollow, perform_hollow hhollow _ _ _⟩
  have hstray : ¬ Stray disk i := by
    intro hstray
    rcases hstray.of_located hr with hun | ⟨_, _, he | he⟩
    · obtain ⟨fault, hl', -⟩ := (Settings.load_unreported_iff _ _).mpr hun
      rw [hl] at hl'
      cases hl'
    · exact hlevel he
    · exact hhollow he
  have hroot : i.root ≠ .empty := fun he => hstray (.emptyRoot he)
  refine .inr ⟨hstray, ?_⟩
  rcases ((read_complete h).cases hroot hlevel).resolve_left hhollow with
    ⟨x, b, m, ht, hx, hm⟩ | hfilled
  · have hending : (perform (i.log s) now s i.task).1 = .returned 1 := by
      rw [ht]
      exact perform_outOfRange hx b hm _ _ _
    show Handled disk argv (perform (i.log s) now s i.task).1
    rw [hending]
    exact .operand h ht hx
  · -- Nothing is empty, so the run goes through as one without the marker does.
    have hthrough := outcome_goesThrough hfilled root s now
    rcases hthrough.code with hcode | hcode
    · have hnot : ¬ Refused s i.task := by
        intro hrefused
        rw [hthrough.refused.mpr hrefused] at hcode
        cases hcode
      rw [hcode]
      exact .done h hr hl hnot
    · rw [hcode]
      exact .refused h hr hl (hthrough.refused.mp hcode)

/-- The ending of a run of accepted arguments tells whether something strayed. -/
theorem run_accepted (h : read argv = .ok i) (disk : Disk) (now : Int) (log : Log) :
    Decided disk argv i (run disk now log argv).ending := by
  cases hr : i.rootLocation disk with
  | error failure =>
      refine .inl ⟨?_, failure, by rw [run_of_noLocation h hr]⟩
      rcases (rootLocation_error_iff i disk).mp ⟨failure, hr⟩ with he | he | he
      · exact .emptyRoot he
      · exact .nullRoot he
      · exact .userRoot he
  | ok root =>
      cases hl : Settings.load disk (Path.ofLocation root) with
      | error fault => exact run_of_unloaded h hr hl now log
      | ok s => exact run_of_loaded h hr hl now log

end Accepted

/-- **Orderly ends.** A run ends with one of the codes if and only if its arguments are not accepted
or nothing strays, and a run that ends so has handled what happened to it. -/
theorem run_orderly_iff (disk : Disk) (now : Int) (log : Log) (argv : List String) :
    ((run disk now log argv).ending.Orderly ↔ ∀ i, read argv = .ok i → ¬ Stray disk i) ∧
    ((run disk now log argv).ending.Orderly →
      Handled disk argv (run disk now log argv).ending) := by
  cases h : read argv with
  | error stop =>
      have hhandled : Handled disk argv (run disk now log argv).ending := by
        rw [run_of_stop h]
        exact .stop h
      refine ⟨⟨fun _ i hi => ?_, fun _ => hhandled.orderly⟩, fun _ => hhandled⟩
      cases hi
  | ok i =>
      rcases run_accepted h disk now log with
        ⟨hstray, failure, hfailed⟩ | ⟨hstray, hhandled⟩
      · have hnot : ¬ (run disk now log argv).ending.Orderly := by
          rw [hfailed]
          exact id
        exact ⟨⟨fun ho => absurd ho hnot, fun hall => absurd hstray (hall i rfl)⟩,
          fun ho => absurd ho hnot⟩
      · refine ⟨⟨fun _ j hj => ?_, fun _ => hhandled.orderly⟩, fun _ => hhandled⟩
        cases hj
        exact hstray

/-! ## A long integer -/

/-- A settings file that sets the name to an integer of `n` ones. -/
def onesText (n : Nat) : List Char :=
  "default_name".toList ++ ([' '] ++ '=' :: ([' '] ++ List.replicate n '1')) ++ ['\n']

/-- Such a file is not read if the integer has too many digits. -/
theorem parse_onesText {n : Nat} (h : Decimal.digitLimit < n) (room : Nat) :
    Toml.parse room (onesText n) = .error (.tooManyDigits n) := by
  obtain ⟨m, rfl⟩ : ∃ m, n = m + 1 := Nat.exists_eq_add_one_of_ne_zero (Nat.ne_zero_of_lt h)
  have hlen : ('1' :: List.replicate m '1').length = m + 1 := by simp
  have hdigits : ∀ e ∈ '1' :: List.replicate m '1', Text.isAsciiDigit e = true := by
    intro e he
    rw [← List.replicate_succ] at he
    rw [List.eq_of_mem_replicate he]
    decide
  have hkey : Toml.BareKey "default_name" := by decide
  have hnone : Toml.Blanks [] := by decide
  have hspace : Toml.Blanks [' '] := by decide
  have hlong : Decimal.digitLimit < ('1' :: List.replicate m '1').length := by omega
  have hparse : Toml.parse room _ = .error (.tooManyDigits _) :=
    Toml.parse_tooManyDigits hkey hnone hspace hspace hdigits (by decide) hlong []
  rw [hlen, List.nil_append] at hparse
  exact hparse

/-- A run that finds such a file fails, although it only greets. -/
theorem run_onesText {n : Nat} (h : Decimal.digitLimit < n) (now : Int) (log : Log) :
    (run (Settings.diskWith (Text.Utf8.encode (onesText n))) now log ["greet"]).ending =
      .failed (.load (.tooManyDigits n)) := by
  have hread : read ["greet"] = .ok ⟨.absent, .absent, .greet none⟩ := by cbv
  have hload :
      Settings.load (Settings.diskWith (Text.Utf8.encode (onesText n))) (Path.ofLocation []) =
        .error (.tooManyDigits n) := by
    rw [Settings.load_diskWith, Settings.ofOctets, Text.Utf8.decode_encode]
    simp only [parse_onesText h]
  rw [run_of_loadFault hread rfl hload]
  rfl

/-- An integer of one digit more than the limit makes a run fail that only greets. -/
theorem run_longInteger_not_orderly :
    ¬ (run (Settings.diskWith (Text.Utf8.encode (onesText 4301))) 0 Log.fresh
      ["greet"]).ending.Orderly := by
  rw [run_onesText (by decide)]
  exact id

end GreetCalc.CommandLine
