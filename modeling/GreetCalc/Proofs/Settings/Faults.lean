import GreetCalc.Settings.File

/-!
# How loading can end

The octets of a settings file and the loading of settings each end by one of a few rules, which say
what was found on the way (`Judged`, `Loaded`). All that is known of an ending follows from the rule
that it goes by.

Most of what can be wrong with a settings file is a fault of the file and names its path. A path
that cannot be looked up and a document that asks too much of its reader are not (`Unreported`);
these are all the cases (`load_unreported_iff`).
-/

namespace GreetCalc.Settings

/-! ## The rules -/

/-- What the octets of the settings file at a path come to. -/
inductive Judged (room : Nat) (path : Path) (bs : List UInt8) : Except LoadFault Settings → Prop
  | notUtf8 {f : Text.Utf8.Fault} : Text.Utf8.decode bs = .error f →
      Judged room path bs (.error (.file path (.notUtf8 f)))
  | tooManyDigits {text : List Char} {n : Nat} : Text.Utf8.decode bs = .ok text →
      Toml.parse room text = .error (.tooManyDigits n) →
      Judged room path bs (.error (.tooManyDigits n))
  | tooDeep {text : List Char} : Text.Utf8.decode bs = .ok text →
      Toml.parse room text = .error .tooDeep → Judged room path bs (.error .tooDeep)
  | malformed {text : List Char} {cause : Toml.Cause} {place : Option (Nat × Nat)} :
      Text.Utf8.decode bs = .ok text → Toml.parse room text = .error (.malformed cause place) →
      Judged room path bs (.error (.file path (.malformed cause place)))
  | invalid {text : List Char} {t : Table} {report : Validation.Report} :
      Text.Utf8.decode bs = .ok text → Toml.parse room text = .ok t → ofTable t = .error report →
      Judged room path bs (.error (.file path (.invalid report)))
  | settings {text : List Char} {t : Table} {s : Settings} : Text.Utf8.decode bs = .ok text →
      Toml.parse room text = .ok t → ofTable t = .ok s → Judged room path bs (.ok s)

theorem judged_ofOctets (room : Nat) (path : Path) (bs : List UInt8) :
    Judged room path bs (ofOctets room path bs) := by
  unfold ofOctets
  split
  · next hdecode => exact .notUtf8 hdecode
  · next hdecode =>
    split
    · next hparse => exact .tooManyDigits hdecode hparse
    · next hparse => exact .tooDeep hdecode hparse
    · next hparse => exact .malformed hdecode hparse
    · next hparse =>
      split
      · next htable => exact .invalid hdecode hparse htable
      · next htable => exact .settings hdecode hparse htable

/-- What loading the settings of a root directory comes to. -/
inductive Loaded (disk : Disk) (root : Path) : Except LoadFault Settings → Prop
  | missing : (∀ content,
      disk.files.find disk.host.current (root.child fileName) ≠ .found (.file content)) →
      Loaded disk root (.ok {})
  | lookUp {fault : SystemFault} :
      disk.files.find disk.host.current (root.child fileName) = .failed fault →
      ¬ fault.IsAbsence → Loaded disk root (.error (.lookUp (root.child fileName) fault))
  | closed {content : List UInt8} {fault : SystemFault} :
      disk.files.find disk.host.current (root.child fileName) = .found (.file content) →
      disk.openFault = some fault →
      Loaded disk root (.error (.file (root.child fileName) (.unreadable fault)))
  | file {content : List UInt8} {r : Except LoadFault Settings} :
      disk.files.find disk.host.current (root.child fileName) = .found (.file content) →
      disk.openFault = none → Judged disk.host.readRoom (root.child fileName) content r →
      Loaded disk root r

theorem loaded_load (disk : Disk) (root : Path) : Loaded disk root (load disk root) := by
  unfold load
  dsimp only
  split
  · next fault hfind =>
    by_cases habsence : fault.IsAbsence
    · rw [if_pos habsence]
      exact .missing (by simp [hfind])
    · rw [if_neg habsence]
      exact .lookUp hfind habsence
  · next hfind =>
    split
    · next hopen => exact .closed hfind hopen
    · next hopen => exact .file hfind hopen (judged_ofOctets _ _ _)
  · next hfind => exact .missing hfind

/-! ## Faults that are not of the file -/

/-- What the settings file at a path may be that is not reported as its fault. -/
inductive Unreported (disk : Disk) (path : Path) : Prop
  | lookUp {fault : SystemFault} : disk.files.find disk.host.current path = .failed fault →
      ¬ fault.IsAbsence → Unreported disk path
  | tooManyDigits {content : List UInt8} {text : List Char} {n : Nat} :
      disk.files.find disk.host.current path = .found (.file content) → disk.openFault = none →
      Text.Utf8.decode content = .ok text →
      Toml.parse disk.host.readRoom text = .error (.tooManyDigits n) → Unreported disk path
  | tooDeep {content : List UInt8} {text : List Char} :
      disk.files.find disk.host.current path = .found (.file content) → disk.openFault = none →
      Text.Utf8.decode content = .ok text →
      Toml.parse disk.host.readRoom text = .error .tooDeep → Unreported disk path

/-- A fault that is about the settings file. -/
def LoadFault.IsFile (fault : LoadFault) : Prop := ∃ path f, fault = .file path f

/-- Loading ends in a fault that is not about the file in these cases and no others. -/
theorem load_unreported_iff (disk : Disk) (root : Path) :
    (∃ fault, load disk root = .error fault ∧ ¬ fault.IsFile) ↔
      Unreported disk (root.child fileName) := by
  constructor
  · rintro ⟨fault, h, hfile⟩
    have hloaded := loaded_load disk root
    rw [h] at hloaded
    cases hloaded with
    | lookUp hfind habsence => exact .lookUp hfind habsence
    | closed => exact absurd ⟨_, _, rfl⟩ hfile
    | file hfind hopen hjudged =>
        cases hjudged with
        | notUtf8 => exact absurd ⟨_, _, rfl⟩ hfile
        | tooManyDigits hdecode hparse => exact .tooManyDigits hfind hopen hdecode hparse
        | tooDeep hdecode hparse => exact .tooDeep hfind hopen hdecode hparse
        | malformed => exact absurd ⟨_, _, rfl⟩ hfile
        | invalid => exact absurd ⟨_, _, rfl⟩ hfile
  · intro h
    cases h with
    | @lookUp fault hfind habsence =>
        refine ⟨.lookUp (root.child fileName) fault, ?_, ?_⟩
        · simp only [load, hfind, if_neg habsence]
        · rintro ⟨_, _, he⟩
          cases he
    | @tooManyDigits _ _ n hfind hopen hdecode hparse =>
        refine ⟨.tooManyDigits n, by simp only [load, hfind, hopen, ofOctets, hdecode, hparse], ?_⟩
        rintro ⟨_, _, he⟩
        cases he
    | tooDeep hfind hopen hdecode hparse =>
        refine ⟨.tooDeep, by simp only [load, hfind, hopen, ofOctets, hdecode, hparse], ?_⟩
        rintro ⟨_, _, he⟩
        cases he

/-- A machine with a settings file at its top and nothing else. -/
def diskWith (content : List UInt8) : Disk :=
  ⟨⟨[(["mathgreet.toml"], .file content)]⟩, .lone [], none⟩

theorem load_diskWith (content : List UInt8) :
    load (diskWith content) (Path.ofLocation []) =
      ofOctets 0 ((Path.ofLocation []).child fileName) content := rfl

end GreetCalc.Settings
