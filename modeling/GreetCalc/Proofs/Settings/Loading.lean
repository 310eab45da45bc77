import GreetCalc.Proofs.Settings.Faults
import GreetCalc.Proofs.Text.WellFormed

/-!
# What loading settings comes to

A settings file may be missing, closed to its reader, no UTF-8, no document or against the schema,
and more than one of these at once. The first of them in this order is what counts
(`load_classified`). Octets and documents are judged by `ofOctets`, which has one lemma for each way
it can end, in terms of what the octets and the text are.
-/

namespace GreetCalc.Settings

open Text.Utf8 (WellFormed encode)

/-- A document is read as its reader promises: it describes a table, or it is malformed at some
place. -/
def Settled (room : Nat) (text : List Char) : Prop :=
  (∃ t, Toml.parse room text = .ok t) ∨
    ∃ cause place, Toml.parse room text = .error (.malformed cause place)

/-! ## Octets -/

section Octets

variable {room : Nat} {path : Path} {bs : List UInt8} {text : List Char}

theorem ofOctets_of_error {f : Text.Utf8.Fault} (h : Text.Utf8.decode bs = .error f) :
    ofOctets room path bs = .error (.file path (.notUtf8 f)) := by
  rw [ofOctets, h]

theorem ofOctets_eq_notUtf8 {f : Text.Utf8.Fault}
    (h : ofOctets room path bs = .error (.file path (.notUtf8 f))) :
    Text.Utf8.decode bs = .error f := by
  have hjudged := judged_ofOctets room path bs
  rw [h] at hjudged
  cases hjudged with
  | notUtf8 hdecode => exact hdecode

/-- Octets are reported as not being UTF-8 exactly if they are not. -/
theorem exists_ofOctets_eq_notUtf8_iff :
    (∃ f, ofOctets room path bs = .error (.file path (.notUtf8 f))) ↔ ¬ WellFormed bs := by
  rw [← Text.Utf8.exists_decode_error_iff]
  exact exists_congr fun f => ⟨ofOctets_eq_notUtf8, ofOctets_of_error⟩

/-- A fault of the file names the path of this file. -/
theorem Judged.path_eq {p : Path} {fault : FileFault}
    (h : Judged room path bs (.error (.file p fault))) : p = path := by
  cases h <;> rfl

variable (htext : encode text = bs)

include htext

/-- A well-formed text is reported as malformed exactly if it is no document. -/
theorem ofOctets_eq_malformed_iff {cause : Toml.Cause} {place : Option (Nat × Nat)} :
    ofOctets room path bs = .error (.file path (.malformed cause place)) ↔
      Toml.parse room text = .error (.malformed cause place) := by
  rw [ofOctets, Text.Utf8.decode_eq_ok_iff.mpr htext]
  dsimp only
  cases Toml.parse room text with
  | error problem => cases problem <;> simp
  | ok t => cases htable : ofTable t <;> simp [htable]

/-- A document is reported as invalid exactly if its table does not meet the schema. -/
theorem ofOctets_eq_invalid_iff {report : Validation.Report} :
    ofOctets room path bs = .error (.file path (.invalid report)) ↔
      ∃ t, Toml.parse room text = .ok t ∧ ofTable t = .error report := by
  rw [ofOctets, Text.Utf8.decode_eq_ok_iff.mpr htext]
  dsimp only
  cases Toml.parse room text with
  | error problem => cases problem <;> simp
  | ok t => cases htable : ofTable t <;> simp [htable]

/-- Settings are read exactly from documents that meet the schema. -/
theorem ofOctets_eq_ok_iff {s : Settings} :
    ofOctets room path bs = .ok s ↔ ∃ t, Toml.parse room text = .ok t ∧ ofTable t = .ok s := by
  rw [ofOctets, Text.Utf8.decode_eq_ok_iff.mpr htext]
  dsimp only
  cases Toml.parse room text with
  | error problem => cases problem <;> simp
  | ok t => cases htable : ofTable t <;> simp [htable]

/-- A settled text comes to settings or to a fault of the file. -/
theorem ofOctets_of_settled (h : Settled room text) :
    (∃ s, ofOctets room path bs = .ok s) ∨
      ∃ fault, ofOctets room path bs = .error (.file path fault) := by
  rcases h with ⟨t, hparse⟩ | ⟨cause, place, hparse⟩
  · cases htable : ofTable t with
    | ok s => exact .inl ⟨s, (ofOctets_eq_ok_iff htext).mpr ⟨t, hparse, htable⟩⟩
    | error report => exact .inr ⟨_, (ofOctets_eq_invalid_iff htext).mpr ⟨t, hparse, htable⟩⟩
  · exact .inr ⟨_, (ofOctets_eq_malformed_iff htext).mpr hparse⟩

end Octets

/-! ## Files -/

section Files

variable {disk : Disk} {root : Path} {content : List UInt8}

theorem load_of_no_file
    (hlookup : ∀ fault, disk.files.find disk.host.current (root.child fileName) = .failed fault →
      fault.IsAbsence)
    (h : ∀ content,
      disk.files.find disk.host.current (root.child fileName) ≠ .found (.file content)) :
    load disk root = .ok {} := by
  unfold load
  dsimp only
  split
  · next hfind => exact if_pos (hlookup _ hfind)
  · next hfind => exact absurd hfind (h _)
  · rfl

/-- A file that cannot be opened is reported, whatever it holds. -/
theorem load_of_openFault {e : SystemFault}
    (hfile : disk.files.find disk.host.current (root.child fileName) = .found (.file content))
    (hopen : disk.openFault = some e) :
    load disk root = .error (.file (root.child fileName) (.unreadable e)) := by
  simp only [load, hfile, hopen]

theorem load_of_file
    (hfile : disk.files.find disk.host.current (root.child fileName) = .found (.file content))
    (hopen : disk.openFault = none) :
    load disk root = ofOctets disk.host.readRoom (root.child fileName) content := by
  simp only [load, hfile, hopen]

/-- A fault of the file is about the settings file of the root directory. -/
theorem path_of_load {p : Path} {fault : FileFault} (h : load disk root = .error (.file p fault)) :
    p = root.child fileName := by
  have hloaded := loaded_load disk root
  rw [h] at hloaded
  cases hloaded with
  | closed => rfl
  | file _ _ hjudged => exact hjudged.path_eq

end Files

/-- **What loading comes to.** Let the settings file of a root directory be one that can be looked
up: a look-up may fail only because nothing is there. Without such a file the standard settings
hold, whether or not files can be opened. A file that cannot be opened is reported with the system's
fault. The octets of any other file are first judged as UTF-8, and the fault is then at the end of
their longest beginning that is well formed. The text is then judged as a document, its table by the
schema, and what is accepted is loaded. If the reader of documents keeps its promise for the text,
these are all the cases. Every fault of the file names its path, after words that say of which sort
it is. -/
theorem load_classified {disk : Disk} {root path : Path}
    (hpath : path = root.child "mathgreet.toml")
    (hlookup : ∀ fault, disk.files.find disk.host.current path = .failed fault →
      fault.IsAbsence) :
    ((∀ content, disk.files.find disk.host.current path ≠ .found (.file content)) →
      load disk root = .ok ⟨.wrap, "World", .warning⟩) ∧
    (∀ content, disk.files.find disk.host.current path = .found (.file content) →
      (∀ e, disk.openFault = some e → load disk root = .error (.file path (.unreadable e))) ∧
      (disk.openFault = none →
        ((∃ f, load disk root = .error (.file path (.notUtf8 f))) ↔ ¬ WellFormed content) ∧
        (∀ f, load disk root = .error (.file path (.notUtf8 f)) →
          IsGreatest {n | n ≤ content.length ∧ WellFormed (content.take n)} f.position) ∧
        ∀ text, encode text = content →
          (∀ cause place,
            load disk root = .error (.file path (.malformed cause place)) ↔
              Toml.parse disk.host.readRoom text = .error (.malformed cause place)) ∧
          (∀ report,
            load disk root = .error (.file path (.invalid report)) ↔
              ∃ t, Toml.parse disk.host.readRoom text = .ok t ∧ ofTable t = .error report) ∧
          (∀ s, load disk root = .ok s ↔
            ∃ t, Toml.parse disk.host.readRoom text = .ok t ∧ ofTable t = .ok s) ∧
          (Settled disk.host.readRoom text →
            (∃ s, load disk root = .ok s) ∨
              ∃ fault, load disk root = .error (.file path fault)))) ∧
    (∀ p fault, load disk root = .error (.file p fault) →
      p = path ∧
      ∀ room, (LoadFault.file p fault).message room = match fault with
        | .unreadable e => "Cannot read " ++ path.text ++ ": " ++ e.message path
        | .notUtf8 f => "Invalid TOML in " ++ path.text ++ ": " ++ f.message
        | .malformed cause place =>
          "Invalid TOML in " ++ path.text ++ ": " ++ Toml.malformedMessage cause place
        | .invalid report => "Invalid config in " ++ path.text ++ ": " ++ report.message room) := by
  subst hpath
  refine ⟨load_of_no_file hlookup, ?_, ?_⟩
  · intro content hfile
    refine ⟨fun e => load_of_openFault hfile, ?_⟩
    intro hopen
    rw [load_of_file hfile hopen]
    refine ⟨exists_ofOctets_eq_notUtf8_iff, ?_, ?_⟩
    · intro f hf
      exact Text.Utf8.isGreatest_position (ofOctets_eq_notUtf8 hf)
    · intro text htext
      -- Only one text has these octets, so the file is judged as this text is.
      exact ⟨fun _ _ => ofOctets_eq_malformed_iff htext, fun _ => ofOctets_eq_invalid_iff htext,
        fun _ => ofOctets_eq_ok_iff htext, ofOctets_of_settled htext⟩
  · intro p fault h
    obtain rfl := path_of_load h
    refine ⟨rfl, fun room => ?_⟩
    cases fault <;> rfl

theorem find_diskWith (content : List UInt8) :
    (diskWith content).files.find [] ⟨.top, ["mathgreet.toml"]⟩ = .found (.file content) := by
  rfl

/-- What would be a malformed document ends inside a character of three octets. It is reported for
its octets, and the fault is where this character begins. The first octet alone is reported as the
malformed document that it is. -/
theorem load_classified_truncated :
    load (diskWith [0x3d, 0xc3, 0xa9, 0xe2, 0x82]) ⟨.top, []⟩ =
      .error (.file ⟨.top, ["mathgreet.toml"]⟩ (.notUtf8 ⟨3, 0xe2, 1, .ending⟩)) ∧
    IsGreatest {n | n ≤ 5 ∧ WellFormed ([0x3d, 0xc3, 0xa9, 0xe2, 0x82].take n)} 3 ∧
    (LoadFault.file ⟨.top, ["mathgreet.toml"]⟩ (.notUtf8 ⟨3, 0xe2, 1, .ending⟩)).message 0 =
      "Invalid TOML in /mathgreet.toml: "
        ++ "'utf-8' codec can't decode bytes in position 3-4: unexpected end of data" ∧
    Settled 0 ['='] ∧
    load (diskWith [0x3d]) ⟨.top, []⟩ =
      .error (.file ⟨.top, ["mathgreet.toml"]⟩ (.malformed .invalidStatement (some (1, 1)))) := by
  have hlookup : ∀ (content : List UInt8) (fault : SystemFault),
      (diskWith content).files.find [] ⟨.top, ["mathgreet.toml"]⟩ = .failed fault →
      fault.IsAbsence := by
    intro content fault hfailed
    rw [find_diskWith] at hfailed
    cases hfailed
  have hdecode : Text.Utf8.decode [0x3d, 0xc3, 0xa9, 0xe2, 0x82] = .error ⟨3, 0xe2, 1, .ending⟩ :=
    rfl
  have hload : load (diskWith [0x3d, 0xc3, 0xa9, 0xe2, 0x82]) ⟨.top, []⟩ =
      .error (.file ⟨.top, ["mathgreet.toml"]⟩ (.notUtf8 ⟨3, 0xe2, 1, .ending⟩)) :=
    (load_of_file (find_diskWith _) rfl).trans (ofOctets_of_error hdecode)
  have hparse : Toml.parse 0 ['='] = .error (.malformed .invalidStatement (some (1, 1))) := by cbv
  obtain ⟨-, htruncated, hwords⟩ := @load_classified
    (diskWith [0x3d, 0xc3, 0xa9, 0xe2, 0x82]) ⟨.top, []⟩ _ rfl (hlookup _)
  obtain ⟨-, hmalformed, -⟩ := @load_classified (diskWith [0x3d]) ⟨.top, []⟩ _ rfl (hlookup _)
  refine ⟨hload, ((htruncated _ (find_diskWith _)).2 rfl).2.1 _ hload, ?_, .inr ⟨_, _, hparse⟩, ?_⟩
  · rw [(hwords _ _ hload).2 0]
    decide +kernel
  · exact ((((hmalformed _ (find_diskWith _)).2 rfl).2.2 ['='] (by decide)).1 _ _).mpr hparse

end GreetCalc.Settings
