import GreetCalc.Proofs.Settings.Faults

/-!
# What loaded settings say

Settings that are loaded come from the table that the settings file holds, or from the empty table
where there is no file (`load_ok`). Key by key they are what the table says, and the standard where
it is silent (`says_of_ofTable`).
-/

namespace GreetCalc.Settings

/-- The table in the settings file of a root directory, which is empty where there is no file. -/
inductive FileHolds (disk : Disk) (root : Path) : Table → Prop
  | missing : (∀ content,
      disk.files.find disk.host.current (root.child fileName) ≠ .found (.file content)) →
      FileHolds disk root []
  | file {content : List UInt8} {text : List Char} {t : Table} :
      disk.files.find disk.host.current (root.child fileName) = .found (.file content) →
      disk.openFault = none → Text.Utf8.decode content = .ok text →
      Toml.parse disk.host.readRoom text = .ok t → FileHolds disk root t

/-- A value is what stands under a key by its spelling, or the standard one if nothing does. -/
inductive Says {α : Type} (t : Table) (key : String) (text : α → String) (standard : α) :
    α → Prop
  | said {a : α} : t.get? key = some (.text (text a)) → Says t key text standard a
  | silent : t.get? key = none → Says t key text standard standard

theorem says_of_field {α : Type} {read : Value → Except Validation.Complaint α} {key : String}
    {standard a : α} {t : Table} {text : α → String}
    (hread : ∀ {v a}, read v = .ok a → v = .text (text a))
    (h : field read key standard t = .ok a) : Says t key text standard a := by
  unfold field at h
  split at h
  · next hnone =>
    cases h
    exact .silent hnone
  · next v hv =>
    cases hr : read v with
    | error c =>
        rw [hr] at h
        cases h
    | ok b =>
        rw [hr] at h
        cases h
        exact .said (by rw [hv, hread hr])

theorem readChoice_ok {α : Type} {all : List α} {spelling : α → String} {v : Value} {a : α}
    (h : readChoice all spelling v = .ok a) : v = .text (spelling a) := by
  unfold readChoice at h
  split at h
  · next s =>
    split at h
    · next b hb =>
      cases h
      have : spelling a = s := by simpa using List.find?_some hb
      rw [this]
    · cases h
  · cases h

/-- A table is read setting by setting. -/
theorem ofTable_eq_ok_iff {t : Table} {s : Settings} :
    ofTable t = .ok s ↔
      field readOverflow "overflow" .wrap t = .ok s.overflow ∧
      field readName "default_name" "World" t = .ok s.defaultName ∧
      field readLevel "log_level" .warning t = .ok s.logLevel ∧ extraFaults t = [] := by
  constructor
  · intro h
    unfold ofTable at h
    dsimp only at h
    split at h
    · next o n l ho hn hl hextra =>
      cases h
      exact ⟨ho, hn, hl, hextra⟩
    · cases h
  · rintro ⟨ho, hn, hl, hextra⟩
    simp only [ofTable, ho, hn, hl, hextra]

/-- Settings say what their table says, key by key. -/
theorem says_of_ofTable {t : Table} {s : Settings} (h : ofTable t = .ok s) :
    Says t "log_level" LevelName.text .warning s.logLevel ∧
    Says t "overflow" OverflowMode.text .wrap s.overflow := by
  obtain ⟨ho, -, hl, -⟩ := ofTable_eq_ok_iff.mp h
  exact ⟨says_of_field readChoice_ok hl, says_of_field readChoice_ok ho⟩

theorem load_ok {disk : Disk} {root : Path} {s : Settings} (h : load disk root = .ok s) :
    ∃ t, FileHolds disk root t ∧ ofTable t = .ok s := by
  have hloaded := loaded_load disk root
  rw [h] at hloaded
  cases hloaded with
  | missing hnone => exact ⟨[], .missing hnone, rfl⟩
  | file hfind hopen hjudged =>
      cases hjudged with
      | settings hdecode hparse htable =>
          exact ⟨_, .file hfind hopen hdecode hparse, htable⟩

end GreetCalc.Settings
