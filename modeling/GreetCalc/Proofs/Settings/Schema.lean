import GreetCalc.Proofs.Settings.Contents
import GreetCalc.Proofs.Settings.RoundTrip
import GreetCalc.Proofs.Text.WellFormed

/-!
# The schema of settings

`Meets` says what may stand under the keys of settings, and `Blamed` what is complained of where
something else does. That each setting is read by the schema is one fact about its reader
(`Judges`), with one theorem for the two that are choices and one for the name.
-/

namespace GreetCalc.Settings

open Validation

/-! ## The schema -/

/-- What may stand under the keys of settings. -/
inductive Meets : String → Value → Prop
  | overflow (m : OverflowMode) : Meets "overflow" (.text m.text)
  | name (s : String) : Meets "default_name" (.text s)
  | encodedName (cs : List Char) : Meets "default_name" (.bytes (Text.Utf8.encode cs))
  | level (l : LevelName) : Meets "log_level" (.text l.text)

/-- What is complained of where a value under a key does not meet the schema. -/
inductive Blamed : String → Value → Complaint → Prop
  | overflow {v : Value} : ¬ Meets "overflow" v →
      Blamed "overflow" v (.choice ["wrap", "raise"])
  | name {v : Value} : ¬ Meets "default_name" v → (∀ bs, v ≠ .bytes bs) →
      Blamed "default_name" v .notText
  | encodedName {bs : List UInt8} : ¬ Meets "default_name" (.bytes bs) →
      Blamed "default_name" (.bytes bs) .notUnicode
  | level {v : Value} : ¬ Meets "log_level" v →
      Blamed "log_level" v (.choice ["debug", "info", "warning", "error", "critical"])

/-- The schema by its keys. -/
theorem meets_iff {k : String} {v : Value} : Meets k v ↔
    (k = "overflow" ∧ ∃ m : OverflowMode, v = .text m.text) ∨
    (k = "default_name" ∧ ((∃ s, v = .text s) ∨ ∃ cs, v = .bytes (Text.Utf8.encode cs))) ∨
    (k = "log_level" ∧ ∃ l : LevelName, v = .text l.text) := by
  constructor
  · intro h
    cases h with
    | overflow m => exact .inl ⟨rfl, m, rfl⟩
    | name s => exact .inr (.inl ⟨rfl, .inl ⟨s, rfl⟩⟩)
    | encodedName cs => exact .inr (.inl ⟨rfl, .inr ⟨cs, rfl⟩⟩)
    | level l => exact .inr (.inr ⟨rfl, l, rfl⟩)
  · rintro (⟨rfl, m, rfl⟩ | ⟨rfl, ⟨s, rfl⟩ | ⟨cs, rfl⟩⟩ | ⟨rfl, l, rfl⟩)
    · exact .overflow m
    · exact .name s
    · exact .encodedName cs
    · exact .level l

theorem meets_overflow_iff {v : Value} :
    Meets "overflow" v ↔ ∃ m : OverflowMode, v = .text m.text := by simp [meets_iff]

theorem meets_level_iff {v : Value} :
    Meets "log_level" v ↔ ∃ l : LevelName, v = .text l.text := by simp [meets_iff]

theorem meets_name_iff {v : Value} : Meets "default_name" v ↔
    (∃ s, v = .text s) ∨ ∃ cs, v = .bytes (Text.Utf8.encode cs) := by simp [meets_iff]

theorem Meets.mem_keys {k : String} {v : Value} (h : Meets k v) : k ∈ keys := by
  cases h <;> decide

theorem Blamed.not_meets {k : String} {v : Value} {c : Complaint} (h : Blamed k v c) :
    ¬ Meets k v := by
  cases h <;> assumption

/-! ## Readers -/

/-- A reader accepts what meets the schema under a key, and complains of everything else as it
should. -/
structure Judges {α : Type} (key : String) (read : Value → Except Complaint α) : Prop where
  accepts : ∀ {v a}, read v = .ok a → Meets key v
  refuses : ∀ {v c}, read v = .error c → Blamed key v c

theorem readChoice_error {α : Type} {all : List α} {spelling : α → String} {v : Value}
    {c : Complaint} (h : readChoice all spelling v = .error c) :
    c = .choice (all.map spelling) := by
  unfold readChoice at h
  split at h
  · split at h
    · cases h
    · cases h
      rfl
  · cases h
    rfl

/-- A choice is judged by its spellings, if each of them leads back to what it spells. -/
theorem judges_choice {α : Type} {key : String} {all : List α} {spelling : α → String}
    (hfind : ∀ a, all.find? (spelling · == spelling a) = some a)
    (hmeets : ∀ {v}, Meets key v ↔ ∃ a, v = .text (spelling a))
    (hblamed : ∀ {v}, ¬ Meets key v → Blamed key v (.choice (all.map spelling))) :
    Judges key (readChoice all spelling) where
  accepts := by
    intro v a h
    exact hmeets.mpr ⟨a, readChoice_ok h⟩
  refuses := by
    intro v c h
    rw [readChoice_error h]
    apply hblamed
    intro hv
    obtain ⟨a, rfl⟩ := hmeets.mp hv
    rw [readChoice_spelling (hfind a)] at h
    cases h

/-- The reader of modes accepts what the schema asks for, and blames all else rightly. -/
theorem judges_overflow : Judges "overflow" readOverflow :=
  judges_choice OverflowMode.ofText?_text meets_overflow_iff .overflow

theorem judges_level : Judges "log_level" readLevel :=
  judges_choice LevelName.ofText?_text meets_level_iff .level

theorem readName_bytes (cs : List Char) :
    readName (.bytes (Text.Utf8.encode cs)) = .ok (String.ofList cs) := by
  rw [readName, Text.Utf8.decode_encode]

theorem judges_name : Judges "default_name" readName where
  accepts := by
    intro v n h
    unfold readName at h
    split at h
    · exact .name _
    · split at h
      · next cs hcs =>
        rw [← Text.Utf8.decode_eq_ok_iff.mp hcs]
        exact .encodedName cs
      · cases h
    · cases h
  refuses := by
    intro v c h
    have hnot : ¬ Meets "default_name" v := by
      intro hv
      obtain ⟨s, rfl⟩ | ⟨cs, rfl⟩ := meets_name_iff.mp hv
      · cases h
      · rw [readName_bytes] at h
        cases h
    unfold readName at h
    split at h
    · cases h
    · split at h
      · cases h
      · cases h
        exact .encodedName hnot
    · next htext hbytes =>
      cases h
      exact .name hnot hbytes

end GreetCalc.Settings
