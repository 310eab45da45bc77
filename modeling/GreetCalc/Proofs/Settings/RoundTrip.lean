import GreetCalc.Proofs.Addition
import GreetCalc.Proofs.Log
import GreetCalc.Proofs.Text.Utf8
import GreetCalc.Proofs.Toml.Layout
import GreetCalc.Proofs.Value
import GreetCalc.Settings.File

/-!
# Settings files that are read back

A settings file may set any of the keys, in any order and in any layout. An `Assignment` says what
it sets. The table of such a file meets the schema, whatever the order of its entries
(`ofTable_entries`), and loading the file gives the settings that agree with the assignment and are
the standard ones elsewhere (`load_laid`).
-/

namespace GreetCalc.Settings

/-! ## Assignments -/

/-- What a settings file sets. -/
structure Assignment where
  overflow : Option OverflowMode
  defaultName : Option String
  logLevel : Option LevelName

namespace Assignment

/-- The entries that set what an assignment sets. -/
def entries (a : Assignment) : List (String × String) :=
  (a.overflow.map fun m => ("overflow", m.text)).toList ++
    (a.defaultName.map fun n => ("default_name", n)).toList ++
    (a.logLevel.map fun l => ("log_level", l.text)).toList

/-- The settings that an assignment amounts to. -/
def settings (a : Assignment) : Settings :=
  ⟨a.overflow.getD .wrap, a.defaultName.getD "World", a.logLevel.getD .warning⟩

theorem nodup_keys (a : Assignment) : (a.entries.map Prod.fst).Nodup := by
  obtain ⟨o, n, l⟩ := a
  cases o <;> cases n <;> cases l <;> simp [entries]

theorem mem_keys {a : Assignment} {k v : String} (h : (k, v) ∈ a.entries) : k ∈ keys := by
  simp only [entries, List.mem_append, Option.mem_toList, Option.map_eq_some_iff,
    Prod.mk.injEq] at h
  rcases h with (⟨m, -, rfl, -⟩ | ⟨n, -, rfl, -⟩) | ⟨l, -, rfl, -⟩ <;> decide

end Assignment

theorem bareKey_of_mem {k : String} (h : k ∈ keys) : Toml.BareKey k := by
  have hall : ∀ k ∈ keys, Toml.BareKey k := by decide
  exact hall k h

/-! ## Tables of entries -/

open Toml (textEntry)

variable {es : List (String × String)}

theorem get?_of_mem (hkeys : (es.map Prod.fst).Nodup) {k v : String} (h : (k, v) ∈ es) :
    Table.get? (es.map textEntry) k = some (.text v) := by
  apply (Table.get?_eq_some_iff _).mpr
  · exact List.mem_map_of_mem h
  · simpa [Function.comp_def, textEntry] using hkeys

/-- A field is what the entry of its key writes, and the standard value without one. -/
theorem field_entry {α : Type} {read : Value → Except Validation.Complaint α} (text : α → String)
    (hread : ∀ x, read (.text (text x)) = .ok x) (hkeys : (es.map Prod.fst).Nodup) {key : String}
    {o : Option α} (hmem : ∀ v, (key, v) ∈ es ↔ ∃ x ∈ o, text x = v) (standard : α) :
    field read key standard (es.map textEntry) = .ok (o.getD standard) := by
  cases o with
  | none =>
      have hnone : Table.get? (es.map textEntry) key = none := by
        apply Toml.get?_eq_none
        intro v hv
        obtain ⟨x, hx, -⟩ := (hmem v).mp hv
        cases hx
      rw [field, hnone]
      rfl
  | some x =>
      have hsome : Table.get? (es.map textEntry) key = some (.text (text x)) :=
        get?_of_mem hkeys ((hmem _).mpr ⟨x, rfl, rfl⟩)
      rw [field, hsome]
      show (read (.text (text x))).mapError _ = _
      rw [hread]
      rfl

theorem extraFaults_entries (h : ∀ k v, (k, v) ∈ es → k ∈ keys) :
    extraFaults (es.map textEntry) = [] := by
  rw [extraFaults, List.map_eq_nil_iff, List.filter_eq_nil_iff]
  intro e he
  obtain ⟨⟨k, v⟩, hmem, rfl⟩ := List.mem_map.mp he
  simpa [textEntry] using h k v hmem

theorem readChoice_spelling {α : Type} {all : List α} {spelling : α → String} {a : α}
    (h : all.find? (spelling · == spelling a) = some a) :
    readChoice all spelling (.text (spelling a)) = .ok a := by
  simp only [readChoice, h]

theorem readOverflow_text (m : OverflowMode) : readOverflow (.text m.text) = .ok m :=
  readChoice_spelling m.ofText?_text

theorem readLevel_text (l : LevelName) : readLevel (.text l.text) = .ok l :=
  readChoice_spelling l.ofText?_text

/-- The entries of an assignment meet the schema in any order. -/
theorem ofTable_entries {a : Assignment} (h : es.Perm a.entries) :
    ofTable (es.map textEntry) = .ok a.settings := by
  -- The order of the entries matters neither for which keys there are nor for what they hold.
  have hkeys : (es.map Prod.fst).Nodup := (h.map Prod.fst).nodup_iff.mpr a.nodup_keys
  have hoverflow : ∀ v, ("overflow", v) ∈ es ↔ ∃ m ∈ a.overflow, m.text = v := by
    intro v
    rw [h.mem_iff]
    simp [Assignment.entries]
  have hname : ∀ v, ("default_name", v) ∈ es ↔ ∃ n ∈ a.defaultName, n = v := by
    intro v
    rw [h.mem_iff]
    simp [Assignment.entries]
  have hlevel : ∀ v, ("log_level", v) ∈ es ↔ ∃ l ∈ a.logLevel, l.text = v := by
    intro v
    rw [h.mem_iff]
    simp [Assignment.entries]
  have hdefault : field readName "default_name" "World" (es.map textEntry) =
      .ok (a.defaultName.getD "World") :=
    field_entry (fun n => n) (fun _ => rfl) hkeys hname _
  have hextra : extraFaults (es.map textEntry) = [] :=
    extraFaults_entries fun k v hmem => Assignment.mem_keys (h.mem_iff.mp hmem)
  simp only [ofTable, field_entry OverflowMode.text readOverflow_text hkeys hoverflow, hdefault,
    field_entry LevelName.text readLevel_text hkeys hlevel, hextra, Assignment.settings]

/-! ## Files -/

/-- A settings file that can be opened and holds the entries of an assignment in their order is
loaded as what the assignment sets. -/
theorem load_holds {a : Assignment} {text : List Char} (htext : Toml.Holds a.entries text)
    {disk : Disk} {root : Path} (hopen : disk.openFault = none)
    (hfile : disk.files.find disk.host.current (root.child fileName) =
      .found (.file (Text.Utf8.encode text))) :
    load disk root = .ok a.settings := by
  simp only [load, hfile, hopen]
  rw [ofOctets, Text.Utf8.decode_encode]
  simp only [Toml.parse_holds htext a.nodup_keys, ofTable_entries (List.Perm.refl _)]

/-- **Round trip.** The entries of an assignment can be laid out in any order. A settings file that
can be opened and lays them out, in whatever way, is loaded as what the assignment sets, with the
standard settings for all other keys. -/
theorem load_laid {a : Assignment} (horder : es.Perm a.entries) :
    (∃ text, Toml.Laid es text) ∧
    ∀ {text : List Char} {disk : Disk} {root : Path}, Toml.Laid es text → disk.openFault = none →
      disk.files.find disk.host.current (root.child fileName) =
        .found (.file (Text.Utf8.encode text)) →
      load disk root = .ok a.settings := by
  have hkeys : (es.map Prod.fst).Nodup := (horder.map Prod.fst).nodup_iff.mpr a.nodup_keys
  refine ⟨Toml.exists_laid fun e he => ?_, ?_⟩
  · exact bareKey_of_mem (Assignment.mem_keys (horder.mem_iff.mp he))
  · intro text disk root htext hopen hfile
    simp only [load, hfile, hopen]
    rw [ofOctets, Text.Utf8.decode_encode]
    simp only [Toml.parse_laid htext hkeys, ofTable_entries horder]

/-- Two keys out of order, with a comment, an empty line, both line ends, and a name of a quote, a
line feed and a letter of two octets. -/
theorem load_laid_two_keys :
    load ⟨⟨[(["mathgreet.toml"], .file (Text.Utf8.encode
      "# who\r\n\tlog_level = \"debug\"\r\n \ndefault_name=\"\\\"\\u000Aé\" \n".toList))]⟩,
      .lone [], none⟩ (Path.ofLocation []) = .ok ⟨.wrap, "\"\né", .debug⟩ := by
  have hlevel := @Toml.LaidLine.entry "log_level" "debug" ['\t'] [' '] [' '] [] "debug".toList
    (by decide) (Toml.spelled_self (by decide)) (by decide) (by decide) (by decide) (by decide)
  have hspelling : Toml.Spelled "\"\né".toList ['\\', '"', '\\', 'u', '0', '0', '0', 'A', 'é'] :=
    .escaped (.inl rfl) (.control rfl (by decide) (by decide)
      (.plain rfl (by decide) (by decide) .nil))
  have hname := @Toml.LaidLine.entry "default_name" _ [] [] [] [' '] _ (by decide) hspelling
    (by decide) (by decide) (by decide) (by decide)
  have hcomment := @Toml.LaidLine.comment [] [' ', 'w', 'h', 'o'] (by decide) (by decide)
  have hblank := @Toml.LaidLine.blank [' '] (by decide)
  have htext := Toml.Laid.line hcomment .crlf
    (.line hlevel .crlf (.line hblank .lf (.line hname .lf .nil)))
  exact (load_laid (a := ⟨none, some "\"\né", some .debug⟩) (by decide)).2 htext rfl
    (by decide +kernel)

end GreetCalc.Settings
