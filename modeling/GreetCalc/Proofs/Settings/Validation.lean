import GreetCalc.Proofs.Settings.Schema
import GreetCalc.Proofs.Value
import Mathlib.Data.List.Nodup

/-!
# Validation of settings

A table is accepted exactly if all its entries meet the schema. Otherwise the report has one fault
for each of the keys of settings under which something else stands, in the order of the keys
(`KeyFaults`), and then one for each other key, in the order of the table
(`validation_reports_all`).

What a key contributes to the faults of a table follows from its reader judging by the schema, and
is proved once for all readers (`KeyFaults.field`).
-/

namespace GreetCalc.Settings

open Validation

/-! ## The faults of a table -/

/-- The faults of some keys of settings, in their order: one for each key under which there stands
what does not meet the schema. -/
inductive KeyFaults (t : Table) : List String → List Fault → Prop
  | nil : KeyFaults t [] []
  | fine {k : String} {ks : List String} {fs : List Fault} : (∀ v, t.get? k = some v → Meets k v) →
      KeyFaults t ks fs → KeyFaults t (k :: ks) fs
  | wrong {k : String} {v : Value} {c : Complaint} {ks : List String} {fs : List Fault} :
      t.get? k = some v → Blamed k v c → KeyFaults t ks fs →
      KeyFaults t (k :: ks) (⟨c, some k, v⟩ :: fs)

namespace KeyFaults

variable {t : Table} {ks : List String} {fs : List Fault}

/-- One more key is judged, and its fault, if any, comes first. -/
theorem field {α : Type} {key : String} {read : Value → Except Complaint α} (h : Judges key read)
    (standard : α) (hfs : KeyFaults t ks fs) :
    KeyFaults t (key :: ks) (faultsOf (Settings.field read key standard t) ++ fs) := by
  unfold Settings.field
  cases hv : t.get? key with
  | none =>
      apply KeyFaults.fine _ hfs
      intro v hsome
      rw [hv] at hsome
      cases hsome
  | some v =>
      dsimp only
      cases hread : read v with
      | ok a =>
          apply KeyFaults.fine _ hfs
          intro v' hsome
          rw [hv] at hsome
          cases hsome
          exact h.accepts hread
      | error c => exact .wrong hv (h.refuses hread) hfs

theorem meets_of_nil (h : KeyFaults t ks []) {k : String} (hk : k ∈ ks) {v : Value}
    (hv : t.get? k = some v) : Meets k v := by
  induction ks with
  | nil => cases hk
  | cons k' ks ih =>
      cases h with
      | fine hfine hrest =>
          rcases List.mem_cons.mp hk with rfl | hk
          · exact hfine v hv
          · exact ih hrest hk

/-- Every fault is about what stands under its key and does not meet the schema. -/
theorem not_meets (h : KeyFaults t ks fs) {f : Fault} (hf : f ∈ fs) :
    ∃ k, f.key = some k ∧ t.get? k = some f.given ∧ ¬ Meets k f.given := by
  induction h with
  | nil => cases hf
  | fine _ _ ih => exact ih hf
  | wrong hv hblamed _ ih =>
      rcases List.mem_cons.mp hf with rfl | hf
      · exact ⟨_, rfl, hv, hblamed.not_meets⟩
      · exact ih hf

/-- Faults come in the order of the keys, with one for each at most. -/
theorem keys_sublist (h : KeyFaults t ks fs) : (fs.map Fault.key).Sublist (ks.map some) := by
  induction h with
  | nil => exact List.Sublist.refl _
  | fine _ _ ih => exact ih.cons _
  | wrong _ _ _ ih => exact ih.cons_cons _

end KeyFaults

/-- The faults of extra keys are about the entries whose keys are not those of settings. -/
theorem mem_extraFaults {t : Table} {f : Fault} :
    f ∈ extraFaults t ↔ ∃ k v, (k, v) ∈ t ∧ k ∉ keys ∧ f = ⟨.extra, some k, v⟩ := by
  simp only [extraFaults, List.mem_map, List.mem_filter, Prod.exists]
  constructor
  · rintro ⟨k, v, ⟨hmem, hk⟩, rfl⟩
    exact ⟨k, v, hmem, by simpa using hk, rfl⟩
  · rintro ⟨k, v, hmem, hk, rfl⟩
    exact ⟨k, v, ⟨hmem, by simpa using hk⟩, rfl⟩

theorem extraFaults_perm {t t' : Table} (h : t'.Perm t) : (extraFaults t').Perm (extraFaults t) :=
  (h.filter _).map _

/-- The faults of the keys of settings in a table. -/
def declaredFaults (t : Table) : List Fault :=
  faultsOf (field readOverflow "overflow" .wrap t) ++
    (faultsOf (field readName "default_name" "World" t) ++
      (faultsOf (field readLevel "log_level" .warning t) ++ []))

theorem keyFaults_declaredFaults (t : Table) : KeyFaults t keys (declaredFaults t) :=
  .field judges_overflow _ (.field judges_name _ (.field judges_level _ .nil))

/-- A table without faults is accepted, and all faults of any other are reported. -/
theorem ofTable_cases (t : Table) :
    (declaredFaults t ++ extraFaults t = [] ∧ ∃ s, ofTable t = .ok s) ∨
    (declaredFaults t ++ extraFaults t ≠ [] ∧
      ofTable t = .error ⟨subject, declaredFaults t ++ extraFaults t⟩) := by
  unfold ofTable declaredFaults
  dsimp only
  cases field readOverflow "overflow" .wrap t with
  | error f => exact .inr ⟨by simp [faultsOf], by simp⟩
  | ok o =>
      cases field readName "default_name" "World" t with
      | error f => exact .inr ⟨by simp [faultsOf], by simp⟩
      | ok n =>
          cases field readLevel "log_level" .warning t with
          | error f => exact .inr ⟨by simp [faultsOf], by simp⟩
          | ok l =>
              cases extraFaults t with
              | cons f fs => exact .inr ⟨by simp, by simp [faultsOf]⟩
              | nil => exact .inl ⟨rfl, ⟨o, n, l⟩, rfl⟩

section Tables

variable {t : Table} (hkeys : (t.map Prod.fst).Nodup)

include hkeys

/-- A table has no faults if all its entries meet the schema, and no entry is passed over. -/
theorem faults_eq_nil_iff :
    declaredFaults t ++ extraFaults t = [] ↔ ∀ k v, (k, v) ∈ t → Meets k v := by
  constructor
  · intro h k v hmem
    obtain ⟨hdeclared, hextra⟩ := List.append_eq_nil_iff.mp h
    have hk : k ∈ keys := by
      by_contra hk
      have hf := mem_extraFaults.mpr ⟨k, v, hmem, hk, rfl⟩
      rw [hextra] at hf
      cases hf
    have hfaults := keyFaults_declaredFaults t
    rw [hdeclared] at hfaults
    exact hfaults.meets_of_nil hk ((Table.get?_eq_some_iff hkeys).mpr hmem)
  · intro h
    apply List.eq_nil_iff_forall_not_mem.mpr
    intro f hf
    rcases List.mem_append.mp hf with hf | hf
    · obtain ⟨k, -, hv, hnot⟩ := (keyFaults_declaredFaults t).not_meets hf
      exact hnot (h k _ (Table.mem_of_get? hv))
    · obtain ⟨k, v, hmem, hk, -⟩ := mem_extraFaults.mp hf
      exact hk (h k v hmem).mem_keys

theorem nodup_faults : ((declaredFaults t ++ extraFaults t).map Fault.key).Nodup := by
  rw [List.map_append]
  have hdeclared := (keyFaults_declaredFaults t).keys_sublist
  have hextra : (extraFaults t).map Fault.key =
      ((t.filter fun e => !keys.contains e.1).map Prod.fst).map some := by
    simp [extraFaults, Function.comp_def]
  apply List.nodup_append.mpr
  refine ⟨hdeclared.nodup (by decide), ?_, ?_⟩
  · rw [hextra]
    apply List.Nodup.map (Option.some_injective _)
    exact (List.filter_sublist.map Prod.fst).nodup hkeys
  · intro k hk k' hk'
    obtain ⟨k₁, hk₁, rfl⟩ := List.mem_map.mp (hdeclared.subset hk)
    obtain ⟨f, hf, rfl⟩ := List.mem_map.mp hk'
    obtain ⟨k₂, v, -, hk₂, rfl⟩ := mem_extraFaults.mp hf
    rintro h
    cases h
    exact hk₂ hk₁

/-- The faults of declared keys do not depend on the order of the table. -/
theorem declaredFaults_perm {t' : Table} (h : t'.Perm t) :
    declaredFaults t' = declaredFaults t := by
  simp only [declaredFaults, field, Table.get?_perm h hkeys]

/-- The order of the entries matters neither for whether a table is accepted nor for what it is read
as. -/
theorem ofTable_perm {t' : Table} (h : t'.Perm t) {s : Settings} :
    ofTable t' = .ok s ↔ ofTable t = .ok s := by
  have hextra : extraFaults t' = [] ↔ extraFaults t = [] := by
    rw [← List.length_eq_zero_iff, (extraFaults_perm h).length_eq, List.length_eq_zero_iff]
  rw [ofTable_eq_ok_iff, ofTable_eq_ok_iff, hextra]
  simp only [field, Table.get?_perm h hkeys]

end Tables

/-! ## Reports -/

theorem fault_lines_ne_nil (room : Nat) (f : Fault) : f.lines room ≠ [] := by simp [Fault.lines]

/-- A report with faults begins with a line that counts them. -/
theorem message_eq {r : Report} (h : r.faults ≠ []) (room : Nat) :
    ∃ rest, r.message room = r.header ++ "\n" ++ rest := by
  have hlines : r.faults.flatMap (Fault.lines room) ≠ [] := by
    obtain ⟨f, fs, hf⟩ := List.exists_cons_of_ne_nil h
    rw [hf, List.flatMap_cons]
    exact List.append_ne_nil_of_left_ne_nil (fault_lines_ne_nil room f) _
  exact ⟨_, String.intercalate_cons_of_ne_nil hlines⟩

/-! ## Accepted settings -/

/-- A name is what stands under its key, as a text or as the octets of one, or the standard one if
nothing does. -/
inductive SaysName (t : Table) : String → Prop
  | text {s : String} : t.get? "default_name" = some (.text s) → SaysName t s
  | octets {s : String} :
      t.get? "default_name" = some (.bytes (Text.Utf8.encode s.toList)) → SaysName t s
  | silent : t.get? "default_name" = none → SaysName t "World"

/-- The table of settings, in which everything is said. -/
def table (s : Settings) : Table :=
  [("overflow", .text s.overflow.text), ("default_name", .text s.defaultName),
    ("log_level", .text s.logLevel.text)]

/-- Settings are read back from their table. -/
theorem ofTable_table (s : Settings) : ofTable s.table = .ok s :=
  ofTable_entries (a := ⟨some s.overflow, some s.defaultName, some s.logLevel⟩) (List.Perm.refl _)

theorem saysName_of_field {t : Table} {n : String}
    (h : field readName "default_name" "World" t = .ok n) : SaysName t n := by
  unfold field at h
  split at h
  · next hnone =>
    cases h
    exact .silent hnone
  · next v hv =>
    cases hread : readName v with
    | error c =>
        rw [hread] at h
        cases h
    | ok n' =>
        rw [hread] at h
        cases h
        obtain ⟨s, rfl⟩ | ⟨cs, rfl⟩ := meets_name_iff.mp (judges_name.accepts hread)
        · cases hread
          exact .text hv
        · rw [readName_bytes] at hread
          cases hread
          exact .octets (by rw [hv, String.toList_ofList])

/-! ## The whole of validation -/

/-- A refused table has faults, and the report lists all of them. -/
theorem ofTable_eq_error {t : Table} {r : Report} (h : ofTable t = .error r) :
    declaredFaults t ++ extraFaults t ≠ [] ∧
      r = ⟨subject, declaredFaults t ++ extraFaults t⟩ := by
  rcases ofTable_cases t with ⟨-, s, hs⟩ | ⟨hne, herror⟩
  · rw [h] at hs
    cases hs
  · rw [h] at herror
    cases herror
    exact ⟨hne, rfl⟩

theorem extraFaults_eq (t : Table) :
    extraFaults t = (t.filter fun e => e.1 ∉ keys).map fun e => ⟨.extra, some e.1, e.2⟩ := by
  simp [extraFaults]

/-- **Validation accepts what meets the schema and reports all else once.** A table, which has each
of its keys once, is accepted exactly if all its entries meet the schema. Each setting is then what
the table says or the standard one, and the table of these settings is read as the same settings.
Otherwise the report holds the faults of the keys of settings in their order and then one for each
other key in the order of the table. No key is reported twice, and the first line gives the number
of faults. Another order of the entries changes nothing but the order of the other keys in a
report. -/
theorem validation_reports_all {t : Table} (hkeys : (t.map Prod.fst).Nodup) :
    ((∃ s, ofValue (.table t) = .ok s) ↔ ∀ k v, (k, v) ∈ t → Meets k v) ∧
    (∀ s, ofValue (.table t) = .ok s →
      Says t "overflow" OverflowMode.text .wrap s.overflow ∧
      SaysName t s.defaultName ∧
      Says t "log_level" LevelName.text .warning s.logLevel ∧
      ofValue (.table s.table) = .ok s) ∧
    (∀ r, ofValue (.table t) = .error r → ∃ declared extras,
      r.faults = declared ++ extras ∧
      KeyFaults t ["overflow", "default_name", "log_level"] declared ∧
      extras = (t.filter fun e => e.1 ∉ ["overflow", "default_name", "log_level"]).map
        (fun e => ⟨.extra, some e.1, e.2⟩) ∧
      (r.faults.map Fault.key).Nodup ∧
      ∀ room, ∃ rest,
        r.message room = toString (declared.length + extras.length) ++ " validation error"
        ++ (if declared.length + extras.length = 1 then "" else "s")
        ++ " for " ++ "MathGreetConfig" ++ "\n" ++ rest) ∧
    (∀ t', t'.Perm t →
      (∀ s, ofValue (.table t') = .ok s ↔ ofValue (.table t) = .ok s) ∧
      ∀ r r', ofValue (.table t) = .error r → ofValue (.table t') = .error r' →
        ∃ declared extras extras',
          r.faults = declared ++ extras ∧ r'.faults = declared ++ extras' ∧
          KeyFaults t ["overflow", "default_name", "log_level"] declared ∧
          extras'.Perm extras ∧ ∀ f ∈ extras, f.complaint.code = "extra_forbidden") := by
  have hdeclared := keyFaults_declaredFaults t
  refine ⟨?_, ?_, ?_, ?_⟩
  · -- To meet the schema is to have no fault, and what has no fault is accepted.
    rw [← faults_eq_nil_iff hkeys]
    rcases ofTable_cases t with ⟨hnil, s, hs⟩ | ⟨hne, herror⟩
    · exact ⟨fun _ => hnil, fun _ => ⟨s, hs⟩⟩
    · refine ⟨?_, fun hnil => absurd hnil hne⟩
      rintro ⟨s, hs⟩
      cases herror.symm.trans hs
  · intro s hs
    obtain ⟨hlevel, hoverflow⟩ := says_of_ofTable hs
    have hname := saysName_of_field (ofTable_eq_ok_iff.mp hs).2.1
    exact ⟨hoverflow, hname, hlevel, ofTable_table s⟩
  · intro r hr
    obtain ⟨hne, rfl⟩ := ofTable_eq_error hr
    refine ⟨_, _, rfl, hdeclared, extraFaults_eq t, nodup_faults hkeys, ?_⟩
    intro room
    obtain ⟨rest, hrest⟩ := message_eq (r := ⟨subject, declaredFaults t ++ extraFaults t⟩) hne room
    refine ⟨rest, ?_⟩
    rw [hrest, Report.header, List.length_append]
    rfl
  · intro t' h
    refine ⟨fun s => ofTable_perm hkeys h, ?_⟩
    intro r r' hr hr'
    obtain ⟨-, rfl⟩ := ofTable_eq_error hr
    obtain ⟨-, rfl⟩ := ofTable_eq_error hr'
    refine ⟨_, _, extraFaults t', rfl, ?_, hdeclared, extraFaults_perm h, ?_⟩
    · rw [declaredFaults_perm hkeys h]
    · intro f hf
      obtain ⟨k, v, -, -, rfl⟩ := mem_extraFaults.mp hf
      rfl

/-- A table with three wrong settings among two keys that are none, and one with a name in
octets. -/
theorem validation_reports_all_five :
    (∃ declared extras, KeyFaults [("zeta", .int 1), ("log_level", .text "DEBUG"),
        ("overflow", .null), ("a.b", .list []), ("default_name", .bytes [0xff])]
        ["overflow", "default_name", "log_level"] declared ∧
      (declared ++ extras).map Fault.key =
        [some "overflow", some "default_name", some "log_level", some "zeta", some "a.b"]) ∧
    ofValue (.table [("log_level", .text "info"), ("default_name", .bytes [0xc3, 0xa9])]) =
      .ok ⟨.wrap, "é", .info⟩ ∧
    ofValue (.table (table ⟨.wrap, "é", .info⟩)) = .ok ⟨.wrap, "é", .info⟩ := by
  have hwrong : ∃ r, ofValue (.table [("zeta", .int 1), ("log_level", .text "DEBUG"),
      ("overflow", .null), ("a.b", .list []), ("default_name", .bytes [0xff])]) = .error r ∧
      r.faults.map Fault.key =
        [some "overflow", some "default_name", some "log_level", some "zeta", some "a.b"] :=
    ⟨_, rfl, rfl⟩
  have hright : ofValue (.table [("log_level", .text "info"),
      ("default_name", .bytes [0xc3, 0xa9])]) = .ok ⟨.wrap, "é", .info⟩ := rfl
  refine ⟨?_, hright, ?_⟩
  · obtain ⟨r, hr, hfaults⟩ := hwrong
    obtain ⟨declared, extras, heq, hdeclared, -⟩ :=
      (validation_reports_all (by decide)).2.2.1 r hr
    exact ⟨declared, extras, hdeclared, by rw [← heq, hfaults]⟩
  · exact ((validation_reports_all (by decide)).2.1 _ hright).2.2.2

end GreetCalc.Settings
