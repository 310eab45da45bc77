import GreetCalc.Proofs.Log
import GreetCalc.Proofs.Text.LowerCase

/-!
# The texts that name a level

A level is looked up by the lower case of what is given, and lower case is that of the whole of
Unicode. No name of a level has a `k`, so this amounts to changing the case of letters of ASCII and
nothing else (`lower_eq_text_iff`), and a text with any other character is refused as it was given
(`resolveLevel_by_name`).
-/

namespace GreetCalc

namespace LevelName

theorem mem_all (l : LevelName) : l ∈ all := by
  cases l <;> decide

theorem isSmall_of_mem_text {l : LevelName} {d : Char} (h : d ∈ l.text.toList) :
    Text.IsSmall d := by
  have hall : l.text.toList.all (fun d => decide (Text.IsSmall d)) = true := by
    cases l <;> decide
  exact of_decide_eq_true (List.all_eq_true.mp hall d h)

/-- In lower case a text is the name of a level exactly if it spells it in any case of letters. -/
theorem lower_eq_text_iff (s : String) (l : LevelName) :
    Text.lower s = l.text ↔ Text.Recased s l.text :=
  Text.lower_eq_iff (fun _ => isSmall_of_mem_text) s

theorem ofText?_eq_some_iff {s : String} {l : LevelName} : ofText? s = some l ↔ s = l.text := by
  constructor
  · intro h
    have hs : (l.text == s) = true := List.find?_some (p := fun l : LevelName => l.text == s) h
    exact (beq_iff_eq.mp hs).symm
  · rintro rfl
    exact ofText?_text l

/-- In any case of letters, a text finds the level that it spells. -/
theorem ofText?_lower_eq_some_iff {s : String} {l : LevelName} :
    ofText? (Text.lower s) = some l ↔ Text.Recased s l.text := by
  rw [ofText?_eq_some_iff, lower_eq_text_iff]

/-- The table has one small sigma. Taking the other one at the ends of words would find the same
names. -/
theorem ofText?_final_sigma {s t : String}
    (h : List.Forall₂ (fun c u => c = u ∨ c = 'σ' ∧ u = 'ς') (Text.lower s).toList t.toList) :
    ofText? t = ofText? (Text.lower s) := by
  apply Option.ext
  intro l
  rw [ofText?_eq_some_iff, ofText?_eq_some_iff, ← String.toList_inj, ← String.toList_inj]
  exact Text.eq_iff_of_final_sigma h fun _ => isSmall_of_mem_text

/-- All characters of a name, in either case, are ASCII. -/
theorem toNat_le_of_recased {s : String} {l : LevelName} (h : Text.Recased s l.text) {c : Char}
    (hc : c ∈ s.toList) : c.toNat ≤ 127 := by
  obtain ⟨d, hd, hcd⟩ := Text.exists_sameLetter_of_mem h hc
  have := hcd.toNat_le (isSmall_of_mem_text hd)
  omega

end LevelName

/-- The wording of an unknown level shows the text as it was given. -/
theorem unknown_message (s : String) :
    (LevelFault.unknown (.text s)).message = "Unknown log level '" ++ s
      ++ "'. Valid levels: debug, info, warning, error, critical" := by
  have hlevels : "'. Valid levels: " ++ commaSeparated (LevelName.all.map LevelName.text) =
      "'. Valid levels: debug, info, warning, error, critical" := by decide +kernel
  show "Unknown log level '" ++ s ++ "'. Valid levels: "
    ++ commaSeparated (LevelName.all.map LevelName.text) = _
  rw [String.append_assoc, hlevels]

/-- A text is looked up once, and what is not found is refused as it was given. -/
theorem resolveLevel_text_cases (s : String) :
    (∃ l : LevelName, Text.Recased s l.text ∧ resolveLevel (.text s) = .ok l.severity) ∨
    ((∀ l : LevelName, ¬ Text.Recased s l.text) ∧
      resolveLevel (.text s) = .error (.unknown (.text s))) := by
  rw [resolveLevel]
  cases hl : LevelName.ofText? (Text.lower s) with
  | some l => exact .inl ⟨l, LevelName.ofText?_lower_eq_some_iff.mp hl, rfl⟩
  | none =>
      refine .inr ⟨?_, rfl⟩
      intro l hr
      rw [LevelName.ofText?_lower_eq_some_iff.mpr hr] at hl
      cases hl

/-- **The names of levels.** A text gives a level exactly if it is one of the five names up to the
case of letters of ASCII, and then it gives the level of this name. Every other text is refused as
unknown, with a message that shows it as it was given; among these is every text with a character
that is not ASCII, whatever its lower case is. A number is its own level. -/
theorem resolveLevel_by_name :
    LevelName.all.map (fun l => (l.text, l.severity)) =
      [("debug", 10), ("info", 20), ("warning", 30), ("error", 40), ("critical", 50)] ∧
    (∀ s n, resolveLevel (.text s) = .ok n ↔
      ∃ l ∈ LevelName.all, Text.Recased s l.text ∧ n = l.severity) ∧
    (∀ s, (∀ l ∈ LevelName.all, ¬ Text.Recased s l.text) →
      resolveLevel (.text s) = .error (.unknown (.text s)) ∧
      (LevelFault.unknown (.text s)).message =
        "Unknown log level '" ++ s
          ++ "'. Valid levels: debug, info, warning, error, critical") ∧
    (∀ s, (∃ c ∈ s.toList, 127 < c.toNat) →
      ∀ l ∈ LevelName.all, ¬ Text.Recased s l.text) ∧
    (∀ n, resolveLevel (.int n) = .ok n) := by
  refine ⟨by decide, ?_, ?_, ?_, fun n => rfl⟩
  · intro s n
    constructor
    · intro h
      rcases resolveLevel_text_cases s with ⟨l, hr, hl⟩ | ⟨-, herror⟩
      · rw [hl] at h
        exact ⟨l, l.mem_all, hr, (Except.ok.inj h).symm⟩
      · rw [herror] at h
        cases h
    · rintro ⟨l, -, hr, rfl⟩
      rw [resolveLevel, LevelName.ofText?_lower_eq_some_iff.mpr hr]
  · intro s h
    refine ⟨?_, ?_⟩
    · rcases resolveLevel_text_cases s with ⟨l, hr, -⟩ | ⟨-, herror⟩
      · exact absurd hr (h l l.mem_all)
      · exact herror
    · exact unknown_message s
  · rintro s ⟨c, hc, hlarge⟩ l - hr
    have := LevelName.toNat_le_of_recased hr hc
    omega

/-- Letters in any case name a level; the dotted capital I is no letter of such a name. -/
theorem resolveLevel_by_name_dotted :
    resolveLevel (.text "CriticaL") = .ok 50 ∧
    (∃ c ∈ "crİtical".toList, 127 < c.toNat) ∧
    resolveLevel (.text "crİtical") = .error (.unknown (.text "crİtical")) := by
  obtain ⟨-, hnames, hothers, hforeign, -⟩ := resolveLevel_by_name
  have hdotted : ∃ c ∈ "crİtical".toList, 127 < c.toNat := ⟨'İ', by decide, by decide⟩
  exact ⟨(hnames _ _).mpr ⟨.critical, by decide, by decide +kernel, rfl⟩, hdotted,
    (hothers _ (hforeign _ hdotted)).1⟩

/-- What the dotted capital I becomes is an `i` with a dot above it. -/
example : Text.lower "crİtical" = "cri̇tical" ∧
    LevelName.ofText? (Text.lower "crİtical") = none := by
  decide +kernel

end GreetCalc
