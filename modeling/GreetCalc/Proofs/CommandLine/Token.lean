import GreetCalc.CommandLine.Token
import Mathlib.Data.List.TakeWhile

/-!
# How arguments are classified

`classify` looks at one argument at a time. These lemmas say what it takes for

* a **word**: whatever does not begin with a dash (`classify_of_plain`), and a negative numeral,
  which begins with one and is still no switch (`classify_negative`);
* a **long switch**: any beginning of its name that no other switch shares, alone
  (`Abbreviates.classify`) or with a value attached (`Abbreviates.classify_attached`).

In the other direction, a value that `classify` finds attached to a long switch is what stands
after the first equals sign of the argument (`suffix_of_classify_long`), and a word is the
argument itself (`eq_of_classify_word`).
-/

namespace GreetCalc.CommandLine

/-! ## The first equals sign -/

theorem splitAtEquals_of_not_mem {cs : List Char} (h : '=' ∉ cs) :
    splitAtEquals cs = (cs, none) := by
  have hd : cs.dropWhile (· != '=') = [] := by
    rw [List.dropWhile_eq_nil_iff]
    intro c hc
    have : c ≠ '=' := fun e => h (e ▸ hc)
    simpa using this
  rw [splitAtEquals, hd]

theorem splitAtEquals_append {name value : List Char} (h : '=' ∉ name) :
    splitAtEquals (name ++ '=' :: value) = (name, some value) := by
  have hall : ∀ c ∈ name, (c != '=') = true := by
    intro c hc
    have : c ≠ '=' := fun e => h (e ▸ hc)
    simpa using this
  rw [splitAtEquals, List.dropWhile_append_of_pos hall, List.takeWhile_append_of_pos hall]
  simp

/-- What `splitAtEquals` finds after an equals sign is the end of the text. -/
theorem suffix_of_splitAtEquals {cs name value : List Char}
    (h : splitAtEquals cs = (name, some value)) : '=' :: value <:+ cs := by
  unfold splitAtEquals at h
  split at h
  · cases h
  · next c after hd =>
    cases h
    have hc : c = '=' := by
      have := List.head_dropWhile_not (· != '=') (l := cs) (by rw [hd]; simp)
      simpa [hd] using this
    subst hc
    exact hd ▸ List.dropWhile_suffix _

/-! ## Words -/

/-- A text that does not begin with a dash. -/
def Plain (s : String) : Prop := s.toList.head? ≠ some '-'

instance (s : String) : Decidable (Plain s) := inferInstanceAs (Decidable (_ ≠ _))

theorem classify_of_plain {s : String} (h : Plain s) (available : List Switch) :
    classify available s = .ok (.word s) := by
  unfold classify
  split
  · next hs => exact absurd (by rw [hs]; rfl) h
  · next hs => exact absurd (by rw [hs]; rfl) h
  · rfl

theorem ne_marker_of_plain {s : String} (h : Plain s) : s ≠ marker := by
  rintro rfl
  exact h rfl

/-- Letters are no digits, so no switch goes by a digit. -/
theorem ofLetter?_of_isDecimal {c : Char} (h : Text.isDecimal c = true)
    (available : List Switch) : ofLetter? available c = none := by
  rw [ofLetter?, List.find?_eq_none]
  intro o _
  have hh : c ≠ 'h' := by rintro rfl; exact absurd h (by decide)
  have hv : c ≠ 'v' := by rintro rfl; exact absurd h (by decide)
  cases o <;> simp [Switch.letter?, hh.symm, hv.symm]

theorem isUnsignedNumber_of_isDigits {ds : List Char} (h : isDigits ds = true) :
    isUnsignedNumber ds = true := by
  have hlast : ds.getLast? ≠ some '\n' := by
    intro hl
    have hmem : '\n' ∈ ds := List.mem_of_getLast? hl
    have hall : ∀ c ∈ ds, Text.isDecimal c = true := by
      rw [isDigits, Bool.and_eq_true, List.all_eq_true] at h
      exact h.2
    exact absurd (hall _ hmem) (by decide)
  rw [isUnsignedNumber, dropFinalNewline, if_neg hlast]
  simp [h]

/-- A minus sign before digits makes a word and no switch: no letter of a switch is a digit. -/
theorem classify_negative {s : String} {ds : List Char} (hs : s.toList = '-' :: ds)
    (hds : isDigits ds = true) (available : List Switch) :
    classify available s = .ok (.word s) := by
  obtain ⟨d, more, rfl⟩ : ∃ d more, ds = d :: more := by
    cases ds with
    | nil => simp [isDigits] at hds
    | cons d more => exact ⟨d, more, rfl⟩
  have hd : Text.isDecimal d = true := by
    rw [isDigits, Bool.and_eq_true, List.all_eq_true] at hds
    exact hds.2 d (by simp)
  have hne : d ≠ '-' := by rintro rfl; exact absurd hd (by decide)
  have hu : ofUnknown s = .word s := by
    simp only [ofUnknown, hs, List.drop_succ_cons, List.drop_zero,
      isUnsignedNumber_of_isDigits hds, Bool.true_or, if_true]
  unfold classify
  rw [hs]
  split
  · next heq => cases heq; exact absurd rfl hne
  · next heq =>
    cases heq
    unfold classifyShort
    rw [ofLetter?_of_isDecimal hd]
    exact congrArg Except.ok hu
  · rfl

/-! ## Long switches -/

/-- `s` stands for the switch `o` of the command `c`: it is a beginning of the long name of `o`
that goes beyond the two dashes, and of no other long name. -/
structure Abbreviates (c : Command) (o : Switch) (s : List Char) : Prop where
  available : o ∈ c.switches
  beginning : s <+: o.long.toList
  named : 2 < s.length
  only : ∀ o' ∈ c.switches, s <+: o'.long.toList → o' = o

instance (c : Command) (o : Switch) (s : List Char) : Decidable (Abbreviates c o s) :=
  decidable_of_iff
    (o ∈ c.switches ∧ s <+: o.long.toList ∧ 2 < s.length ∧
      ∀ o' ∈ c.switches, s <+: o'.long.toList → o' = o)
    ⟨fun ⟨h₁, h₂, h₃, h₄⟩ => ⟨h₁, h₂, h₃, h₄⟩, fun ⟨h₁, h₂, h₃, h₄⟩ => ⟨h₁, h₂, h₃, h₄⟩⟩

namespace Abbreviates

variable {c : Command} {o : Switch} {s : List Char}

/-- The whole name of a switch stands for it. -/
theorem full (ho : o ∈ c.switches) : Abbreviates c o o.long.toList where
  available := ho
  beginning := List.prefix_rfl
  named := by cases o <;> decide
  only := by cases c <;> cases o <;> decide

theorem not_mem_equals (h : Abbreviates c o s) : '=' ∉ s := by
  intro hm
  have hmem : '=' ∈ o.long.toList := h.beginning.subset hm
  cases o <;> exact absurd hmem (by decide)

/-- Its first two characters are the dashes of the name. -/
theorem exists_dashes (h : Abbreviates c o s) : ∃ more, s = '-' :: '-' :: more := by
  obtain ⟨t, ht⟩ := h.beginning
  have hn := h.named
  match s, hn with
  | a :: b :: more, _ =>
    have hlong : ∃ name, o.long.toList = '-' :: '-' :: name := by
      cases o <;> exact ⟨_, rfl⟩
    obtain ⟨name, hname⟩ := hlong
    rw [hname] at ht
    simp only [List.cons_append, List.cons.injEq] at ht
    exact ⟨more, by rw [ht.1, ht.2.1]⟩

/-- An abbreviation stands for a single switch. -/
theorem beginningWith_eq (h : Abbreviates c o s) : beginningWith c.switches s = [o] := by
  have hp : ∀ o' ∈ c.switches, s.isPrefixOf o'.long.toList = decide (o' = o) := by
    intro o' ho'
    rw [Bool.eq_iff_iff, List.isPrefixOf_iff_prefix, decide_eq_true_iff]
    exact ⟨h.only o' ho', fun e => e ▸ h.beginning⟩
  rw [beginningWith, List.filter_congr hp]
  have ho := h.available
  clear hp h
  cases c <;> cases o <;> revert ho <;> decide

/-- The name before the equals sign decides, and it decides for `o`. -/
theorem classifyLong_eq (h : Abbreviates c o s) {t : String} {attached : Option (List Char)}
    (ht : splitAtEquals t.toList = (s, attached)) :
    classifyLong c.switches t = .ok (.long o (attached.map String.ofList)) := by
  unfold classifyLong
  simp only [ht]
  split
  · next o' ho' =>
    -- A full name begins with itself, so it is the name of `o`.
    have hmem : o' ∈ c.switches := List.mem_of_find?_eq_some ho'
    have heq : o'.long.toList = s := by simpa using List.find?_some ho'
    rw [h.only o' hmem (heq ▸ List.prefix_rfl)]
  · rw [h.beginningWith_eq]

/-- An abbreviation is classified as its switch. -/
theorem classify (h : Abbreviates c o s) :
    classify c.switches (String.ofList s) = .ok (.long o none) := by
  have hsplit : splitAtEquals (String.ofList s).toList = (s, none) := by
    rw [String.toList_ofList]
    exact splitAtEquals_of_not_mem h.not_mem_equals
  have hlong := h.classifyLong_eq hsplit
  obtain ⟨more, rfl⟩ := h.exists_dashes
  unfold CommandLine.classify
  simp only [String.toList_ofList]
  exact hlong

/-- With a value attached by an equals sign, an abbreviation still is its switch. -/
theorem classify_attached (h : Abbreviates c o s) (v : String) :
    CommandLine.classify c.switches (String.ofList (s ++ '=' :: v.toList)) =
      .ok (.long o (some v)) := by
  have hsplit : splitAtEquals (String.ofList (s ++ '=' :: v.toList)).toList =
      (s, some v.toList) := by
    rw [String.toList_ofList]
    exact splitAtEquals_append h.not_mem_equals
  have hlong := h.classifyLong_eq hsplit
  obtain ⟨more, rfl⟩ := h.exists_dashes
  unfold CommandLine.classify
  simp only [String.toList_ofList, List.cons_append] at hlong ⊢
  simpa using hlong

end Abbreviates

/-! ## What a classified argument was -/

/-- What names no switch is a word or an unknown switch. -/
theorem ofUnknown_cases (s : String) : ofUnknown s = .word s ∨ ofUnknown s = .unknown s := by
  unfold ofUnknown
  split
  · exact .inl rfl
  · exact .inr rfl

theorem eq_of_classify_word {available : List Switch} {s t : String}
    (h : classify available s = .ok (.word t)) : t = s := by
  have hu : ofUnknown s = .word t → t = s := by
    intro hs
    rcases ofUnknown_cases s with hw | hw
    · rw [hw] at hs
      exact (Token.word.inj hs).symm
    · rw [hw] at hs
      cases hs
  -- Words come from two branches only, and both keep the argument as it is.
  unfold classify at h
  split at h
  · unfold classifyLong at h
    dsimp only at h
    split at h
    · cases h
    · split at h
      · exact hu (Except.ok.inj h)
      · cases h
      · cases h
  · have h := Except.ok.inj h
    unfold classifyShort at h
    split at h
    · exact hu h
    all_goals cases h
  · exact (Token.word.inj (Except.ok.inj h)).symm

/-- A value that is attached to a long switch stands at the end, after an equals sign. -/
theorem suffix_of_classify_long {available : List Switch} {s v : String} {o : Switch}
    (h : classify available s = .ok (.long o (some v))) : '=' :: v.toList <:+ s.toList := by
  have hu : ofUnknown s ≠ .long o (some v) := by
    intro hs
    rcases ofUnknown_cases s with hw | hw <;> (rw [hw] at hs; cases hs)
  have hend : ∀ {attached : Option (List Char)},
      splitAtEquals s.toList = ((splitAtEquals s.toList).1, attached) →
      attached.map String.ofList = some v → '=' :: v.toList <:+ s.toList := by
    intro attached hsplit hv
    obtain ⟨value, rfl, rfl⟩ := Option.map_eq_some_iff.1 hv
    rw [String.toList_ofList]
    exact suffix_of_splitAtEquals hsplit
  unfold classify at h
  split at h
  · unfold classifyLong at h
    dsimp only at h
    split at h
    · exact hend rfl (Token.long.inj (Except.ok.inj h)).2
    · split at h
      · exact absurd (Except.ok.inj h) hu
      · exact hend rfl (Token.long.inj (Except.ok.inj h)).2
      · cases h
  · have h := Except.ok.inj h
    unfold classifyShort at h
    split at h
    · exact absurd h hu
    all_goals cases h
  · cases h

end GreetCalc.CommandLine
