import GreetCalc.Text.LowerCase
import Mathlib.Data.List.Forall2

/-!
# Which texts have a given lower case

Taking a text to lower case by the whole of Unicode could make an ASCII word of letters from
elsewhere. The table of case says how far this goes: apart from the capitals of ASCII, a single row
leads to a small letter of ASCII, the one of the Kelvin sign (`shift_of_mem`), and the dotted
capital I leads to one that a combining dot follows. So a word of small letters without a `k` is the
lower case of its own spellings in either case of ASCII and of nothing else (`lower_eq_iff`).
-/

namespace GreetCalc.Text

/-! ## The case of ASCII letters -/

/-- `c` is a capital letter of ASCII, and `d` is its small letter. -/
def IsCapitalOf (c d : Char) : Prop :=
  (65 ≤ c.toNat ∧ c.toNat ≤ 90) ∧ d.toNat = c.toNat + 32

/-- The same character, up to the case of a letter of ASCII. -/
def SameLetter (c d : Char) : Prop := c = d ∨ IsCapitalOf c d ∨ IsCapitalOf d c

/-- Texts that differ in the case of letters of ASCII and in nothing else. -/
def Recased (s t : String) : Prop := List.Forall₂ SameLetter s.toList t.toList

/-- A small letter of ASCII other than the one that the Kelvin sign leads to. -/
def IsSmall (d : Char) : Prop := (97 ≤ d.toNat ∧ d.toNat ≤ 122) ∧ d ≠ 'k'

instance (c d : Char) : Decidable (IsCapitalOf c d) := inferInstanceAs (Decidable (_ ∧ _))

instance (c d : Char) : Decidable (SameLetter c d) := inferInstanceAs (Decidable (_ ∨ _))

instance (s t : String) : Decidable (Recased s t) :=
  inferInstanceAs (Decidable (List.Forall₂ SameLetter _ _))

instance (d : Char) : Decidable (IsSmall d) := inferInstanceAs (Decidable (_ ∧ _))

theorem SameLetter.toNat_le {c d : Char} (h : SameLetter c d) (hd : IsSmall d) :
    c.toNat ≤ 122 := by
  obtain ⟨hd, -⟩ := hd
  rcases h with rfl | ⟨hc, -⟩ | ⟨hd', -⟩
  · exact hd.2
  · omega
  · omega

theorem exists_sameLetter_of_mem {cs ds : List Char} (h : List.Forall₂ SameLetter cs ds) {c : Char}
    (hc : c ∈ cs) : ∃ d ∈ ds, SameLetter c d := by
  induction h with
  | nil => cases hc
  | cons hcd _ ih =>
      rcases List.mem_cons.mp hc with rfl | hc
      · exact ⟨_, List.mem_cons_self, hcd⟩
      · obtain ⟨d, hd, hcd⟩ := ih hc
        exact ⟨d, List.mem_cons_of_mem _ hd, hcd⟩

/-! ## The table -/

/-- A row of the table leads to a small letter of ASCII if it is that of the capitals of ASCII or
of the Kelvin sign; all others lead past them. -/
theorem shift_of_mem {r : CaseRow} (h : r ∈ caseRows) :
    (r.lo = 65 ∧ r.hi = 90 ∧ r.shift = 32) ∨
    (r.lo = 0x212a ∧ r.hi = 0x212a ∧ r.shift = -8383) ∨ 122 < r.lo + r.shift := by
  have hall : ∀ r ∈ caseRows, (r.lo = 65 ∧ r.hi = 90 ∧ r.shift = 32) ∨
      (r.lo = 0x212a ∧ r.hi = 0x212a ∧ r.shift = -8383) ∨ 122 < r.lo + r.shift := by
    decide +kernel
  exact hall r h

/-- A row of the table holds every so many code points between its ends. -/
theorem CaseRow.holds_iff (r : CaseRow) (n : Nat) :
    r.holds n = true ↔ (r.lo ≤ n ∧ n ≤ r.hi) ∧ (n - r.lo) % r.stride = 0 := by
  simp [CaseRow.holds]

/-- Below the letters with marks only the capitals of ASCII change. -/
theorem lowerChar_of_lt {c : Char} (h : c.toNat < 0xc0) :
    lowerChar c = [if 65 ≤ c.toNat ∧ c.toNat ≤ 90 then Char.ofNat (c.toNat + 32) else c] := by
  have hdotted : c ≠ '\u0130' := by
    rintro rfl
    exact absurd h (by decide)
  -- All rows but the first begin past this range.
  have htail : ∀ r ∈ caseRows.tail, 0xc0 ≤ r.lo := by decide +kernel
  have hnone : caseRows.tail.find? (·.holds c.toNat) = none := by
    rw [List.find?_eq_none]
    intro r hr hholds
    have := htail r hr
    have := ((r.holds_iff _).mp hholds).1.1
    omega
  have hfind : caseRows.find? (·.holds c.toNat) =
      if 65 ≤ c.toNat ∧ c.toNat ≤ 90 then some ⟨0x41, 0x5a, 1, 32⟩ else none := by
    rw [show caseRows = ⟨0x41, 0x5a, 1, 32⟩ :: caseRows.tail from rfl, List.find?_cons, hnone]
    have hhead := CaseRow.holds_iff ⟨0x41, 0x5a, 1, 32⟩ c.toNat
    by_cases hc : 65 ≤ c.toNat ∧ c.toNat ≤ 90
    · rw [hhead.mpr ⟨hc, Nat.mod_one _⟩, if_pos hc]
    · rw [Bool.eq_false_iff.mpr fun ht => hc (hhead.mp ht).1, if_neg hc]
  rw [lowerChar, if_neg hdotted, hfind]
  split
  · next hc =>
    split at hc
    · next hcapital =>
      cases hc
      rw [if_pos hcapital]
      rfl
    · cases hc
  · next hc =>
    split at hc
    · cases hc
    · next hcapital => rw [if_neg hcapital]

/-- One character becomes two; all others become one. -/
theorem lowerChar_cases (c : Char) :
    lowerChar c = ['i', '\u0307'] ∨ ∃ d, lowerChar c = [d] := by
  unfold lowerChar
  split
  · exact .inl rfl
  · split
    · exact .inr ⟨_, rfl⟩
    · exact .inr ⟨_, rfl⟩

/-- A number that is no character would give the null character. -/
theorem eq_of_toNat_ofNat {m n : Nat} (h : (Char.ofNat m).toNat = n) (hn : n ≠ 0) : m = n := by
  by_cases hm : m.isValidChar
  · rw [Char.ofNat, dif_pos hm] at h
    exact h
  · rw [Char.ofNat, dif_neg hm] at h
    exact absurd h.symm hn

/-- What becomes a small letter of ASCII, the Kelvin sign apart, is this letter in either case. -/
theorem lowerChar_eq_singleton_iff {d : Char} (hd : IsSmall d) (c : Char) :
    lowerChar c = [d] ↔ SameLetter c d := by
  constructor
  · intro h
    unfold lowerChar at h
    split at h
    · cases h
    · split at h
      · next r hr =>
        have hholds := (r.holds_iff _).mp (by simpa using List.find?_some hr)
        obtain ⟨⟨hlo, hhi⟩, -⟩ := hholds
        obtain ⟨hsmall, hne⟩ := hd
        have hvalue : (c.toNat + r.shift).toNat = d.toNat :=
          eq_of_toNat_ofNat (congrArg Char.toNat (List.singleton_inj.mp h)) (by omega)
        have hk : d.toNat ≠ 107 := fun hk => hne (Char.toNat_inj.mp hk)
        -- The row of the Kelvin sign is ruled out by its letter, other rows by their range.
        rcases shift_of_mem (List.mem_of_find?_eq_some hr) with ⟨hl, hh, hs⟩ | ⟨hl, hh, hs⟩ | hs
        · refine .inr (.inl ⟨⟨by omega, by omega⟩, by omega⟩)
        · omega
        · omega
      · exact .inl (List.singleton_inj.mp h)
  · intro h
    have hlt := h.toNat_le hd
    obtain ⟨hsmall, -⟩ := hd
    rw [lowerChar_of_lt (by omega)]
    rcases h with rfl | ⟨hc, hcd⟩ | ⟨hd', -⟩
    · rw [if_neg (by omega)]
    · rw [if_pos hc, ← hcd, Char.ofNat_toNat]
    · omega

/-! ## Words of small letters -/

/-- Character by character, a text in lower case is a text of small letters. -/
theorem flatMap_lowerChar_eq_iff {ds : List Char} (h : ∀ d ∈ ds, IsSmall d) (cs : List Char) :
    cs.flatMap lowerChar = ds ↔ List.Forall₂ SameLetter cs ds := by
  induction cs generalizing ds with
  | nil => simp [eq_comm]
  | cons c cs ih =>
      rw [List.flatMap_cons]
      constructor
      · intro heq
        rcases lowerChar_cases c with hc | ⟨d, hc⟩
        · -- The combining dot is no letter of the word.
          rw [hc] at heq
          subst heq
          exact absurd (h '\u0307' (by simp)) (by decide)
        · rw [hc] at heq
          subst heq
          obtain ⟨hd, hds⟩ := List.forall_mem_cons.mp h
          exact .cons ((lowerChar_eq_singleton_iff hd c).mp hc) ((ih hds).mp rfl)
      · intro hall
        cases hall with
        | cons hcd hrest =>
            obtain ⟨hd, hds⟩ := List.forall_mem_cons.mp h
            rw [(lowerChar_eq_singleton_iff hd c).mpr hcd, (ih hds).mpr hrest]
            rfl

/-- A word of small letters is the lower case of its spellings in either case of ASCII, and of
nothing else. -/
theorem lower_eq_iff {t : String} (h : ∀ d ∈ t.toList, IsSmall d) (s : String) :
    lower s = t ↔ Recased s t := by
  rw [Recased, ← flatMap_lowerChar_eq_iff h, lower]
  constructor
  · rintro rfl
    rw [String.toList_ofList]
  · intro heq
    rw [heq, String.ofList_toList]

/-- A small sigma has a form of its own at the end of a word, but neither form is a letter of such
a word. -/
theorem eq_iff_of_final_sigma {cs us : List Char}
    (hsigma : List.Forall₂ (fun c u => c = u ∨ c = 'σ' ∧ u = 'ς') cs us) {ds : List Char}
    (h : ∀ d ∈ ds, IsSmall d) : us = ds ↔ cs = ds := by
  induction hsigma generalizing ds with
  | nil => rfl
  | cons hcu _ ih =>
      constructor
      · rintro rfl
        obtain ⟨hu, hus⟩ := List.forall_mem_cons.mp h
        rcases hcu with rfl | ⟨-, rfl⟩
        · rw [(ih hus).mp rfl]
        · exact absurd hu (by decide)
      · rintro rfl
        obtain ⟨hc, hcs⟩ := List.forall_mem_cons.mp h
        rcases hcu with rfl | ⟨rfl, -⟩
        · rw [(ih hcs).mpr rfl]
        · exact absurd hc (by decide)

end GreetCalc.Text
