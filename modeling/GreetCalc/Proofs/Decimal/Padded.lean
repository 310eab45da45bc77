import GreetCalc.Proofs.Decimal.Numeral
import Mathlib.Data.Char
import Mathlib.Data.List.Lex
import Mathlib.Tactic.Linarith

/-!
# Numerals of a fixed width

With its leading zeros written, a numeral has the same number of digits as any other of its width.
Texts of such numerals, with marks between them, are then ordered like the lists of their numbers,
although texts are compared character by character (`Fields.lt_iff`).
-/

namespace GreetCalc.Decimal

open GreetCalc.Text

/-! ## Digits and their order -/

theorem value_cons (d : Char) (ds : List Char) :
    value (d :: ds) = 10 ^ ds.length * asciiDigitValue d + value ds := by
  simp only [value_eq_ofDigitChars]
  rw [Nat.ofDigitChars_cons, Nat.ofDigitChars_eq_ofDigitChars_zero, Nat.mul_zero, Nat.zero_add]
  rfl

theorem asciiDigitValue_lt {c : Char} (h : isAsciiDigit c = true) : asciiDigitValue c < 10 := by
  have := (isAsciiDigit_iff c).mp h
  show c.toNat - 48 < 10
  omega

/-- Digits write a number below the power of ten of their count. -/
theorem value_lt {ds : List Char} (h : ∀ c ∈ ds, isAsciiDigit c = true) :
    value ds < 10 ^ ds.length := by
  induction ds with
  | nil => exact Nat.one_pos
  | cons d ds ih =>
      obtain ⟨hd, hds⟩ := List.forall_mem_cons.mp h
      have hvalue := asciiDigitValue_lt hd
      have hrest := ih hds
      rw [value_cons, List.length_cons, Nat.pow_succ]
      nlinarith

theorem lt_iff_asciiDigitValue_lt {c d : Char} (hc : isAsciiDigit c = true)
    (hd : isAsciiDigit d = true) : c < d ↔ asciiDigitValue c < asciiDigitValue d := by
  have hc' := (isAsciiDigit_iff c).mp hc
  have hd' := (isAsciiDigit_iff d).mp hd
  rw [Char.lt_def, UInt32.lt_iff_toNat_lt]
  show c.toNat < d.toNat ↔ c.toNat - 48 < d.toNat - 48
  omega

theorem asciiDigitValue_inj {c d : Char} (hc : isAsciiDigit c = true)
    (hd : isAsciiDigit d = true) : c = d ↔ asciiDigitValue c = asciiDigitValue d := by
  have hc' := (isAsciiDigit_iff c).mp hc
  have hd' := (isAsciiDigit_iff d).mp hd
  rw [← Char.toNat_inj]
  show c.toNat = d.toNat ↔ c.toNat - 48 = d.toNat - 48
  omega

/-- Of two numbers the leading digit decides, and the rest only where it is the same. -/
theorem mul_add_lt_iff {p x y a b : Nat} (ha : a < p) (hb : b < p) :
    p * x + a < p * y + b ↔ x < y ∨ x = y ∧ a < b := by
  constructor
  · intro h
    rcases Nat.lt_trichotomy x y with hlt | rfl | hgt
    · exact .inl hlt
    · exact .inr ⟨rfl, by omega⟩
    · nlinarith
  · rintro (hlt | ⟨rfl, hlt⟩)
    · nlinarith
    · omega

/-- Digits in equal number are ordered like the numbers that they write. -/
theorem lt_iff_value_lt {as bs : List Char} (hlength : as.length = bs.length)
    (ha : ∀ c ∈ as, isAsciiDigit c = true) (hb : ∀ c ∈ bs, isAsciiDigit c = true) :
    as < bs ↔ value as < value bs := by
  induction as generalizing bs with
  | nil =>
      have hnil : bs = [] := List.eq_nil_of_length_eq_zero hlength.symm
      subst hnil
      simp
  | cons a as ih =>
      cases bs with
      | nil => cases hlength
      | cons b bs =>
          obtain ⟨ha, has⟩ := List.forall_mem_cons.mp ha
          obtain ⟨hb, hbs⟩ := List.forall_mem_cons.mp hb
          have hrest : as.length = bs.length := Nat.succ.inj hlength
          rw [List.cons_lt_cons_iff, ih hrest has hbs, lt_iff_asciiDigitValue_lt ha hb,
            asciiDigitValue_inj ha hb, value_cons, value_cons, hrest]
          exact (mul_add_lt_iff (hrest ▸ value_lt has) (value_lt hbs)).symm

/-! ## Padded numerals -/

/-- `ds` writes `n` with as many digits as `width` says. -/
structure Padded (width n : Nat) (ds : List Char) : Prop where
  length : ds.length = width
  digits : ∀ c ∈ ds, isAsciiDigit c = true
  value : value ds = n

theorem Padded.lt_iff {width m n : Nat} {as bs : List Char} (ha : Padded width m as)
    (hb : Padded width n bs) : as < bs ↔ m < n := by
  rw [lt_iff_value_lt (ha.length.trans hb.length.symm) ha.digits hb.digits, ha.value, hb.value]

theorem Padded.eq_iff {width m n : Nat} {as bs : List Char} (ha : Padded width m as)
    (hb : Padded width n bs) : as = bs ↔ m = n := by
  have hlt := ha.lt_iff hb
  have hgt := hb.lt_iff ha
  constructor
  · rintro rfl
    exact ha.value.symm.trans hb.value
  · rintro rfl
    rcases lt_trichotomy as bs with h | h | h
    · exact absurd (hlt.mp h) (Nat.lt_irrefl _)
    · exact h
    · exact absurd (hgt.mp h) (Nat.lt_irrefl _)

theorem padded_digits {width n : Nat} (hlo : 10 ^ width ≤ n) (hhi : n < 10 ^ (width + 1)) :
    Padded (width + 1) n (digits n) := by
  refine ⟨?_, fun _ => isAsciiDigit_of_mem_digits, value_digits n⟩
  have hle : (digits n).length ≤ width + 1 :=
    (Nat.length_toDigits_le_iff (by omega) (by omega)).mpr hhi
  rcases Nat.eq_zero_or_pos width with rfl | hpos
  · have := List.length_pos_of_ne_nil (digits_ne_nil n)
    omega
  · have hnot : ¬ (digits n).length ≤ width := fun h =>
      absurd ((Nat.length_toDigits_le_iff (by omega) hpos).mp h) (by omega)
    omega

/-! ## Numerals between marks -/

/-- Padded numerals one after the other. The layout gives the width of each but the last and the
mark after it. -/
inductive Fields : List (Nat × Char) → Nat → List Nat → List Char → Prop
  | last {width n : Nat} {ds : List Char} : Padded width n ds → Fields [] width [n] ds
  | more {width : Nat} {mark : Char} {layout : List (Nat × Char)} {final n : Nat} {ns : List Nat}
      {ds cs : List Char} : Padded width n ds → Fields layout final ns cs →
      Fields ((width, mark) :: layout) final (n :: ns) (ds ++ mark :: cs)

/-- Texts with beginnings of one length are compared by these first. -/
theorem append_lt_append_iff {as bs cs ds : List Char} (h : as.length = bs.length) :
    as ++ cs < bs ++ ds ↔ as < bs ∨ as = bs ∧ cs < ds := by
  induction as generalizing bs with
  | nil =>
      have hnil : bs = [] := List.eq_nil_of_length_eq_zero h.symm
      subst hnil
      simp
  | cons a as ih =>
      cases bs with
      | nil => cases h
      | cons b bs =>
          rw [List.cons_append, List.cons_append, List.cons_lt_cons_iff, ih (Nat.succ.inj h),
            List.cons_lt_cons_iff, List.cons.injEq]
          tauto

namespace Fields

variable {layout : List (Nat × Char)} {final : Nat} {ms ns : List Nat} {cs ds : List Char}

theorem length (h : Fields layout final ms cs) :
    cs.length = (layout.map fun field => field.1 + 1).sum + final := by
  induction h with
  | last h => simpa using h.length
  | more h _ ih =>
      rw [List.length_append, List.length_cons, h.length, ih, List.map_cons, List.sum_cons]
      omega

/-- Texts of one layout are ordered like the lists of their numbers. -/
theorem lt_iff (hc : Fields layout final ms cs) (hd : Fields layout final ns ds) :
    cs < ds ↔ ms < ns := by
  induction hc generalizing ns ds with
  | last ha =>
      cases hd with
      | last hb =>
          rw [ha.lt_iff hb]
          simp [List.cons_lt_cons_iff]
  | more ha _ ih =>
      cases hd with
      | more hb hd =>
          -- The numerals before the mark have one length, so the marks meet.
          rw [append_lt_append_iff (ha.length.trans hb.length.symm), ha.lt_iff hb, ha.eq_iff hb,
            List.cons_lt_cons_iff, List.cons_lt_cons_iff, ih hd]
          simp

/-- A text of a layout writes a single list of numbers. -/
theorem unique (hm : Fields layout final ms cs) (hn : Fields layout final ns cs) : ms = ns := by
  rcases lt_trichotomy ms ns with h | h | h
  · exact absurd ((hm.lt_iff hn).mpr h) (lt_irrefl cs)
  · exact h
  · exact absurd ((hn.lt_iff hm).mpr h) (lt_irrefl cs)

end Fields

end GreetCalc.Decimal
