import GreetCalc.Decimal.Numeral

/-!
# Numerals that are read back

Reading accepts more than writing produces, but it gives back whatever was written: the canonical
numeral of an integer that is short enough reads as this integer (`readInt?_numeral`). Nothing of a
canonical numeral is a blank or a digit of another script, so the first passes of the reader leave
it alone, and what it then finds is a sign and the digits.
-/

namespace GreetCalc.Decimal

open GreetCalc.Text

/-! ## Digits -/

theorem isAsciiDigit_iff (c : Char) : isAsciiDigit c = true ↔ 48 ≤ c.toNat ∧ c.toNat ≤ 57 := by
  simp only [isAsciiDigit, Bool.and_eq_true, decide_eq_true_eq, Char.le_def,
    UInt32.le_iff_toNat_le]
  rfl

theorem isAsciiDigit_of_mem_digits {n : Nat} {c : Char} (h : c ∈ digits n) :
    isAsciiDigit c = true := by
  have hd : c.isDigit = true := Nat.isDigit_of_mem_toDigits (by omega) (by omega) h
  simpa [isAsciiDigit, Char.isDigit, Char.le_def] using hd

theorem digits_ne_nil (n : Nat) : digits n ≠ [] := Nat.toDigits_ne_nil

/-- A number below a power of ten has no more digits than the exponent says. -/
theorem length_digits_le {n k : Nat} (hk : 0 < k) (h : n < tenPow k) : (digits n).length ≤ k :=
  (Nat.length_toDigits_le_iff (by omega) hk).mpr h

theorem tenPow_le {k m : Nat} (h : k ≤ m) : tenPow k ≤ tenPow m :=
  Nat.pow_le_pow_right (by decide) h

theorem writable_of_lt {i : Int} {k : Nat} (hk : k ≤ digitLimit) (h : i.natAbs < tenPow k) :
    Writable i :=
  Nat.lt_of_lt_of_le h (tenPow_le hk)

theorem value_eq_ofDigitChars (ds : List Char) : value ds = Nat.ofDigitChars 10 ds 0 := by
  have hstep : (fun n d => n * 10 + asciiDigitValue d) =
      fun n (d : Char) => 10 * n + (d.toNat - '0'.toNat) := by
    funext n d
    rw [Nat.mul_comm]
    rfl
  rw [value, hstep]
  rfl

theorem value_digits (n : Nat) : value (digits n) = n := by
  rw [value_eq_ofDigitChars]
  exact Nat.ofDigitChars_ten_toDigits

/-! ## Runs of digits -/

/-- Plain digits are digits in groups, with a single group. -/
theorem ungroup?_of_digits {ds : List Char} (hne : ds ≠ [])
    (h : ∀ c ∈ ds, isAsciiDigit c = true) : ungroup? ds = some ds := by
  induction ds with
  | nil => exact absurd rfl hne
  | cons d ds ih =>
      obtain ⟨hd, hds⟩ := List.forall_mem_cons.mp h
      cases ds with
      | nil => simp [ungroup?, hd]
      | cons c cs =>
          -- The next character is a digit too, so no underscore is skipped.
          have hc : c ≠ '_' := by
            rintro rfl
            exact absurd (hds _ List.mem_cons_self) (by decide)
          simp [ungroup?, hd, hc, ih (by simp) hds]

/-- The digits of a number within the limit are read as this number. -/
theorem natOfGrouped?_digits {n : Nat} (h : n < tenPow digitLimit) :
    natOfGrouped? (digits n) = some n := by
  have hlen : (digits n).length ≤ digitLimit := length_digits_le (by decide) h
  rw [natOfGrouped?, ungroup?_of_digits (digits_ne_nil n) fun _ => isAsciiDigit_of_mem_digits]
  simp only [hlen, if_true, value_digits]

/-! ## Numerals -/

theorem trim_eq_self {cs : List Char} (h : ∀ c ∈ cs, isAsciiBlank c = false) : trim cs = cs := by
  have hstay : ∀ ds : List Char, (∀ c ∈ ds, isAsciiBlank c = false) →
      ds.dropWhile isAsciiBlank = ds := by
    intro ds hds
    cases ds with
    | nil => rfl
    | cons d ds => rw [List.dropWhile_cons_of_neg (by simp [hds d])]
  rw [trim, hstay cs h, hstay cs.reverse fun c hc => h c (List.mem_reverse.mp hc),
    List.reverse_reverse]

/-- The characters of a canonical numeral pass the first steps of the reader unchanged. -/
theorem trim_map_asciiForm {cs : List Char} (h : ∀ c ∈ cs, c = '-' ∨ isAsciiDigit c = true) :
    trim (cs.map asciiForm) = cs := by
  -- Signs and digits lie in a range where nothing is replaced and nothing is blank.
  have hrange : ∀ c ∈ cs, 45 ≤ c.toNat ∧ c.toNat ≤ 57 := by
    intro c hc
    rcases h c hc with rfl | hd
    · decide
    · have := (isAsciiDigit_iff c).mp hd
      omega
  have hmap : cs.map asciiForm = cs := by
    apply (List.map_congr_left ?_).trans (List.map_id cs)
    intro c hc
    have := hrange c hc
    rw [asciiForm, if_pos (by omega)]
    rfl
  rw [hmap]
  apply trim_eq_self
  intro c hc
  have hc := hrange c hc
  have hspace : c ≠ ' ' := by
    rintro rfl
    exact absurd hc.1 (by decide)
  simp [isAsciiBlank, hspace]
  omega

theorem toList_numeral_of_neg {i : Int} (h : i < 0) :
    (numeral i).toList = '-' :: digits i.natAbs := by
  rw [numeral, String.toList_ofList, if_pos h]

theorem toList_numeral_of_nonneg {i : Int} (h : 0 ≤ i) :
    (numeral i).toList = digits i.natAbs := by
  rw [numeral, String.toList_ofList, if_neg (by omega)]

/-- **What is written is read back.** -/
theorem readInt?_numeral {i : Int} (h : Writable i) : readInt? (numeral i) = some i := by
  have hdigits : ∀ c ∈ digits i.natAbs, c = '-' ∨ isAsciiDigit c = true := fun c hc =>
    .inr (isAsciiDigit_of_mem_digits hc)
  have hread : natOfGrouped? (digits i.natAbs) = some i.natAbs := natOfGrouped?_digits h
  by_cases hneg : i < 0
  · have htrim : trim ((numeral i).toList.map asciiForm) = '-' :: digits i.natAbs := by
      rw [toList_numeral_of_neg hneg]
      exact trim_map_asciiForm (List.forall_mem_cons.mpr ⟨.inl rfl, hdigits⟩)
    simp only [readInt?, htrim, hread]
    show some (-(i.natAbs : Int)) = some i
    simp only [Option.some.injEq]
    omega
  · have htrim : trim ((numeral i).toList.map asciiForm) = digits i.natAbs := by
      rw [toList_numeral_of_nonneg (by omega)]
      exact trim_map_asciiForm hdigits
    -- A numeral without a sign does not begin like one with a sign.
    have hsign : ∀ c, isAsciiDigit c = false → (digits i.natAbs).head? ≠ some c := by
      intro c hc hhead
      rw [isAsciiDigit_of_mem_digits (List.mem_of_head? hhead)] at hc
      cases hc
    rw [readInt?, htrim]
    split
    · next heq => exact absurd (by rw [heq]; rfl) (hsign '-' (by decide))
    · next heq => exact absurd (by rw [heq]; rfl) (hsign '+' (by decide))
    · rw [hread]
      show some (i.natAbs : Int) = some i
      simp only [Option.some.injEq]
      omega

end GreetCalc.Decimal
