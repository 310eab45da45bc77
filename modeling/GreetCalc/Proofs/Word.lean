import GreetCalc.Word
import Mathlib.Data.Int.ModEq

/-!
# Words as residues

Two words that are congruent modulo the number of words are equal (`eq_of_fits_of_modEq`), so
wrapping picks the only word in each residue class (`wrap_eq_iff`). It follows that wrapping is the
remainder of the distance from the least word (`wrap_eq_emod`), that operands may be wrapped before
they are added (`wrap_add_wrap`), and that wrapping a sum is what a machine with words of 32 bits
does (`wrap_add_eq_toInt`).
-/

namespace GreetCalc.Word

/-- Wrapping changes an integer by a multiple of the number of words. -/
theorem wrap_modEq (v : Int) : wrap v ≡ v [ZMOD modulus] := by
  show v.bmod modulus % modulus = v % modulus
  exact Int.bmod_emod

/-- The words are fewer than their modulus apart from one another. -/
theorem eq_of_fits_of_modEq {v w : Int} (hv : Fits v) (hw : Fits w) (h : v ≡ w [ZMOD modulus]) :
    v = w := by
  rw [Fits, least_eq, greatest_eq] at hv hw
  rw [Int.ModEq, modulus_eq] at h
  omega

/-- The word that an integer wraps to is the only one that is congruent to it. -/
theorem wrap_eq_iff {v w : Int} : wrap v = w ↔ Fits w ∧ w ≡ v [ZMOD modulus] := by
  constructor
  · rintro rfl
    exact ⟨fits_wrap v, wrap_modEq v⟩
  · rintro ⟨hw, h⟩
    exact eq_of_fits_of_modEq (fits_wrap v) hw ((wrap_modEq v).trans h.symm)

theorem wrap_of_fits {v : Int} (h : Fits v) : wrap v = v := (wrap_eq_self_iff v).mpr h

/-- Wrapping as a remainder that is counted from the least word. -/
theorem wrap_eq_emod (v : Int) : wrap v = (v - least) % modulus + least := by
  rw [wrap_eq_iff]
  constructor
  · rw [Fits, least_eq, greatest_eq, modulus_eq]
    omega
  · have h : (v - least) % modulus ≡ v - least [ZMOD modulus] := Int.mod_modEq _ _
    simpa using h.add_right least

/-- It does not matter whether the parts of a sum have been wrapped before. -/
theorem wrap_add_wrap (v w : Int) : wrap (wrap v + wrap w) = wrap (v + w) := by
  rw [wrap_eq_iff]
  refine ⟨fits_wrap _, ?_⟩
  calc wrap (v + w) ≡ v + w [ZMOD modulus] := wrap_modEq _
    _ ≡ wrap v + wrap w [ZMOD modulus] := ((wrap_modEq v).add (wrap_modEq w)).symm

/-- Wrapping reads the low bits of an integer as a signed number. -/
theorem wrap_eq_toInt (v : Int) : wrap v = (BitVec.ofInt bits v).toInt := by
  rw [BitVec.toInt_ofInt]
  rfl

/-- Wrapping a sum is addition of 32-bit words in two's complement. -/
theorem wrap_add_eq_toInt (v w : Int) :
    wrap (v + w) = (BitVec.ofInt bits v + BitVec.ofInt bits w).toInt := by
  rw [wrap_eq_toInt, BitVec.ofInt_add]

end GreetCalc.Word
