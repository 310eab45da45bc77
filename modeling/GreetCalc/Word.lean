/-!
# Machine words

The integers that a signed word of 32 bits can hold, and the reduction of any integer to one of
them. `wrap v` is the word congruent to `v` modulo the number of words, so a sum that leaves the
range comes back in from the other end.
-/

namespace GreetCalc.Word

def bits : Nat := 32

def modulus : Nat := Nat.pow 2 bits

/-- How many words are negative. -/
def half : Nat := Nat.pow 2 (bits - 1)

def least : Int := -(half : Int)

def greatest : Int := (half : Int) - 1

/-- `v` is the value of a word. -/
def Fits (v : Int) : Prop := least ≤ v ∧ v ≤ greatest

instance (v : Int) : Decidable (Fits v) := inferInstanceAs (Decidable (_ ∧ _))

/-- The word that `v` is congruent to modulo the number of words. -/
def wrap (v : Int) : Int := v.bmod modulus

theorem modulus_eq : modulus = 4294967296 := rfl

theorem least_eq : least = -2147483648 := rfl

theorem greatest_eq : greatest = 2147483647 := rfl

/-- Every integer wraps to a word. -/
theorem fits_wrap (v : Int) : Fits (wrap v) := by
  have h₁ : -((modulus : Nat) / 2 : Int) ≤ wrap v := Int.le_bmod (by decide)
  have h₂ : wrap v < ((modulus : Nat) + 1) / 2 := Int.bmod_lt (by decide)
  rw [modulus_eq] at h₁ h₂
  rw [Fits, least_eq, greatest_eq]
  omega

/-- A word wraps to itself, and nothing else does. -/
theorem wrap_eq_self_iff (v : Int) : wrap v = v ↔ Fits v := by
  constructor
  · intro h
    rw [← h]
    exact fits_wrap v
  · intro h
    rw [Fits, least_eq, greatest_eq] at h
    rw [wrap, modulus_eq]
    exact Int.bmod_eq_of_le (by omega) (by omega)

end GreetCalc.Word
