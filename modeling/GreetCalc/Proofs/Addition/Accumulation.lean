import GreetCalc.Proofs.Addition
import GreetCalc.Proofs.Word
import Mathlib.Algebra.BigOperators.Group.List.Basic

/-!
# Adding many words

Many words are added two at a time, in some order and grouping (`Bracketing`). Where sums wrap
around, neither the order nor the grouping shows in the total: it is the word that the exact sum
wraps to (`Bracketing.total_wrap`), although the sums on the way may have left the range of words
and come back any number of times.
-/

namespace GreetCalc.Addition

/-- In the mode that wraps around, two words always have a sum. -/
theorem add_wrap {a b : Int} (ha : Word.Fits a) (hb : Word.Fits b) :
    ∃ total, add (.int a) (.int b) (.text OverflowMode.wrap.text) = .ok total ∧
      total.value = Word.wrap (a + b) := by
  rcases add_int_cases .wrap a b with ⟨himp, -⟩ | ⟨-, total, hvalue, hadd⟩
  · rcases himp with h | h | ⟨h, -⟩
    · exact absurd ha h
    · exact absurd hb h
    · cases h
  · exact ⟨total, hadd, hvalue⟩

/-! ## Orders and groupings -/

/-- A way of adding numbers two at a time. -/
inductive Bracketing where
  | word (n : Int)
  | sum (l r : Bracketing)
  deriving DecidableEq, Repr

namespace Bracketing

/-- The numbers that are added, from left to right. -/
def words : Bracketing → List Int
  | .word n => [n]
  | .sum l r => l.words ++ r.words

/-- What the numbers add up to in a mode, with every sum taken by `add`. -/
def total (m : OverflowMode) : Bracketing → Except Refusal Int
  | .word n => .ok n
  | .sum l r => do
    let x ← l.total m
    let y ← r.total m
    return (← add (.int x) (.int y) (.text m.text)).value

/-- In the mode that wraps around, words add up to what their exact sum wraps to. -/
theorem total_wrap {t : Bracketing} (h : ∀ n ∈ t.words, Word.Fits n) :
    t.total .wrap = .ok (Word.wrap t.words.sum) := by
  induction t with
  | word n =>
      have hn : Word.Fits n := h n (by simp [words])
      simp [total, words, Word.wrap_of_fits hn]
  | sum l r ihl ihr =>
      have hl := ihl fun n hn => h n (List.mem_append_left _ hn)
      have hr := ihr fun n hn => h n (List.mem_append_right _ hn)
      -- What each side adds up to is a word again, so it may be added.
      obtain ⟨sum, hadd, hvalue⟩ :=
        add_wrap (Word.fits_wrap l.words.sum) (Word.fits_wrap r.words.sum)
      rw [Word.wrap_add_wrap, ← List.sum_append] at hvalue
      rw [total, hl, hr]
      show Except.bind (add _ _ _) _ = _
      rw [hadd, words, ← hvalue]
      rfl

end Bracketing

/-- **Sums that wrap around are sums of machine words.** Two words add up to what a machine with
words of 32 bits makes of them. Many words, in whatever order and grouping they are added, add up
to the word that their exact sum wraps to. An integer wraps to the only word that is congruent to
it, which is its distance from the least word reduced to a remainder, and to itself exactly if it
is a word. -/
theorem wrapping_sums :
    (∀ a b, Word.Fits a → Word.Fits b →
      ∃ total, add (.int a) (.int b) (.text "wrap") = .ok total ∧
        total.value = (BitVec.ofInt 32 a + BitVec.ofInt 32 b).toInt) ∧
    (∀ (xs ys : List Int) (t : Bracketing), (∀ x ∈ xs, Word.Fits x) → ys.Perm xs → t.words = ys →
      ∃ v, t.total .wrap = .ok v ∧ Word.Fits v ∧ v = Word.wrap xs.sum) ∧
    (∀ t u : Bracketing, (∀ x ∈ t.words, Word.Fits x) → t.words.Perm u.words →
      t.total .wrap = u.total .wrap) ∧
    (∀ v, Word.Fits (Word.wrap v) ∧ Word.wrap v ≡ v [ZMOD 4294967296] ∧
      (∀ w, Word.Fits w → w ≡ v [ZMOD 4294967296] → w = Word.wrap v) ∧
      Word.wrap v = (v - Word.least) % 4294967296 + Word.least) ∧
    (∀ v, Word.Fits v ↔ Word.wrap v = v) := by
  -- Order and grouping drop out here, once for both statements about them.
  have htotal : ∀ (xs : List Int) (t : Bracketing), (∀ x ∈ xs, Word.Fits x) → t.words.Perm xs →
      t.total .wrap = .ok (Word.wrap xs.sum) := by
    intro xs t hx hperm
    rw [Bracketing.total_wrap fun n hn => hx n (hperm.mem_iff.mp hn), hperm.sum_eq]
  refine ⟨?_, ?_, ?_, ?_, ?_⟩
  · intro a b ha hb
    obtain ⟨total, hadd, hvalue⟩ := add_wrap ha hb
    refine ⟨total, hadd, ?_⟩
    rw [hvalue]
    exact Word.wrap_add_eq_toInt a b
  · rintro xs ys t hx hperm rfl
    exact ⟨_, htotal xs t hx hperm, Word.fits_wrap _, rfl⟩
  · intro t u ht hperm
    have hu : ∀ x ∈ u.words, Word.Fits x := fun x hx => ht x (hperm.mem_iff.mpr hx)
    rw [htotal u.words t hu hperm, htotal u.words u hu (.refl _)]
  · intro v
    refine ⟨Word.fits_wrap v, Word.wrap_modEq v, ?_, Word.wrap_eq_emod v⟩
    intro w hw h
    exact (Word.wrap_eq_iff.mpr ⟨hw, h⟩).symm
  · intro v
    exact (Word.wrap_eq_self_iff v).symm

/-- Three words whose sum is one of them again: one grouping leaves the range of words on the way,
and the other does not. -/
theorem wrapping_sums_three :
    (∀ x ∈ [2147483647, 1, -1], Word.Fits x) ∧
    [2147483647, 1, -1].Perm [1, -1, (2147483647 : Int)] ∧
    (∃ total, add (.int 2147483647) (.int 1) (.text "wrap") = .ok total ∧
      total.value = (BitVec.ofInt 32 2147483647 + BitVec.ofInt 32 1).toInt) ∧
    (∃ v, (Bracketing.sum (.sum (.word 2147483647) (.word 1)) (.word (-1))).total .wrap = .ok v ∧
      Word.Fits v ∧ v = Word.wrap [1, -1, (2147483647 : Int)].sum) ∧
    (Bracketing.sum (.sum (.word 2147483647) (.word 1)) (.word (-1))).total .wrap =
      (Bracketing.sum (.word 1) (.sum (.word (-1)) (.word 2147483647))).total .wrap := by
  have hfits : ∀ x ∈ [2147483647, 1, -1], Word.Fits x := by decide
  have hfits' : ∀ x ∈ [1, -1, 2147483647], Word.Fits x := by decide
  have hperm : [2147483647, 1, -1].Perm [1, -1, (2147483647 : Int)] := by decide
  obtain ⟨hadd, htotal, hsame, -⟩ := wrapping_sums
  exact ⟨hfits, hperm, hadd _ _ (by decide) (by decide), htotal _ _ _ hfits' hperm rfl,
    hsame _ _ hfits hperm⟩

end GreetCalc.Addition
