import GreetCalc.Proofs.Addition
import Mathlib.Algebra.BigOperators.Group.List.Basic
import Mathlib.Algebra.Ring.Int.Defs
import Mathlib.Data.Nat.Find
import Mathlib.Order.Bounds.Basic

/-!
# Running totals

Words are added to a first one, one after another (`accumulate`). Where sums may not wrap around,
the order of the words matters: the total is given exactly if no sum on the way leaves the range of
words, and otherwise the addition that leaves it first is refused (`checked_sums`).

The two directions are one lemma each. While all sums on the way are words, every addition goes
through in either mode and leaves no record (`accumulate_of_fits`). The first sum that is none is
the first whose addition fails (`accumulate_of_escape`).
-/

namespace GreetCalc.Addition

/-- A running total and the records that were left on the way to it. -/
structure Running where
  value : Int
  records : List Record
  deriving DecidableEq, Repr

/-- Add a number to a running total. -/
def Running.add (m : OverflowMode) (r : Running) (x : Int) : Except Refusal Running := do
  let total ← Addition.add (.int r.value) (.int x) (.text m.text)
  return ⟨total.value, r.records ++ total.record.toList⟩

/-- Add numbers to a first one, from left to right. -/
def accumulate (m : OverflowMode) (s : Int) (xs : List Int) : Except Refusal Running :=
  xs.foldlM (Running.add m) ⟨s, []⟩

/-! ## One addition -/

section Step

variable {r : Running} {x : Int} (hr : Word.Fits r.value) (hx : Word.Fits x)

include hr hx

/-- A number that leads to a word is added as it is, in either mode. -/
theorem Running.add_of_fits (m : OverflowMode) (h : Word.Fits (r.value + x)) :
    r.add m x = .ok ⟨r.value + x, r.records⟩ := by
  have hadd : Addition.add (.int r.value) (.int x) (.text m.text) = .ok ⟨r.value + x, none⟩ := by
    rw [add_int, if_pos hr, if_pos hx]
    exact if_pos h
  rw [Running.add, hadd]
  show Except.ok _ = _
  simp

/-- A number that leads out of the range is refused where sums may not wrap around. -/
theorem Running.add_of_not_fits (h : ¬ Word.Fits (r.value + x)) :
    r.add .raise x = .error (.overflow r.value x) := by
  have hadd : Addition.add (.int r.value) (.int x) (.text OverflowMode.raise.text) =
      .error (.overflow r.value x) := by
    rw [add_int, if_pos hr, if_pos hx]
    exact if_neg h
  rw [Running.add, hadd]
  rfl

end Step

/-! ## Many additions -/

section Run

variable {s : Int} {xs : List Int} (hxs : ∀ x ∈ xs, Word.Fits x)

include hxs

/-- While all sums on the way are words, the total is their exact sum and no record is left. -/
theorem accumulate_of_fits (m : OverflowMode)
    (h : ∀ k ≤ xs.length, Word.Fits (s + (xs.take k).sum)) :
    accumulate m s xs = .ok ⟨s + xs.sum, []⟩ := by
  unfold accumulate
  induction xs generalizing s with
  | nil => simp [pure, Except.pure]
  | cons x xs ih =>
      have hs : Word.Fits s := by simpa using h 0 (by simp)
      have hsum : Word.Fits (s + x) := by simpa using h 1 (by simp)
      have hrest : ∀ k ≤ xs.length, Word.Fits (s + x + (xs.take k).sum) := by
        intro k hk
        simpa [add_assoc] using h (k + 1) (by simpa using hk)
      have hstep : Running.add m ⟨s, []⟩ x = .ok ⟨s + x, []⟩ :=
        Running.add_of_fits hs (hxs x (by simp)) m hsum
      rw [List.foldlM_cons, hstep]
      show xs.foldlM (Running.add m) ⟨s + x, []⟩ = _
      rw [ih (fun y hy => hxs y (List.mem_cons_of_mem _ hy)) hrest, List.sum_cons, add_assoc]

/-- The first sum on the way that is no word is refused, with the total so far and the word that was
to be added to it. -/
theorem accumulate_of_escape {k : Nat} (hk : k < xs.length)
    (hbefore : ∀ j ≤ k, Word.Fits (s + (xs.take j).sum))
    (hescape : ¬ Word.Fits (s + (xs.take (k + 1)).sum)) :
    accumulate .raise s (xs.take k) = .ok ⟨s + (xs.take k).sum, []⟩ ∧
    accumulate .raise s xs = .error (.overflow (s + (xs.take k).sum) xs[k]) := by
  have htake : accumulate .raise s (xs.take k) = .ok ⟨s + (xs.take k).sum, []⟩ := by
    apply accumulate_of_fits
    · intro x hx
      exact hxs x (List.mem_of_mem_take hx)
    · intro j hj
      have hjk : j ≤ k := by
        rw [List.length_take] at hj
        omega
      rw [List.take_take, min_eq_left hjk]
      exact hbefore j hjk
  have hsum : s + (xs.take (k + 1)).sum = s + (xs.take k).sum + xs[k] := by
    rw [List.sum_take_succ _ _ hk, add_assoc]
  have hstep : Running.add .raise ⟨s + (xs.take k).sum, []⟩ xs[k] =
      .error (.overflow (s + (xs.take k).sum) xs[k]) := by
    apply Running.add_of_not_fits (hbefore k (le_refl k)) (hxs _ (List.getElem_mem hk))
    rw [← hsum]
    exact hescape
  refine ⟨htake, ?_⟩
  -- What comes before the escape goes through, and what comes after it is never reached.
  have hsplit : xs = xs.take k ++ xs[k] :: xs.drop (k + 1) := by simp
  unfold accumulate at htake ⊢
  conv_lhs => rw [hsplit]
  rw [List.foldlM_append, htake]
  show (xs[k] :: xs.drop (k + 1)).foldlM (Running.add .raise) _ = _
  rw [List.foldlM_cons, hstep]
  rfl

end Run

/-- If some sum on the way from a word is no word, there is a first one, and an addition leads to
it. -/
theorem exists_first_escape {s : Int} {xs : List Int} (hs : Word.Fits s)
    (h : ¬ ∀ k ≤ xs.length, Word.Fits (s + (xs.take k).sum)) :
    ∃ k < xs.length, IsLeast {j | j ≤ xs.length ∧ ¬ Word.Fits (s + (xs.take j).sum)} (k + 1) := by
  have hex : ∃ j, j ≤ xs.length ∧ ¬ Word.Fits (s + (xs.take j).sum) := by simpa using h
  have hleast : IsLeast {j | j ≤ xs.length ∧ ¬ Word.Fits (s + (xs.take j).sum)} (Nat.find hex) :=
    ⟨Nat.find_spec hex, fun _ hj => Nat.find_min' hex hj⟩
  cases hfind : Nat.find hex with
  | zero =>
      rw [hfind] at hleast
      exact absurd (by simpa using hs) hleast.1.2
  | succ k =>
      rw [hfind] at hleast
      exact ⟨k, hleast.1.1, hleast⟩

/-- **Checked sums fail at the first escape.** Words are added to a word in the mode that refuses
sums outside the range of words. This goes through exactly if the sum of the first word and any
number of the others from the left is a word. The total is then the exact sum, it is also the one
in the mode that wraps around, and no record is left in either mode. Otherwise the additions before
the first sum that is no word go through, and the next one is refused, with the total so far and the
word added to it as its operands. -/
theorem checked_sums {s : Int} {xs : List Int} (hs : Word.Fits s) (hxs : ∀ x ∈ xs, Word.Fits x) :
    ((∃ r, accumulate .raise s xs = .ok r) ↔
      ∀ k ≤ xs.length, Word.Fits (s + (xs.take k).sum)) ∧
    (∀ r, accumulate .raise s xs = .ok r →
      r = ⟨s + xs.sum, []⟩ ∧ accumulate .wrap s xs = .ok ⟨s + xs.sum, []⟩) ∧
    (∀ refusal, accumulate .raise s xs = .error refusal →
      ∃ (k : Nat) (hk : k < xs.length),
        IsLeast {j | j ≤ xs.length ∧ ¬ Word.Fits (s + (xs.take j).sum)} (k + 1) ∧
        accumulate .raise s (xs.take k) = .ok ⟨s + (xs.take k).sum, []⟩ ∧
        refusal = .overflow (s + (xs.take k).sum) xs[k]) := by
  -- Either every sum on the way is a word, or there is a first one that is none.
  by_cases h : ∀ k ≤ xs.length, Word.Fits (s + (xs.take k).sum)
  · have hraise := accumulate_of_fits hxs .raise h
    have hwrap := accumulate_of_fits hxs .wrap h
    refine ⟨?_, ?_, ?_⟩
    · exact ⟨fun _ => h, fun _ => ⟨_, hraise⟩⟩
    · intro r hr
      rw [hraise] at hr
      cases hr
      exact ⟨rfl, hwrap⟩
    · intro refusal hrefusal
      rw [hraise] at hrefusal
      cases hrefusal
  · obtain ⟨k, hk, hleast⟩ := exists_first_escape hs h
    -- The escape is the first one, so all sums before it are words.
    have hbefore : ∀ j ≤ k, Word.Fits (s + (xs.take j).sum) := by
      intro j hj
      by_contra hfits
      have : k + 1 ≤ j := hleast.2 ⟨by omega, hfits⟩
      omega
    obtain ⟨htake, hfail⟩ := accumulate_of_escape hxs hk hbefore hleast.1.2
    refine ⟨?_, ?_, ?_⟩
    · refine ⟨?_, fun hall => absurd hall h⟩
      rintro ⟨r, hr⟩
      rw [hfail] at hr
      cases hr
    · intro r hr
      rw [hfail] at hr
      cases hr
    · intro refusal hrefusal
      rw [hfail] at hrefusal
      cases hrefusal
      exact ⟨k, hk, hleast, htake, rfl⟩

/-- Three words of which the second leads out of the range of words, and the third would lead back
in: in another order their checked sum is given. -/
theorem checked_sums_three :
    Word.Fits 2147483646 ∧ (∀ x ∈ [1, 1, (-5 : Int)], Word.Fits x) ∧
    (∃ (k : Nat) (hk : k < [1, 1, (-5 : Int)].length),
      IsLeast {j | j ≤ [1, 1, (-5 : Int)].length ∧
        ¬ Word.Fits (2147483646 + ([1, 1, (-5 : Int)].take j).sum)} (k + 1) ∧
      accumulate .raise 2147483646 ([1, 1, -5].take k) =
        .ok ⟨2147483646 + ([1, 1, -5].take k).sum, []⟩ ∧
      Refusal.overflow 2147483647 1 =
        .overflow (2147483646 + ([1, 1, -5].take k).sum) [1, 1, (-5 : Int)][k]) ∧
    ∃ r, accumulate .raise 2147483646 [1, -5, 1] = .ok r := by
  have hs : Word.Fits 2147483646 := by decide
  have hxs : ∀ x ∈ [1, 1, (-5 : Int)], Word.Fits x := by decide
  have hys : ∀ x ∈ [1, -5, (1 : Int)], Word.Fits x := by decide
  have hfail : accumulate .raise 2147483646 [1, 1, -5] = .error (.overflow 2147483647 1) := rfl
  have hfits : ∀ k ≤ [1, -5, (1 : Int)].length,
      Word.Fits (2147483646 + ([1, -5, (1 : Int)].take k).sum) := by decide
  exact ⟨hs, hxs, (checked_sums hs hxs).2.2 _ hfail, (checked_sums hs hys).1.mpr hfits⟩

end GreetCalc.Addition
