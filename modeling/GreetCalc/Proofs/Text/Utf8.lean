import GreetCalc.Text.Utf8
import Mathlib.Algebra.Group.Nat.Defs

/-!
# Reading UTF-8 back

A character is written with one octet, or with a lead octet and a tail of one, two or three octets
that hold six bits of the code point each (`utf8EncodeChar_cases`). How many there are depends on
the range that the code point lies in (`Owes`). A lead octet announces the code points of its range
that begin with its bits, and no others (`exists_lead?`, `owes_of_fits`), and the reader goes
through the tail one octet at a time (`decodeFrom_tail`). So the octets that a character is written
with pass all checks (`decodeFrom_char`), and reading gives back what was written (`decode_encode`).
-/

namespace GreetCalc.Text.Utf8

/-! ## How characters are written -/

/-- The last octets of a character, which hold the last bits of its code point, six in each. -/
def tail : Nat → Nat → List UInt8
  | 0, _ => []
  | k + 1, v => UInt8.ofNat (v / 64 ^ k % 64 + 0x80) :: tail k v

/-- The mark of a lead octet, by the number of octets in the tail. -/
def leadMark : Nat → Nat
  | 1 => 0xc0
  | 2 => 0xe0
  | _ => 0xf0

/-- A code point is written with a lead octet and a tail of this many octets. Surrogates are no code
points of characters. -/
inductive Owes : Nat → Nat → Prop
  | one {v : Nat} : 0x7f < v → v ≤ 0x7ff → Owes 1 v
  | two {v : Nat} : 0x7ff < v → v ≤ 0xffff → v < 0xd800 ∨ 0xdfff < v → Owes 2 v
  | three {v : Nat} : 0xffff < v → v < 0x110000 → Owes 3 v

theorem length_tail (k v : Nat) : (tail k v).length = k := by
  induction k with
  | zero => rfl
  | succ k ih => rw [tail, List.length_cons, ih]

namespace Owes

variable {k v : Nat}

theorem exists_succ (h : Owes k v) : ∃ m, k = m + 1 := by
  cases h <;> exact ⟨_, rfl⟩

theorem le_lead (h : Owes k v) : 0xc0 ≤ leadMark k + v / 64 ^ k := by
  cases h <;> simp only [leadMark] <;> omega

theorem lead_lt (h : Owes k v) : leadMark k + v / 64 ^ k < 256 := by
  cases h <;> simp only [leadMark] <;> omega

/-- The range of a code point determines the number of octets. -/
theorem unique {k' : Nat} (h : Owes k v) (h' : Owes k' v) : k = k' := by
  cases h <;> cases h' <;> first | rfl | omega

end Owes

/-- A character is written as one octet, or as a lead octet and a tail. -/
theorem utf8EncodeChar_cases (c : Char) :
    (c.toNat ≤ 0x7f ∧ String.utf8EncodeChar c = [UInt8.ofNat c.toNat]) ∨
    ∃ k, Owes k c.toNat ∧
      String.utf8EncodeChar c =
        UInt8.ofNat (leadMark k + c.toNat / 64 ^ k) :: tail k c.toNat := by
  have hscalar : c.toNat < 0xd800 ∨ (0xdfff < c.toNat ∧ c.toNat < 0x110000) := c.valid
  fun_cases String.utf8EncodeChar c with
  | case1 v h => exact .inl ⟨h, rfl⟩
  | case2 v h h' =>
      have hv : v = c.toNat := rfl
      have hlead : v / 64 % 0x20 + 0xc0 = leadMark 1 + c.toNat / 64 ^ 1 := by
        simp only [leadMark]
        omega
      refine .inr ⟨1, .one (by omega) h', ?_⟩
      rw [hlead]
      simp [tail, hv]
  | case3 v _ h h' =>
      have hv : v = c.toNat := rfl
      have hlead : v / 4096 % 0x10 + 0xe0 = leadMark 2 + c.toNat / 64 ^ 2 := by
        simp only [leadMark]
        omega
      refine .inr ⟨2, .two (by omega) h' (by omega), ?_⟩
      rw [hlead]
      simp [tail, hv]
  | case4 v _ _ h =>
      have hv : v = c.toNat := rfl
      have hlead : v / 262144 % 0x08 + 0xf0 = leadMark 3 + c.toNat / 64 ^ 3 := by
        simp only [leadMark]
        omega
      refine .inr ⟨3, .three (by omega) (by omega), ?_⟩
      rw [hlead]
      simp [tail, hv]

/-! ## One octet -/

theorem toNat_octet {n : Nat} (h : n < 256) : (UInt8.ofNat n).toNat = n := by
  rw [UInt8.toNat_ofNat', Nat.mod_eq_of_lt h]

/-- A code point begins with the bits of a lead octet, and its next bits are allowed after it. -/
def Lead.Fits (l : Lead) (v : Nat) : Prop :=
  v / 64 ^ l.owed = l.code ∧
  l.lo ≤ v / 64 ^ (l.owed - 1) % 64 + 0x80 ∧ v / 64 ^ (l.owed - 1) % 64 + 0x80 ≤ l.hi

/-- The lead octet of a code point is one, and announces it. -/
theorem exists_lead? {k v : Nat} (h : Owes k v) :
    ∃ l, lead? (UInt8.ofNat (leadMark k + v / 64 ^ k)) = some l ∧ l.owed = k ∧ l.Fits v := by
  have hlt := h.lead_lt
  simp only [lead?, toNat_octet hlt]
  cases h with
  | one hlo hhi =>
      simp only [leadMark]
      rw [if_neg (by omega), if_pos (by omega)]
      exact ⟨_, rfl, rfl, by simp only; omega, by simp only; omega, by simp only; omega⟩
  | two hlo hhi hscalar =>
      simp only [leadMark]
      rw [if_neg (by omega), if_neg (by omega), if_pos (by omega)]
      refine ⟨_, rfl, rfl, by simp only; omega, ?_, ?_⟩ <;> simp only <;> split <;> omega
  | three hlo hhi =>
      simp only [leadMark]
      rw [if_neg (by omega), if_neg (by omega), if_neg (by omega), if_pos (by omega)]
      refine ⟨_, rfl, rfl, by simp only; omega, ?_, ?_⟩ <;> simp only <;> split <;> omega

/-- A lead octet announces no other code points than those that are written with it. -/
theorem owes_of_fits {b : UInt8} {l : Lead} (hl : lead? b = some l) {v : Nat} (h : l.Fits v) :
    Owes l.owed v ∧ b = UInt8.ofNat (leadMark l.owed + v / 64 ^ l.owed) := by
  have hb : ∀ {n : Nat}, n = b.toNat → b = UInt8.ofNat n := by
    rintro n rfl
    rw [UInt8.ofNat_toNat]
  obtain ⟨hcode, hlo, hhi⟩ := h
  -- The bounds of the next octet keep out surrogates and code points of other ranges.
  simp only [lead?] at hl
  split at hl
  · cases hl
  split at hl
  · obtain rfl := Option.some.inj hl
    dsimp only at hcode hlo hhi ⊢
    exact ⟨.one (by omega) (by omega), hb (by simp only [leadMark]; omega)⟩
  split at hl
  · obtain rfl := Option.some.inj hl
    dsimp only at hcode hlo hhi ⊢
    refine ⟨.two ?_ (by omega) ?_, hb (by simp only [leadMark]; omega)⟩
    · split at hlo <;> omega
    · split at hhi <;> omega
  split at hl
  · obtain rfl := Option.some.inj hl
    dsimp only at hcode hlo hhi ⊢
    refine ⟨.three ?_ ?_, hb (by simp only [leadMark]; omega)⟩
    · split at hlo <;> omega
    · split at hhi <;> omega
  · cases hl

/-! ## One character -/

section Characters

variable (position : Nat) {c : Char} (bs : List UInt8)

/-- The reader takes the tail of a character after the bits that it has. Only the first octet of the
tail may have to lie in a narrower range. -/
theorem decodeFrom_tail (lead : UInt8) {m : Nat} : ∀ {k code lo hi : Nat},
    c.toNat / 64 ^ (m + 1) = code →
    lo ≤ c.toNat / 64 ^ m % 64 + 0x80 ∧ c.toNat / 64 ^ m % 64 + 0x80 ≤ hi →
    decodeFrom position (some ⟨lead, k, ⟨code, m + 1, lo, hi⟩⟩) (tail (m + 1) c.toNat ++ bs) =
      (decodeFrom (position + k + m + 2) none bs).map (c :: ·) := by
  have hoctet : ∀ n, n % 64 + 0x80 < 256 := by omega
  -- After the first octet of the tail any six bits may follow, so the induction goes on by itself.
  induction m with
  | zero =>
      intro k code lo hi hcode hnext
      have hlast : code * 64 + (c.toNat / 64 ^ 0 % 64 + 0x80 - 0x80) = c.toNat := by omega
      rw [tail, tail, List.cons_append, List.nil_append, decodeFrom, toNat_octet (hoctet _)]
      dsimp only
      rw [if_pos hnext, if_pos (by omega), hlast, Char.ofNat_toNat]
  | succ m ih =>
      intro k code lo hi hcode hnext
      have hbits : code * 64 + (c.toNat / 64 ^ (m + 1) % 64 + 0x80 - 0x80) =
          c.toNat / 64 ^ (m + 1) := by
        rw [← hcode, Nat.pow_succ 64 (m + 1), ← Nat.div_div_eq_div_mul]
        omega
      have hposition : position + (k + 1) + m + 2 = position + k + (m + 1) + 2 := by omega
      rw [tail, List.cons_append, decodeFrom, toNat_octet (hoctet _)]
      dsimp only
      rw [if_pos hnext, if_neg (by omega), hbits, Nat.add_sub_cancel, ih rfl (by omega), hposition]

/-- The octets that a character is written with are read as that character. -/
theorem decodeFrom_char :
    decodeFrom position none (String.utf8EncodeChar c ++ bs) =
      (decodeFrom (position + (String.utf8EncodeChar c).length) none bs).map (c :: ·) := by
  rcases utf8EncodeChar_cases c with ⟨hc, hwritten⟩ | ⟨k, howes, hwritten⟩
  · rw [hwritten, List.singleton_append, decodeFrom, toNat_octet (by omega), if_pos (by omega),
      Char.ofNat_toNat]
    rfl
  · obtain ⟨l, hl, rfl, hfits⟩ := exists_lead? howes
    obtain ⟨m, hm⟩ := howes.exists_succ
    have hlead := howes.le_lead
    rw [hwritten, List.cons_append, decodeFrom, toNat_octet howes.lead_lt, if_neg (by omega), hl]
    dsimp only
    obtain ⟨code, owed, lo, hi⟩ := l
    obtain rfl : owed = m + 1 := hm
    rw [decodeFrom_tail position bs _ hfits.1 hfits.2, List.length_cons, length_tail]
    rfl

end Characters

/-! ## Texts -/

theorem encode_cons (c : Char) (cs : List Char) :
    encode (c :: cs) = String.utf8EncodeChar c ++ encode cs := List.flatMap_cons

/-- The octets that a text is written with are read as that text, whatever comes after them. -/
theorem decodeFrom_encode (position : Nat) (cs : List Char) (bs : List UInt8) :
    decodeFrom position none (encode cs ++ bs) =
      (decodeFrom (position + (encode cs).length) none bs).map (cs ++ ·) := by
  induction cs generalizing position with
  | nil =>
      show decodeFrom position none bs = (decodeFrom position none bs).map _
      cases decodeFrom position none bs with
      | error f => rfl
      | ok ds => rfl
  | cons c cs ih =>
      rw [encode_cons, List.append_assoc, decodeFrom_char, ih, List.length_append, ← Nat.add_assoc]
      cases decodeFrom _ none bs with
      | error f => rfl
      | ok ds => rfl

/-- Reading gives back what was written. -/
theorem decode_encode (cs : List Char) : decode (encode cs) = .ok cs := by
  have h := decodeFrom_encode 0 cs []
  rw [List.append_nil] at h
  rw [decode, h]
  show Except.ok (cs ++ []) = _
  rw [List.append_nil]

end GreetCalc.Text.Utf8
