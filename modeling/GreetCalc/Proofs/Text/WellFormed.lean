import GreetCalc.Proofs.Text.Utf8
import Mathlib.Order.Bounds.Basic

/-!
# Octets that are UTF-8

Octets are well formed if some text is written with them. The reader accepts exactly these
(`decode_eq_ok_iff`), and where it stops at a fault, the octets before the faulty sequence are the
longest beginning that is well formed (`isGreatest_position`).

While the reader is inside a character, the octets read so far leave their traces in its state
(`Begun`). An octet that finishes the character makes up, with those before it, the octets that the
character is written with (`Begun.finish`). This carries the one induction over the reader
(`Reading.of_decodeFrom`), which accounts for what was read up to the end or up to the fault.
-/

namespace GreetCalc.Text.Utf8

/-- Octets that some text is written with. -/
def WellFormed (bs : List UInt8) : Prop := ∃ cs, encode cs = bs

/-! ## How characters are written -/

theorem toNat_ofNat {n : Nat} (h : n < 0xd800 ∨ (0xdfff < n ∧ n < 0x110000)) :
    (Char.ofNat n).val.toNat = n := by
  have hvalid : n.isValidChar := h
  rw [Char.ofNat, dif_pos hvalid]
  rfl

theorem written_one {b : UInt8} (h : b.toNat < 0x80) :
    String.utf8EncodeChar (Char.ofNat b.toNat) = [b] := by
  simp only [String.utf8EncodeChar, toNat_ofNat (n := b.toNat) (by omega)]
  rw [if_pos (by omega), UInt8.ofNat_toNat]

/-- A code point in the range of a lead octet is written with this octet and a tail. -/
theorem written_owed {k v : Nat} (h : Owes k v) :
    String.utf8EncodeChar (Char.ofNat v) = UInt8.ofNat (leadMark k + v / 64 ^ k) :: tail k v := by
  have hv : (Char.ofNat v).toNat = v := by
    apply toNat_ofNat
    cases h <;> omega
  rcases utf8EncodeChar_cases (Char.ofNat v) with ⟨hone, -⟩ | ⟨k', h', hwritten⟩
  · rw [hv] at hone
    cases h <;> omega
  · rw [hv] at h' hwritten
    rw [hwritten, h.unique h']

/-! ## Characters that are not finished -/

/-- The octets that have been read of a character that is not finished. -/
inductive Begun : Unfinished → List UInt8 → Prop
  | lead {b : UInt8} {l : Lead} : lead? b = some l → Begun ⟨b, 0, l⟩ [b]
  | next {p : Unfinished} {octets : List UInt8} {b : UInt8} : Begun p octets →
      p.rest.lo ≤ b.toNat ∧ b.toNat ≤ p.rest.hi → ¬ p.rest.owed ≤ 1 →
      Begun ⟨p.lead, p.continued + 1,
        ⟨p.rest.code * 64 + (b.toNat - 0x80), p.rest.owed - 1, 0x80, 0xbf⟩⟩ (octets ++ [b])

/-- Whatever a lead octet announces, some octets must follow, and the next one holds six bits. -/
theorem bounds_of_lead? {b : UInt8} {l : Lead} (h : lead? b = some l) :
    0 < l.owed ∧ 0x80 ≤ l.lo ∧ l.hi ≤ 0xbf := by
  simp only [lead?] at h
  split at h
  · cases h
  split at h
  · obtain rfl := Option.some.inj h
    exact ⟨Nat.one_pos, Nat.le_refl _, Nat.le_refl _⟩
  split at h
  · obtain rfl := Option.some.inj h
    refine ⟨Nat.succ_pos _, ?_, ?_⟩ <;> dsimp only <;> split <;> decide
  split at h
  · obtain rfl := Option.some.inj h
    refine ⟨Nat.succ_pos _, ?_, ?_⟩ <;> dsimp only <;> split <;> decide
  · cases h

namespace Begun

variable {p : Unfinished} {octets : List UInt8} {b : UInt8} {v : Nat}

theorem length (h : Begun p octets) : octets.length = p.continued + 1 := by
  induction h with
  | lead => rfl
  | next _ _ _ ih => simp [ih]

/-- While a character is not finished, some octets must follow, and the next one holds six bits. -/
theorem bounds (h : Begun p octets) : 0 < p.rest.owed ∧ 0x80 ≤ p.rest.lo ∧ p.rest.hi ≤ 0xbf := by
  induction h with
  | lead hl => exact bounds_of_lead? hl
  | next _ _ howed _ =>
      refine ⟨?_, Nat.le_refl _, Nat.le_refl _⟩
      dsimp only
      omega

/-- A code point whose next bits are those of an octet in range is one that can still be meant, and
this octet is the next one that it is written with. -/
theorem fits_of_octet (h : Begun p octets) (hb : p.rest.lo ≤ b.toNat ∧ b.toNat ≤ p.rest.hi)
    (hv : v / 64 ^ (p.rest.owed - 1) = p.rest.code * 64 + (b.toNat - 0x80)) :
    p.rest.Fits v ∧ tail p.rest.owed v = b :: tail (p.rest.owed - 1) v := by
  obtain ⟨howed, hlo, hhi⟩ := h.bounds
  obtain ⟨m, hm⟩ := Nat.exists_eq_add_one_of_ne_zero (Nat.ne_of_gt howed)
  have hoctet : v / 64 ^ (p.rest.owed - 1) % 64 + 0x80 = b.toNat := by omega
  have hcode : v / 64 ^ p.rest.owed = p.rest.code := by
    rw [hm, Nat.add_sub_cancel] at hv
    rw [hm, Nat.pow_succ, ← Nat.div_div_eq_div_mul, hv]
    omega
  refine ⟨⟨hcode, by omega, by omega⟩, ?_⟩
  rw [hm, Nat.add_sub_cancel] at hoctet ⊢
  rw [tail, hoctet, UInt8.ofNat_toNat]

/-- A code point that can still be meant is written with the octets so far and a tail. -/
theorem written (h : Begun p octets) (hv : p.rest.Fits v) :
    String.utf8EncodeChar (Char.ofNat v) = octets ++ tail p.rest.owed v := by
  induction h with
  | lead hl =>
      obtain ⟨howes, rfl⟩ := owes_of_fits hl hv
      exact written_owed howes
  | next h hb _ ih =>
      obtain ⟨hfits, htail⟩ := h.fits_of_octet hb hv.1
      rw [ih hfits, htail, List.append_cons]

/-- The octet that finishes a character makes up the octets that it is written with. -/
theorem finish (h : Begun p octets) (hb : p.rest.lo ≤ b.toNat ∧ b.toNat ≤ p.rest.hi)
    (howed : p.rest.owed ≤ 1) :
    String.utf8EncodeChar (Char.ofNat (p.rest.code * 64 + (b.toNat - 0x80))) = octets ++ [b] := by
  have hlast : p.rest.owed - 1 = 0 := by omega
  obtain ⟨hfits, htail⟩ := h.fits_of_octet (v := p.rest.code * 64 + (b.toNat - 0x80)) hb (by
    rw [hlast, Nat.pow_zero, Nat.div_one])
  rw [h.written hfits, htail, hlast]
  rfl

end Begun

/-! ## Reading -/

/-- What the octets before those that are left say about a state of the reader. -/
def Pending : State → List UInt8 → Prop
  | none, octets => octets = []
  | some p, octets => Begun p octets

/-- What octets are read as, from a position: a text that is written with them, or a fault after a
text that is written with the octets before it. -/
inductive Reading (position : Nat) (bs : List UInt8) : Except Fault (List Char) → Prop
  | text {cs : List Char} : encode cs = bs → Reading position bs (.ok cs)
  | fault {f : Fault} {cs : List Char} {rest : List UInt8} : encode cs ++ rest = bs →
      f.position = position + (encode cs).length → Reading position bs (.error f)

namespace Reading

variable {position : Nat} {bs : List UInt8} {c : Char} {r : Except Fault (List Char)}

theorem at_once {f : Fault} (h : f.position = position) : Reading position bs (.error f) :=
  @Reading.fault _ _ _ [] bs rfl h

/-- A character that was read goes in front of what is read after it. -/
theorem cons {octets : List UInt8} (hc : String.utf8EncodeChar c = octets)
    (h : Reading (position + octets.length) bs r) :
    Reading position (octets ++ bs) (r.map (c :: ·)) := by
  subst hc
  cases h with
  | text h =>
      apply Reading.text
      rw [encode_cons, h]
  | @fault f cs rest h hposition =>
      apply @Reading.fault _ _ _ (c :: cs) rest
      · rw [encode_cons, List.append_assoc, h]
      · rw [hposition, encode_cons, List.length_append, Nat.add_assoc]

/-- The reader reads octets so, from whatever state it is in. -/
theorem of_decodeFrom (position : Nat) (st : State) (bs : List UInt8) {octets : List UInt8}
    (h : Pending st octets) : Reading position (octets ++ bs) (decodeFrom position st bs) := by
  -- The induction follows the reader; what it carries is the octets that the state stands for.
  induction position, st, bs using decodeFrom.induct generalizing octets with
  | case1 position =>
      cases h
      exact .text rfl
  | case2 position p => exact at_once rfl
  | case3 position b bs hb ih =>
      cases h
      rw [decodeFrom, if_pos hb]
      show Reading position ([b] ++ bs) _
      exact cons (written_one hb) (ih rfl)
  | case4 position b bs hb hl =>
      rw [decodeFrom, if_neg hb, hl]
      exact at_once rfl
  | case5 position b bs hb l hl ih =>
      cases h
      rw [decodeFrom, if_neg hb, hl]
      exact ih (.lead hl)
  | case6 position p b bs hb howed ih =>
      -- The last octet of a character: the whole character goes in front of the rest.
      have hlength : position + (octets ++ [b]).length = position + p.continued + 2 := by
        rw [List.length_append, Begun.length h, List.length_singleton]
        omega
      rw [decodeFrom, if_pos hb]
      dsimp only
      rw [if_pos howed, ← hlength, List.append_cons]
      apply cons (Begun.finish h hb howed)
      rw [hlength]
      exact ih rfl
  | case7 position p b bs hb code howed =>
      -- More octets are owed, so this one is only added to those before it.
      rename_i ih
      rw [decodeFrom, if_pos hb]
      dsimp only
      rw [if_neg howed, List.append_cons]
      exact ih (Begun.next h hb howed)
  | case8 position p b bs hb =>
      rw [decodeFrom, if_neg hb]
      exact at_once rfl

theorem of_decode (bs : List UInt8) : Reading 0 bs (decode bs) :=
  of_decodeFrom 0 none bs rfl

end Reading

/-! ## What is accepted, and where the reader stops -/

/-- Octets are read as a text exactly if the text is written with them. -/
theorem decode_eq_ok_iff {bs : List UInt8} {cs : List Char} :
    decode bs = .ok cs ↔ encode cs = bs := by
  constructor
  · intro h
    have hread := Reading.of_decode bs
    rw [h] at hread
    cases hread with
    | text h => exact h
  · rintro rfl
    exact decode_encode cs

/-- The reader refuses exactly the octets that no text is written with. -/
theorem exists_decode_error_iff {bs : List UInt8} :
    (∃ f, decode bs = .error f) ↔ ¬ WellFormed bs := by
  constructor
  · rintro ⟨f, hf⟩ ⟨cs, hcs⟩
    rw [decode_eq_ok_iff.mpr hcs] at hf
    cases hf
  · intro h
    cases hread : decode bs with
    | error f => exact ⟨f, rfl⟩
    | ok cs => exact absurd ⟨cs, decode_eq_ok_iff.mp hread⟩ h

theorem position_le {position : Nat} {bs : List UInt8} {f : Fault}
    (h : decodeFrom position none bs = .error f) : position ≤ f.position := by
  have hread := Reading.of_decodeFrom position none bs rfl
  rw [h] at hread
  cases hread with
  | fault _ hposition =>
      rw [hposition]
      exact Nat.le_add_right _ _

/-- The octets before a fault are the longest beginning that is well formed. -/
theorem isGreatest_position {bs : List UInt8} {f : Fault} (h : decode bs = .error f) :
    IsGreatest {n | n ≤ bs.length ∧ WellFormed (bs.take n)} f.position := by
  constructor
  · have hread := Reading.of_decode bs
    rw [h] at hread
    cases hread with
    | @fault _ cs rest hbs hposition =>
        rw [Nat.zero_add] at hposition
        subst hbs
        refine ⟨?_, cs, ?_⟩
        · simp [hposition]
        · simp [hposition]
  · -- Whatever is well formed at the front is read before the fault.
    rintro n ⟨hn, cs, hcs⟩
    have hread := decodeFrom_encode 0 cs (bs.drop n)
    rw [hcs, List.take_append_drop, List.length_take, min_eq_left hn, Nat.zero_add, ← decode,
      h] at hread
    cases hrest : decodeFrom n none (bs.drop n) with
    | error g =>
        rw [hrest] at hread
        cases hread
        exact position_le hrest
    | ok ds =>
        rw [hrest] at hread
        cases hread

end GreetCalc.Text.Utf8
