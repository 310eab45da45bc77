/-!
# UTF-8

`encode` writes a text as octets; `decode` reads octets back, one at a time. Where octets are
not UTF-8 the reader stops at the first sequence that cannot be completed and says where it
starts, which octets belong to it, and what is wrong with the next one.

The reader is strict: overlong forms, surrogates and values above the last code point are
refused at the octet after the lead, which is where they show first.
-/

namespace GreetCalc.Text.Utf8

def encode (cs : List Char) : List UInt8 := cs.flatMap String.utf8EncodeChar

def size (cs : List Char) : Nat := cs.foldr (fun c n => c.utf8Size + n) 0

/-! ### Faults -/

/-- What is wrong after a run of octets that began well. -/
inductive Flaw where
  | start
  | continuation
  | ending
  deriving DecidableEq, Repr

/-- Octets that are not UTF-8. -/
structure Fault where
  /-- How many octets come before the faulty sequence. -/
  position : Nat
  lead : UInt8
  /-- How many octets that continue it well stand after the first. -/
  continued : Nat
  flaw : Flaw
  deriving DecidableEq, Repr

/-- The two hexadecimal digits of an octet, in lower case. -/
def hexOctet (b : UInt8) : List Char :=
  [Nat.digitChar (b.toNat / 16), Nat.digitChar (b.toNat % 16)]

def Flaw.message : Flaw → String
  | .start => "invalid start byte"
  | .continuation => "invalid continuation byte"
  | .ending => "unexpected end of data"

/-- The wording of a fault: a sequence of one octet is shown, a longer one is given by its span. -/
def Fault.message (f : Fault) : String :=
  let place :=
    if f.continued = 0 then
      "byte 0x" ++ String.ofList (hexOctet f.lead) ++ " in position " ++ toString f.position
    else
      "bytes in position " ++ toString f.position ++ "-" ++ toString (f.position + f.continued)
  "'utf-8' codec can't decode " ++ place ++ ": " ++ f.flaw.message

/-! ### Reading -/

/-- What a lead octet announces: the bits of the code point it holds itself, the number of octets
that must follow, and the least and the greatest value of the next one. -/
structure Lead where
  code : Nat
  owed : Nat
  lo : Nat
  hi : Nat

/-- The lead octets of characters of two, three and four octets. -/
def lead? (b : UInt8) : Option Lead :=
  let n := b.toNat
  if n < 0xc2 then none
  else if n < 0xe0 then some ⟨n - 0xc0, 1, 0x80, 0xbf⟩
  else if n < 0xf0 then
    some ⟨n - 0xe0, 2, if n = 0xe0 then 0xa0 else 0x80, if n = 0xed then 0x9f else 0xbf⟩
  else if n < 0xf5 then
    some ⟨n - 0xf0, 3, if n = 0xf0 then 0x90 else 0x80, if n = 0xf4 then 0x8f else 0xbf⟩
  else none

/-- A character whose octets have been read in part. -/
structure Unfinished where
  lead : UInt8
  continued : Nat
  rest : Lead

/-- Where the reader stands: between characters, or inside one. -/
abbrev State := Option Unfinished

/-- Read octets from a state, where `position` octets come before the character at hand. -/
def decodeFrom (position : Nat) : State → List UInt8 → Except Fault (List Char)
  | none, [] => .ok []
  | some p, [] => .error ⟨position, p.lead, p.continued, .ending⟩
  | none, b :: bs =>
    if b.toNat < 0x80 then
      (decodeFrom (position + 1) none bs).map (Char.ofNat b.toNat :: ·)
    else match lead? b with
      | none => .error ⟨position, b, 0, .start⟩
      | some l => decodeFrom position (some ⟨b, 0, l⟩) bs
  | some p, b :: bs =>
    if p.rest.lo ≤ b.toNat ∧ b.toNat ≤ p.rest.hi then
      let code := p.rest.code * 64 + (b.toNat - 0x80)
      if p.rest.owed ≤ 1 then
        (decodeFrom (position + p.continued + 2) none bs).map (Char.ofNat code :: ·)
      else
        decodeFrom position
          (some ⟨p.lead, p.continued + 1, ⟨code, p.rest.owed - 1, 0x80, 0xbf⟩⟩) bs
    else
      .error ⟨position, p.lead, p.continued, .continuation⟩

/-- The text that octets encode, or the first place where they encode none. -/
def decode (bs : List UInt8) : Except Fault (List Char) := decodeFrom 0 none bs

end GreetCalc.Text.Utf8
