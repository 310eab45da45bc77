import GreetCalc.Text.Printable
import GreetCalc.Text.Utf8

/-!
# Quoted text

How messages show a text so that its ends and its invisible characters can be seen: between
single quotes, or between double quotes when the text holds a single quote and no double quote.
A backslash and the quote in use are escaped; line ends and tabs have escapes of their own; any
other unprintable character is written by its code point in two, four or eight hexadecimal
digits.

Octets are quoted alike, after the letter `b`, with every octet outside printable ASCII escaped.
-/

namespace GreetCalc.Text

def singleQuote : Char := '\x27'

def doubleQuote : Char := '\x22'

def quoteFor (cs : List Char) : Char :=
  if cs.contains singleQuote && !cs.contains doubleQuote then doubleQuote else singleQuote

/-- `n` in hexadecimal, in lower case, with leading zeros up to `width` digits. -/
def hexPadded (width n : Nat) : List Char :=
  let ds := Nat.toDigits 16 n
  List.replicate (width - ds.length) '0' ++ ds

def escapeCode (n : Nat) : List Char :=
  if n < 0x100 then '\\' :: 'x' :: hexPadded 2 n
  else if n < 0x10000 then '\\' :: 'u' :: hexPadded 4 n
  else '\\' :: 'U' :: hexPadded 8 n

/-- A character as it stands between quotes `mark`, where `shown` says which characters stand for
themselves. -/
def escapeChar (shown : Char → Bool) (mark c : Char) : List Char :=
  if c = mark ∨ c = '\\' then ['\\', c]
  else if c = '\n' then ['\\', 'n']
  else if c = '\r' then ['\\', 'r']
  else if c = '\t' then ['\\', 't']
  else if shown c then [c]
  else escapeCode c.toNat

def quoteChars (shown : Char → Bool) (cs : List Char) : List Char :=
  let mark := quoteFor cs
  mark :: cs.flatMap (escapeChar shown mark) ++ [mark]

/-- A text between quotes. -/
def quoted (s : String) : String := String.ofList (quoteChars isPrintable s.toList)

def quotedChar (c : Char) : String := String.ofList (quoteChars isPrintable [c])

def quotedBytes (bs : List UInt8) : String :=
  String.ofList ('b' :: quoteChars (fun c => 0x20 ≤ c.toNat && c.toNat < 0x7f)
    (bs.map fun b => Char.ofNat b.toNat))

end GreetCalc.Text
