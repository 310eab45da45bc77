/-!
# Blank characters

The characters that separate words in running text: the white space of ASCII, the separators
among the ASCII controls, and every space and line mark of Unicode 14.
-/

namespace GreetCalc.Text

/-- Whether a character is white space of any script. -/
def isBlank (c : Char) : Bool :=
  let n := c.toNat
  (0x09 ≤ n && n ≤ 0x0d) || (0x1c ≤ n && n ≤ 0x20) || n == 0x85 || n == 0xa0 || n == 0x1680
    || (0x2000 ≤ n && n ≤ 0x200a) || n == 0x2028 || n == 0x2029 || n == 0x202f || n == 0x205f
    || n == 0x3000

/-- Whether a character is white space of ASCII text: the space, or a tab, line or page mark. -/
def isAsciiBlank (c : Char) : Bool :=
  c == ' ' || (0x09 ≤ c.toNat && c.toNat ≤ 0x0d)

end GreetCalc.Text
