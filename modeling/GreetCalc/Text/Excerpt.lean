import GreetCalc.Text.Utf8

/-!
# Excerpts

A long text is shown by its two ends with three dots between them. The lengths are counted in
octets of UTF-8 and a character is never cut: an end holds as many whole characters as fit.
-/

namespace GreetCalc.Text

/-- The longest beginning of `cs` that takes at most `room` octets. -/
def fitting (room : Nat) : List Char → List Char
  | [] => []
  | c :: cs => if c.utf8Size ≤ room then c :: fitting (room - c.utf8Size) cs else []

/-- How long a text may be, and how much of each end of a longer one is shown, in octets. -/
structure ExcerptFormat where
  whole : Nat
  front : Nat
  back : Nat

/-- The text itself, or its two ends. -/
def excerpt (f : ExcerptFormat) (s : String) : String :=
  let cs := s.toList
  if Utf8.size cs ≤ f.whole then s
  else
    String.ofList (fitting f.front cs) ++ "..."
      ++ String.ofList (fitting f.back cs.reverse).reverse

end GreetCalc.Text
