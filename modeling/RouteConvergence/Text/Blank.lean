/-
RouteConvergence.Text.Blank — white space and trimming.

A character is blank when it has the Unicode property White_Space: the
five controls U+0009 to U+000D, the space, U+0085, U+00A0, and the
spaces and separators listed below, twenty-five in all. A zero-width
space (U+200B) is not among them. `trim` drops blanks from both ends and
leaves blanks between other characters alone.
-/

namespace RouteConvergence.Text

/-- The characters with the property White_Space, as inclusive ranges of
code points. -/
def blankRanges : List (Nat × Nat) :=
  [(0x0009, 0x000D), (0x0020, 0x0020), (0x0085, 0x0085), (0x00A0, 0x00A0),
   (0x1680, 0x1680), (0x2000, 0x200A), (0x2028, 0x2029), (0x202F, 0x202F),
   (0x205F, 0x205F), (0x3000, 0x3000)]

/-- Whether a character is white space. -/
def isBlank (c : Char) : Bool :=
  blankRanges.any fun r => r.1 ≤ c.toNat && c.toNat ≤ r.2

/-- Characters without the blanks in front. -/
def trimLeft (cs : List Char) : List Char := cs.dropWhile isBlank

/-- Characters without the blanks at the end. -/
def trimRight (cs : List Char) : List Char := (cs.reverse.dropWhile isBlank).reverse

/-- Characters without the blanks at either end. -/
def trimChars (cs : List Char) : List Char := trimRight (trimLeft cs)

/-- Text without the blanks at either end. -/
def trim (s : String) : String := String.ofList (trimChars s.toList)

/-- The class holds twenty-five characters. -/
example : (blankRanges.map fun r => r.2 - r.1 + 1).sum = 25 := rfl

end RouteConvergence.Text
