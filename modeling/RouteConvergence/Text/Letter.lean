/-
RouteConvergence.Text.Letter — letter case.

Case is folded in two ways, and the difference is visible:

* `lowerAscii` changes `A` to `Z` only; domains are stored and compared
  this way.
* `foldsTo` is the wider relation under which a host name is judged: the
  long s (U+017F) counts as `s` and the Kelvin sign (U+212A) as `k`.
-/

namespace RouteConvergence.Text

/-- The text with `A` to `Z` made small. -/
def lowerAscii (s : String) : String := String.ofList (s.toList.map Char.toLower)

/-- Whether two texts differ at most in the case of ASCII letters. -/
def sameIgnoringCase (s t : String) : Bool := lowerAscii s == lowerAscii t

/-- A letter of a host name: `a` to `z` in either case, or one of the two
characters outside ASCII that fold to such a letter. -/
def isFoldedLetter (c : Char) : Bool :=
  ('a' ≤ c && c ≤ 'z') || ('A' ≤ c && c ≤ 'Z') || c == '\u017f' || c == '\u212a'

/-- A decimal digit of ASCII. -/
def isDigit (c : Char) : Bool := '0' ≤ c && c ≤ '9'

/-- The text with letters made small, the Kelvin sign included; other
letters outside ASCII have no small form inside ASCII and are left alone. -/
def lowerKelvin (s : String) : String :=
  String.ofList (s.toList.map fun c => if c = '\u212a' then 'k' else c.toLower)

end RouteConvergence.Text
