/-
RouteConvergence.Pattern.Specificity — which path pattern comes first.

Behaviours are tried in list order and the first match wins, so a list
runs from the most to the least specific pattern: longer before shorter,
and among equally long ones the first differing position decides, where
a concrete character comes before `?` and `?` before `*`, and concrete
characters stand in code point order.
-/

namespace RouteConvergence.Pattern

/-- Place of a pattern character on one scale: concrete characters by code
point, then the single wildcard, then the multiple one. -/
def rank (c : Char) : Nat :=
  if c = '?' then 0x110000 else if c = '*' then 0x110001 else c.toNat

/-- The order of equally long lists by their first differing rank. -/
def compareRanks : List Char → List Char → Ordering
  | x :: xs, y :: ys => (compare (rank x) (rank y)).then (compareRanks xs ys)
  | _, _ => .eq

/-- The order of patterns; `lt` means that the first is more specific. -/
def specificity (a b : String) : Ordering :=
  (compare b.length a.length).then (compareRanks a.toList b.toList)

/-- Whether a pattern may stand before another. -/
def noLessSpecific (a b : String) : Bool := (specificity a b).isLE

/-- Patterns with the most specific first; equals keep their order. -/
def sortMostSpecific (patterns : List String) : List String :=
  patterns.mergeSort noLessSpecific

end RouteConvergence.Pattern
