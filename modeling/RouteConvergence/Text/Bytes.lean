/-
RouteConvergence.Text.Bytes — cutting text by bytes of its UTF-8 form.

A place in a text is given by the bytes before it. A cut there can be made
only if no character lies across it.

* `firstBytes` — what stands before a place.
* `behindBytes` — what stands behind a place.
* `bytesBetween` — what stands between two places.
-/

namespace RouteConvergence.Text

/-- The beginning of a text that is so many bytes long, if no character
lies across its end. -/
def firstBytes : Nat → List Char → Option (List Char)
  | 0, _ => some []
  | _ + 1, [] => none
  | n + 1, c :: cs =>
    if c.utf8Size ≤ n + 1 then (firstBytes (n + 1 - c.utf8Size) cs).map (c :: ·) else none

/-- What a text holds behind so many bytes, if no character lies across
their end. -/
def behindBytes : Nat → List Char → Option (List Char)
  | 0, cs => some cs
  | _ + 1, [] => none
  | n + 1, c :: cs =>
    if c.utf8Size ≤ n + 1 then behindBytes (n + 1 - c.utf8Size) cs else none

/-- The part of a text between two places, if no character lies across one
of them. -/
def bytesBetween (start stop : Nat) (cs : List Char) : Option (List Char) :=
  (behindBytes start cs).bind (firstBytes (stop - start))

end RouteConvergence.Text
