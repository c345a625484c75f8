/-
RouteConvergence.Yaml.Place — editions of the format, and places in a
document.

Documents are read by the rules of two editions. The older one knows more
line breaks and allows fewer characters; the newer one is strict about the
indentation of what stands in brackets and quotation marks. Route files
follow the older, settings files the newer edition.

* `Edition` — the two editions and their classes of characters.
* `Place` — a place: what is left of the document, how far it is from the
  beginning, its line and column, and whether only blanks stand before it
  on its line.
* `Place.break?` — the line break at a place.
* `Place.lineBlanks?` — the blanks at a place, and a comment.
-/

namespace RouteConvergence.Yaml

/-- The editions of the format. -/
inductive Edition
  | older
  | newer
deriving DecidableEq, Repr

/-! ## Characters -/

/-- A blank within a line. -/
def isGap (c : Char) : Bool := c == ' ' || c == '\t'

/-- A character that has a meaning of its own in brackets. -/
def isFlowMark (c : Char) : Bool :=
  c == ',' || c == '[' || c == ']' || c == '\x7b' || c == '\x7d'

namespace Edition

/-- A character that ends a line. -/
def isBreak (e : Edition) (c : Char) : Bool :=
  c == '\n' || c == '\r'
    || (e == older && (c == '\u0085' || c == '\u2028' || c == '\u2029'))

/-- A blank or the end of a line. -/
def isSpace (e : Edition) (c : Char) : Bool := isGap c || e.isBreak c

/-- Whether the line ends here, or the document. -/
def lineEnds (e : Edition) : List Char → Bool
  | [] => true
  | c :: _ => e.isBreak c

/-- Whether a blank, a line's end or the document's end comes next. -/
def spaceFollows (e : Edition) : List Char → Bool
  | [] => true
  | c :: _ => e.isSpace c

/-- A character a document may hold. -/
def isAllowed (e : Edition) (c : Char) : Bool :=
  e == newer || c == '\t' || c == '\n' || c == '\r' || (' ' ≤ c && c ≤ '~') || c == '\u0085'
    || ('\u00a0' ≤ c && c != '\ufffe' && c != '\uffff')

end Edition

/-! ## Places -/

/-- A place in a document. -/
structure Place where
  rest : List Char
  /-- The number of characters in front. -/
  index : Nat
  line : Nat
  column : Nat
  /-- Whether only blanks stand before the place on its line. -/
  fresh : Bool
deriving Inhabited

namespace Place

/-- The beginning of a document. -/
def start (cs : List Char) : Place := ⟨cs, 0, 0, 0, true⟩

/-- Whether nothing is left. -/
def atEnd (p : Place) : Bool := p.rest.isEmpty

/-- The place behind so many blanks. -/
def pastBlanks (n : Nat) (p : Place) : Place :=
  ⟨p.rest.drop n, p.index + n, p.line, p.column + n, p.fresh⟩

/-- The place behind so many characters of the line. -/
def ahead (n : Nat) (p : Place) : Place := { p.pastBlanks n with fresh := false }

/-- The line break at a place as it is read, and the place behind it. A
return and a line feed are one break. Only the two separators of the older
edition stay what they are. -/
def break? (e : Edition) (p : Place) : Option (Char × Place) :=
  match p.rest with
  | [] => none
  | c :: rest =>
    let width := if c = '\r' ∧ rest.head? = some '\n' then 2 else 1
    if e.isBreak c then
      some (if c = '\u2028' ∨ c = '\u2029' then c else '\n',
        ⟨p.rest.drop width, p.index + width, p.line + 1, 0, true⟩)
    else none

/-- The end of the line. -/
def lineEnd (e : Edition) (p : Place) : Place :=
  p.ahead (p.rest.takeWhile (!e.isBreak ·)).length

/-- The blanks at a place, and the place behind them and behind a comment,
if there is one. A comment needs a blank in front. -/
def lineBlanks? (e : Edition) (p : Place) : Option (List Char × Place) :=
  let blanks := p.rest.takeWhile isGap
  let q := p.pastBlanks blanks.length
  match q.rest with
  | '#' :: _ => if blanks.isEmpty then none else some (blanks, q.lineEnd e)
  | _ => some (blanks, q)

/-- Whether a line begins here with three equal marks. -/
def atThree (e : Edition) (mark : Char) (p : Place) : Bool :=
  p.column == 0 && p.rest.take 3 == [mark, mark, mark] && e.spaceFollows (p.rest.drop 3)

/-- Whether a line that begins or ends a document stands here. -/
def atMarker (e : Edition) (p : Place) : Bool := p.atThree e '-' || p.atThree e '.'

end Place

end RouteConvergence.Yaml
