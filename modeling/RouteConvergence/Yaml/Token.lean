/-
RouteConvergence.Yaml.Token — the tokens of a document, and what has to be
known between two of them.

Indentation becomes tokens of its own: one where an indented collection
begins and one where it ends. Whether something is a key shows only at the
colon behind it, so the place where it began is remembered, and the token
for the key is put there later.

* `Token` — the tokens.
* `Reading` — the tokens so far with the place behind them, the
  indentations and brackets around it, and the possible keys.
* `Reading.roll`, `Reading.unrollTo` — indented collections begin and end.
* `Reading.saveKey?`, `Reading.dropKey?`, `Reading.withoutStale?` —
  possible keys come and go.
-/
import RouteConvergence.Yaml.Place

namespace RouteConvergence.Yaml

/-- A token of a document. -/
inductive Token
  | documentStart
  | documentEnd
  /-- An indented list begins. -/
  | itemsStart
  /-- An indented mapping begins. -/
  | fieldsStart
  /-- An indented collection ends. -/
  | blockEnd
  /-- A dash before an item. -/
  | item
  | listOpen
  | listClose
  | mapOpen
  | mapClose
  | comma
  /-- A key begins. -/
  | key
  /-- A colon before a value. -/
  | value
  /-- A scalar without quotation marks. -/
  | plain (text : String)
  /-- A scalar in quotation marks. -/
  | quoted (text : String)
deriving DecidableEq, Repr

/-- An indentation around a place. -/
structure Indent where
  column : Int
  /-- Whether a collection is indented so. If not, it only sets in what
  stands behind a key or dash. -/
  collection : Bool

/-- Where something began that may be a key. -/
structure KeyStart where
  /-- The number of tokens before it. -/
  number : Nat
  place : Place
  /-- Whether it has to be a key. -/
  required : Bool

/-- The tokens so far and what has to be known behind them. -/
structure Reading where
  edition : Edition
  /-- The tokens from the last on. -/
  tokens : List Token
  place : Place
  /-- The indentations around the place, from the inside out. -/
  indents : List Indent
  /-- Whether a key may begin here. -/
  keyAllowed : Bool
  /-- The possible keys, one for the brackets at each depth and one for
  what is outside, from the inside out. -/
  keys : List (Option KeyStart)
  /-- Where a value may stand right behind its colon: the index of the
  colon behind a key in quotation marks or brackets. -/
  adjacent : Nat
  /-- Whether a mapping in braces has begun. -/
  braced : Bool
  /-- Whether a mapping without braces has begun, for each list in brackets
  around the place, from the inside out. -/
  bare : List Bool

namespace Reading

/-- At the beginning of a document. -/
def start (edition : Edition) (cs : List Char) : Reading where
  edition := edition
  tokens := []
  place := .start cs
  indents := []
  keyAllowed := true
  keys := [none]
  adjacent := 0
  braced := false
  bare := []

/-- Whether the newer edition is followed. -/
def isNewer (r : Reading) : Bool := r.edition == .newer

/-- How many brackets lie around the place. -/
def depth (r : Reading) : Nat := r.keys.length - 1

/-- Whether brackets lie around the place. -/
def flow (r : Reading) : Bool := r.depth != 0

/-- The column of the innermost indentation. -/
def indent (r : Reading) : Int := (r.indents.head?.map (·.column)).getD (-1)

/-- Whether the innermost indentation is that of a collection. -/
def inCollection (r : Reading) : Bool := r.indents.head?.any (·.collection)

/-! ## Tokens and places -/

/-- One more token. -/
def emit (t : Token) (r : Reading) : Reading := { r with tokens := t :: r.tokens }

/-- One more token, behind so many others. -/
def insert (number : Nat) (t : Token) (r : Reading) : Reading :=
  let later := r.tokens.length - number
  { r with tokens := r.tokens.take later ++ t :: r.tokens.drop later }

/-- So many characters further. -/
def ahead (n : Nat) (r : Reading) : Reading := { r with place := r.place.ahead n }

/-- Behind the blanks of the line and a comment; the newer edition wants a
blank before a comment, and the older one leaves all that for later. -/
def pastLine? (r : Reading) : Option Reading :=
  if r.isNewer then (r.place.lineBlanks? r.edition).map fun p => { r with place := p.2 }
  else some r

/-! ## Indentation -/

/-- Without an indentation that belongs to no collection. -/
def withoutLooseIndent (r : Reading) : Reading :=
  { r with indents := r.indents.dropWhile (!·.collection) }

/-- Where a collection begins at a column, which goes in front of the
tokens behind `number` if there is such a number. In brackets there is no
indentation. -/
def roll (column : Nat) (number : Option Nat) (t : Token) (r : Reading) : Reading :=
  if r.flow then r
  else
    let r := if r.indent ≤ column then r.withoutLooseIndent else r
    if r.indent < column then
      let r := { r with indents := ⟨column, true⟩ :: r.indents }
      match number with
      | some n => r.insert n t
      | none => r.emit t
    else r

/-- Where something is set in by one column behind a key or dash, in the
newer edition. -/
def rollLoose (r : Reading) : Reading :=
  if r.isNewer && !r.flow && r.inCollection then
    { r with indents := ⟨r.indent + 1, false⟩ :: r.indents }
  else r

/-- Where all collections indented deeper than a column end. -/
def unrollTo (column : Int) (r : Reading) : Reading :=
  if r.flow then r
  else
    let gone := r.indents.takeWhile fun i => column < i.column
    { r with
      indents := r.indents.drop gone.length
      tokens := (gone.filter (·.collection)).map (fun _ => Token.blockEnd) ++ r.tokens }

/-! ## Possible keys -/

/-- The possible key inside the innermost brackets. -/
def key? (r : Reading) : Option KeyStart := r.keys.head?.join

/-- With another possible key inside the innermost brackets, or none. -/
def withKey (k : Option KeyStart) (r : Reading) : Reading := { r with keys := k :: r.keys.tail }

/-- Where the possible key inside the innermost brackets is none after all,
unless it has to be one. -/
def dropKey? (r : Reading) : Option Reading :=
  if r.key?.any (·.required) then none else some (r.withKey none)

/-- Where a key may begin. At the indentation of a collection it has to. -/
def saveKey? (r : Reading) : Option Reading :=
  if r.keyAllowed then do
    let r ← if r.isNewer then some r else r.dropKey?
    let required := !r.flow && r.indent == r.place.column && r.inCollection
    return r.withKey (some ⟨r.tokens.length, r.place, required⟩)
  else some r

/-- The greatest number of characters between the beginning of a key and
its colon. -/
def longestKey : Nat := 1024

/-- Whether something cannot be a key any more: its line has ended, or it
is too long. -/
def isStale (r : Reading) (k : KeyStart) : Bool :=
  k.place.line < r.place.line || k.place.index + longestKey < r.place.index

/-- Without the possible keys that cannot be keys any more, unless one of
them has to be. In the newer edition brackets keep keys alive. -/
def withoutStale? (r : Reading) : Option Reading :=
  if r.isNewer && r.flow then some r
  else if r.keys.any fun k => k.any fun k => r.isStale k && k.required then none
  else some { r with keys := r.keys.map (·.filter (!r.isStale ·)) }

/-! ## Mappings without braces -/

/-- Where a mapping without braces in a list in brackets ends, if there is
one. -/
def endBare (r : Reading) : Reading :=
  match r.bare with
  | true :: around => { r with bare := false :: around, braced := false }.emit .mapClose
  | _ => r

end Reading

end RouteConvergence.Yaml
