/-
RouteConvergence.Yaml.Layout — the tokens of a text.

Between two tokens, blanks, line breaks and comments are passed over, and
what is indented deeper than the next token has ended. Then the characters
at the place say which token follows.

* `Reading.skip?` — the place of the next token.
* `Reading.next?` — the next token.
* `tokens?` — all tokens of a text.

Anchors, tags, texts under a bar and directives are not read.
-/
import RouteConvergence.Yaml.Scalar
import RouteConvergence.Yaml.Token

namespace RouteConvergence.Yaml

namespace Reading

/-! ## Up to the next token -/

/-- Whether a tab stands where the newer edition has indentation. -/
def tabIndents (r : Reading) : Bool :=
  !r.indents.isEmpty && r.place.fresh && decide ((r.place.column : Int) < r.indent)

/-- Whether a tab is a blank here in the older edition: in brackets, and
where no key may begin. -/
def tabIsBlank (r : Reading) : Bool := r.flow || !r.keyAllowed

/-- Goes on over blanks, breaks and comments. A tab in the indentation is
allowed where the line is blank otherwise, and in the older edition not at
all. The number bounds the steps. -/
def skipMore? : Nat → Reading → Option Reading
  | 0, r => some r
  | n + 1, r =>
    let p := r.place
    match p.rest with
    | [] => some r
    | c :: _ =>
      if c = ' ' then skipMore? n { r with place := p.pastBlanks 1 }
      else if c = '\t' then
        if r.isNewer then
          if r.tabIndents then
            match p.lineBlanks? r.edition with
            | some (_, q) =>
              if r.edition.lineEnds q.rest then skipMore? n { r with place := q } else none
            | none => none
          else skipMore? n { r with place := p.pastBlanks 1 }
        else if r.tabIsBlank then skipMore? n { r with place := p.pastBlanks 1 }
        else some r
      else if c = '#' then skipMore? n { r with place := p.lineEnd r.edition }
      else if c = '\ufeff' ∧ !r.isNewer ∧ p.column = 0 then skipMore? n (r.ahead 1)
      else
        match p.break? r.edition with
        | some (_, q) =>
          skipMore? n { r with place := q, keyAllowed := r.keyAllowed || !r.flow }
        | none => some r

/-- Goes on to the next token. -/
def skip? (r : Reading) : Option Reading := r.skipMore? r.place.rest.length

/-! ## Documents and brackets -/

/-- A line of three marks. -/
def marker? (t : Token) (r : Reading) : Option Reading := do
  let r ← (r.unrollTo (-1)).dropKey?
  return ({ r with keyAllowed := false }.ahead 3).emit t

/-- The line that ends a document; the newer edition allows nothing else on
it. -/
def documentEnd? (r : Reading) : Option Reading := do
  let r ← r.marker? .documentEnd
  if r.isNewer then
    let r ← r.pastLine?
    if r.edition.lineEnds r.place.rest then return r else none
  else return r

/-- The greatest number of brackets in one another in the newer edition. -/
def greatestDepth : Nat := 255

/-- An opening bracket or brace. -/
def openFlow? (t : Token) (r : Reading) : Option Reading := do
  let r ← r.saveKey?
  let r := r.rollLoose
  if r.isNewer && greatestDepth ≤ r.depth then none
  else
    let r := { r with
      keys := none :: r.keys
      keyAllowed := true
      braced := r.braced || t == Token.mapOpen
      bare := if t == Token.listOpen then false :: r.bare else r.bare }
    return (← (r.ahead 1).pastLine?).emit t

/-- A closing bracket or brace. -/
def closeFlow? (t : Token) (r : Reading) : Option Reading := do
  let r ← r.dropKey?
  let r := { r with keys := if r.flow then r.keys.tail else r.keys, keyAllowed := false }
  let r := if t == Token.listClose then { r.endBare with bare := r.bare.tail } else r
  let r ← (r.ahead 1).pastLine?
  return { r with adjacent := if r.flow then r.place.index else r.adjacent }.emit t

/-- A comma. -/
def comma? (r : Reading) : Option Reading := do
  let r ← r.dropKey?
  return (← ({ r with keyAllowed := true }.endBare.ahead 1).pastLine?).emit .comma

/-! ## Items, keys and values -/

/-- A dash before an item. The newer edition allows none in brackets, and
no tab between two dashes. -/
def item? (r : Reading) : Option Reading := do
  if r.isNewer && r.flow || !r.flow && !r.keyAllowed then none
  else
    let r := r.roll r.place.column none .itemsStart
    let r := r.ahead 1
    let r ←
      if r.isNewer then do
        let (blanks, q) ← r.place.lineBlanks? r.edition
        if blanks.contains '\t' && q.rest.head? == some '-'
            && r.edition.spaceFollows (q.rest.drop 1) then none
        else
          let r := { r with place := q }
          some (if q.rest.head?.any fun c => r.edition.isBreak c || isFlowMark c then r.rollLoose
            else r)
      else some r
    return { (← r.dropKey?) with keyAllowed := true }.emit .item

/-- Whether blanks that a key needs behind its question mark are there, and
no tab is behind them. -/
def spacedKey (r : Reading) (behind : Reading) : Bool :=
  behind.place.index != r.place.index && behind.place.rest.head? != some '\t'

/-- Goes on over blanks other than tabs, breaks and comments. The number
bounds the steps. -/
def skipSpaces : Nat → Reading → Reading
  | 0, r => r
  | n + 1, r =>
    match r.place.rest with
    | ' ' :: _ => skipSpaces n { r with place := r.place.pastBlanks 1 }
    | '#' :: _ => skipSpaces n { r with place := r.place.lineEnd r.edition }
    | _ =>
      match r.place.break? r.edition with
      | some (_, q) =>
        skipSpaces n { r with place := q, keyAllowed := r.keyAllowed || !r.flow }
      | none => r

/-- A question mark before a key. -/
def explicitKey? (r : Reading) : Option Reading := do
  if !r.flow && !r.keyAllowed then none
  else
    let r := r.roll r.place.column none .fieldsStart
    let r ← { r with braced := r.braced || r.flow }.dropKey?
    let r := { r with keyAllowed := !r.flow }.ahead 1
    if r.isNewer then
      let behind := r.skipSpaces r.place.rest.length
      if r.spacedKey behind then return behind.emit .key else none
    else return r.emit .key

/-- A letter, digit, line or dash. -/
def isWordChar (c : Char) : Bool := c.isAlphanum || c == '_' || c == '-'

/-- Behind a colon. The newer edition does not allow that only tabs stand
between it and a word. -/
def pastColon? (r : Reading) : Option Reading :=
  let r := r.ahead 1
  if r.isNewer && r.place.rest.head? == some '\t' then
    match r.place.lineBlanks? r.edition with
    | some (blanks, q) =>
      if !blanks.contains ' ' && q.rest.head?.any isWordChar then none
      else some { r with place := q }
    | none => none
  else some r

/-- A colon before a value. What may be a key before it is one now. -/
def value? (r : Reading) : Option Reading := do
  let colon := r.place
  let bare := r.isNewer && !r.bare.isEmpty && !r.braced
  let r := if bare then { r with bare := true :: r.bare.tail } else r
  let r ← r.pastColon?
  match r.key? with
  | some k =>
    if bare && k.place.line < colon.line then none
    else
      let r := r.insert k.number .key
      let r := if bare then r.insert k.number .mapOpen else r
      let r := (r.roll k.place.column (some k.number) .fieldsStart).rollLoose
      return { r.withKey none with keyAllowed := false }.emit .value
  | none =>
    let r := if bare then r.emit .mapOpen else r
    if !r.flow && !r.keyAllowed then none
    else
      let r := (r.roll colon.column none .fieldsStart).rollLoose
      return { r with keyAllowed := !r.flow }.emit .value

/-! ## Scalars -/

/-- A scalar without quotation marks. -/
def plain? (r : Reading) : Option Reading := do
  let r ← r.saveKey?
  let r := { r with keyAllowed := false }.withoutLooseIndent
  if r.isNewer && r.flow && decide ((r.place.column : Int) ≤ r.indent) then none
  else
    let s ← readPlain? r.edition r.flow (r.indent + 1) r.place
    return { r with place := s.behind.place, keyAllowed := s.behind.crossed }.emit
      (.plain (String.ofList s.text))

/-- Whether what follows a scalar in quotation marks on its line is allowed
in the newer edition; `lines` says whether the scalar went over several. -/
def mayFollowQuoted (r : Reading) (lines : Bool) : Bool :=
  match r.place.rest with
  | [] => true
  | c :: _ =>
    r.edition.isBreak c
      || (if r.flow then c == ',' || c == '\x7d' || c == ']' || c == ':' else c == ':' && !lines)

/-- A scalar in quotation marks. -/
def quoted? (q : Quote) (r : Reading) : Option Reading := do
  let line := r.place.line
  let r := { (← r.saveKey?) with keyAllowed := false }
  let (text, behind) ← readQuoted? r.edition q r.indent (r.place.ahead 1)
  let t := Token.quoted (String.ofList text)
  let r := { r with place := behind }
  if r.isNewer then
    let r ← r.pastLine?
    if r.mayFollowQuoted (r.place.line != line) then
      let r ← r.skip?
      return { r with adjacent := r.place.index }.emit t
    else none
  else return r.emit t

/-! ## The next token -/

/-- Whether a question mark before some characters begins a key. -/
def beginsKey (r : Reading) (rest : List Char) : Bool :=
  r.edition.spaceFollows rest || (r.flow && !r.isNewer)

/-- Whether a colon before some characters begins a value. In brackets the
newer edition wants a blank, a mark or a key that ended just there. -/
def beginsValue (r : Reading) (rest : List Char) : Bool :=
  r.edition.spaceFollows rest
    || (r.flow &&
      (!r.isNewer || rest.head?.any isFlowMark || r.place.index == r.adjacent))

/-- Whether a scalar without quotation marks begins with a character. -/
def beginsPlain (r : Reading) (c : Char) (rest : List Char) : Bool :=
  if "#&*!'\"%@\x60,[]\x7b\x7d".toList.contains c || isGap c then false
  else if c = '|' ∨ c = '>' then r.isNewer && r.flow
  else if c = '-' then !r.edition.spaceFollows rest
  else if c = '?' ∨ c = ':' then
    if r.flow then r.isNewer else !r.edition.spaceFollows rest
  else true

/-- The next token, which begins with a character. -/
def token? (r : Reading) (c : Char) (rest : List Char) : Option Reading :=
  if r.place.column = 0 ∧ c = '%' then none
  else if r.place.atThree r.edition '-' then r.marker? .documentStart
  else if r.place.atThree r.edition '.' then r.documentEnd?
  else if r.isNewer ∧ (r.place.column : Int) < r.indent then none
  else if c = '[' then r.openFlow? .listOpen
  else if c = '\x7b' then r.openFlow? .mapOpen
  else if c = ']' then r.closeFlow? .listClose
  else if c = '\x7d' then r.closeFlow? .mapClose
  else if c = ',' then r.comma?
  else if c = '-' ∧ r.edition.spaceFollows rest then r.item?
  else if c = '?' ∧ r.beginsKey rest then r.explicitKey?
  else if c = ':' ∧ r.beginsValue rest then r.value?
  else if c = '\'' then r.quoted? .single
  else if c = '"' then r.quoted? .double
  else if r.beginsPlain c rest then r.plain?
  else none

/-- The end of the text. In the newer edition a key that has to be one is
missed at every depth of brackets. -/
def finish? (r : Reading) : Option Reading :=
  if r.isNewer && r.keys.any (·.any (·.required)) then none
  else (r.unrollTo (-1)).dropKey?

/-- The next token, or none at the end. -/
def next? (r : Reading) : Option (Reading × Bool) := do
  let r ← (← r.skip?).withoutStale?
  let r := r.unrollTo r.place.column
  match r.place.rest with
  | [] => return (← r.finish?, true)
  | c :: rest => return (← r.token? c rest, false)

/-- All tokens from here on behind those so far. The number bounds them. -/
def toEnd? : Nat → Reading → Option (List Token)
  | 0, _ => none
  | n + 1, r => do
    let (r, ended) ← r.next?
    if ended then return r.tokens.reverse else toEnd? n r

end Reading

/-- The characters of a text that are read. The older edition passes over a
byte order mark in front, and the newer one ends at the character zero. -/
def Edition.characters (e : Edition) (text : String) : List Char :=
  match e, text.toList with
  | .older, '\ufeff' :: rest => rest
  | .older, cs => cs
  | .newer, cs => cs.takeWhile (· != '\x00')

/-- The tokens of a text. -/
def tokens? (e : Edition) (text : String) : Option (List Token) :=
  let cs := e.characters text
  if cs.all e.isAllowed then (Reading.start e cs).toEnd? (cs.length + 2) else none

end RouteConvergence.Yaml
