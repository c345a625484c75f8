/-
RouteConvergence.Yaml.Scalar — the scalars of YAML documents.

* `Gap` — the blanks and line breaks between two words of a scalar, and
  what they stand for.
* `readPlain?` — a scalar without quotation marks.
* `readQuoted?` — a scalar in quotation marks, behind the first mark.

A scalar may go on over several lines. A line break inside it counts as a
blank, and further ones stay as they are. The newer edition wants what
follows on further lines to be indented.
-/
import RouteConvergence.Json.Reader
import RouteConvergence.Yaml.Place

namespace RouteConvergence.Yaml

/-! ## Gaps inside scalars -/

/-- Blanks and line breaks inside a scalar, and the place behind them. -/
structure Gap where
  /-- The blanks before the first break. -/
  blanks : List Char
  /-- Whether there is a break, which may have been escaped. -/
  crossed : Bool
  /-- The first break that was not escaped. -/
  first : Option Char
  /-- The breaks behind it, from the last on. -/
  further : List Char
  place : Place

namespace Gap

/-- No gap at a place. -/
def none (p : Place) : Gap := ⟨[], false, .none, [], p⟩

/-- The gap behind an escaped line break. -/
def escaped (p : Place) : Gap := ⟨[], true, .none, [], p⟩

/-- What a gap stands for. -/
def text (g : Gap) : List Char :=
  match g.crossed, g.first with
  | false, _ => g.blanks
  | true, .none => g.further.reverse
  | true, some '\n' => if g.further.isEmpty then [' '] else g.further.reverse
  | true, some c => c :: g.further.reverse

/-- The gap with one more blank. Behind a break, blanks do not count. -/
def addBlank (c : Char) (g : Gap) : Gap :=
  { g with blanks := if g.crossed then g.blanks else g.blanks ++ [c], place := g.place.pastBlanks 1 }

/-- The gap with one more break. -/
def addBreak (c : Char) (behind : Place) (g : Gap) : Gap :=
  if g.crossed then { g with further := c :: g.further, place := behind }
  else { g with crossed := true, first := some c, place := behind }

end Gap

/-- What a tab means in the indentation of a line. -/
inductive IndentTab
  /-- It is a blank like any other. -/
  | blank
  /-- It is not allowed. -/
  | refused
  /-- It is allowed on lines that are blank, or hold a comment, which takes
  the end of its line away. -/
  | blankLine

/-- Reads on in a gap. The indentation of further lines ends at a column.
The last number bounds the steps. -/
def Gap.more? (e : Edition) (tab : IndentTab) (indent : Int) : Nat → Gap → Option Gap
  | 0, g => some g
  | n + 1, g =>
    match g.place.rest with
    | [] => some g
    | c :: _ =>
      if isGap c then
        if g.crossed && c == '\t' && decide ((g.place.column : Int) < indent) then
          match tab with
          | .blank => more? e tab indent n (g.addBlank c)
          | .refused => Option.none
          | .blankLine =>
            match g.place.lineBlanks? e with
            | some (_, q) =>
              match q.break? e with
              | some (c, behind) =>
                more? e tab indent n
                  (if q.fresh then g.addBreak c behind else { g with place := behind })
              | Option.none => if q.atEnd then some { g with place := q } else Option.none
            | Option.none => Option.none
        else more? e tab indent n (g.addBlank c)
      else
        match g.place.break? e with
        | some (c, q) => more? e tab indent n (g.addBreak c q)
        | Option.none => some g

/-- Reads a gap to its end. -/
def Gap.read? (e : Edition) (tab : IndentTab) (indent : Int) (g : Gap) : Option Gap :=
  g.more? e tab indent g.place.rest.length

/-! ## Scalars without quotation marks -/

/-- Whether a colon ends a scalar without quotation marks. -/
def colonEnds (e : Edition) (flow : Bool) (rest : List Char) : Bool :=
  e.spaceFollows rest || (flow && e == .newer && rest.head?.any isFlowMark)

/-- Whether a scalar without quotation marks ends before a character. -/
def plainEnds (e : Edition) (flow : Bool) (c : Char) (rest : List Char) : Bool :=
  e.isSpace c || (c == ':' && colonEnds e flow rest) || (flow && isFlowMark c)

/-- Whether a colon stands where the older edition does not allow it in
brackets. -/
def colonMisplaced (e : Edition) (flow : Bool) (c : Char) (rest : List Char) : Bool :=
  flow && e == .older && c == ':' && rest.head?.any fun d => isFlowMark d || d == '?'

/-- The part of a scalar up to the next blank or end. -/
def plainWord? (e : Edition) (flow : Bool) : List Char → Option (List Char)
  | [] => some []
  | c :: rest =>
    if colonMisplaced e flow c rest then none
    else if plainEnds e flow c rest then some []
    else (plainWord? e flow rest).map (c :: ·)

/-- A scalar that was read, and the gap behind it. -/
structure Plain where
  text : List Char
  behind : Gap

/-- Whether a dash begins a word before a mark of brackets. -/
def dashMisplaced (e : Edition) (flow : Bool) : List Char → Bool
  | '-' :: c :: _ => flow && e == .newer && isFlowMark c
  | _ => false

/-- What a tab means in the indentation of a scalar without quotation
marks. -/
def plainTab : Edition → IndentTab
  | .older => .refused
  | .newer => .blankLine

/-- The rest of a scalar after some of its text. Outside brackets, lines
that go on with it begin at least at the column `indent`. The last number
bounds the words. -/
def plainMore? (e : Edition) (flow : Bool) (indent : Int) : Nat → Plain → Option Plain
  | 0, s => some s
  | n + 1, s =>
    let p := s.behind.place
    if p.atMarker e || p.rest.head? == some '#' then some s
    else if dashMisplaced e flow p.rest then none
    else do
      let word ← plainWord? e flow p.rest
      if word.isEmpty then return s
      else
        let gap ← (Gap.none (p.ahead word.length)).read? e (plainTab e) indent
        let s := ⟨s.text ++ s.behind.text ++ word, gap⟩
        if !flow && decide ((gap.place.column : Int) < indent) then return s
        else plainMore? e flow indent n s

/-- A scalar without quotation marks. -/
def readPlain? (e : Edition) (flow : Bool) (indent : Int) (p : Place) : Option Plain :=
  plainMore? e flow indent (p.rest.length + 1) ⟨[], .none p⟩

/-! ## Escapes -/

/-- The character after a backslash that stands for one character. -/
def unescape : Char → Option Char
  | '0' => some '\x00'
  | 'a' => some '\x07'
  | 'b' => some '\x08'
  | 't' | '\t' => some '\t'
  | 'n' => some '\n'
  | 'v' => some '\x0b'
  | 'f' => some '\x0c'
  | 'r' => some '\r'
  | 'e' => some '\x1b'
  | ' ' => some ' '
  | '"' => some '"'
  | '/' => some '/'
  | '\\' => some '\\'
  | 'N' => some '\u0085'
  | '_' => some '\u00a0'
  | 'L' => some '\u2028'
  | 'P' => some '\u2029'
  | _ => none

/-- The number of hexadecimal digits after a letter. -/
def hexLength : Char → Option Nat
  | 'x' => some 2
  | 'u' => some 4
  | 'U' => some 8
  | _ => none

/-- The character of a number in hexadecimal digits. -/
def hexChar? (digits : List Char) : Option Char := do
  let n ← digits.foldlM (fun n c => (Json.hexValue c).map (16 * n + ·)) 0
  if (0xD800 ≤ n ∧ n ≤ 0xDFFF) ∨ 0x10FFFF < n then none else some (Char.ofNat n)

/-- The character of an escape, from behind its backslash on, and how many
characters it takes. -/
def readEscape? : List Char → Option (Char × Nat)
  | [] => none
  | c :: rest =>
    match hexLength c with
    | some length =>
      if rest.length < length then none
      else (hexChar? (rest.take length)).map fun d => (d, length + 1)
    | none => (unescape c).map fun d => (d, 1)

/-! ## Scalars in quotation marks -/

/-- The marks around a scalar. -/
inductive Quote
  | single
  | double
deriving DecidableEq, Repr

/-- The character of a mark. -/
def Quote.mark : Quote → Char
  | single => '\''
  | double => '"'

/-- The part of a scalar up to a blank, a break or the mark, and the gap
that begins there. A mark inside single marks is written twice. The number
bounds the steps. -/
def quotedWord? (e : Edition) (q : Quote) : Nat → Place → Option (List Char × Gap)
  | 0, p => some ([], .none p)
  | n + 1, p =>
    match p.rest with
    | [] => some ([], .none p)
    | c :: rest =>
      let withChar (d : Char) (width : Nat) :=
        (quotedWord? e q n (p.ahead width)).map fun r => (d :: r.1, r.2)
      if e.isSpace c then some ([], .none p)
      else if c = q.mark then
        if q = .single ∧ rest.head? = some c then withChar c 2 else some ([], .none p)
      else if c = '\\' ∧ q = .double then
        match (p.ahead 1).break? e with
        | some (_, behind) => some ([], .escaped behind)
        | none => (readEscape? rest).bind fun r => withChar r.1 (r.2 + 1)
      else withChar c 1

/-- What a tab means in the indentation of a scalar in quotation marks. -/
def quotedTab : Edition → IndentTab
  | .older => .blank
  | .newer => .refused

/-- The rest of a scalar up to its closing mark, and the place behind it. In
the newer edition no line begins before the column `indent`. The number
bounds the words. -/
def quotedMore? (e : Edition) (q : Quote) (indent : Int) :
    Nat → Place → Option (List Char × Place)
  | 0, _ => none
  | n + 1, p =>
    if p.atMarker e || p.rest.isEmpty then none
    else if e = .newer ∧ (p.column : Int) < indent then none
    else do
      let (word, gap) ← quotedWord? e q p.rest.length p
      if !gap.crossed && gap.place.rest.head? == some q.mark then
        return (word, gap.place.ahead 1)
      else
        let gap ← gap.read? e (quotedTab e) indent
        let (text, behind) ← quotedMore? e q indent n gap.place
        return (word ++ gap.text ++ text, behind)

/-- A scalar in quotation marks from behind the first mark on, and the place
behind the last. -/
def readQuoted? (e : Edition) (q : Quote) (indent : Int) (p : Place) :
    Option (List Char × Place) :=
  quotedMore? e q indent (p.rest.length + 1) p

end RouteConvergence.Yaml
