/-
RouteConvergence.Text.RegularSyntax — which texts are written regular
expressions.

Only the form of an expression is judged here, not what it matches.

* `readEscape?` — what a backslash and the characters behind it stand for.
* `readClass?` — a class in brackets, with classes inside it.
* `readGroup?` — the beginning of a group, which may have a name or set
  modes.
* `isExpression` — whether a whole text is an expression.

An expression is read under modes that a group can set: whether
characters are those of Unicode or bytes of ASCII, and whether blanks and
comments between its parts are passed over. Repetitions with counts are
not allowed, and neither are references to groups, conditions on what
stands around a place, and, for Unicode, on the edges of words.
-/
import RouteConvergence.Json.Reader
import RouteConvergence.Text.Alphanumeric
import RouteConvergence.Text.Blank

namespace RouteConvergence.Text.RegularSyntax

/-! ## Modes -/

/-- The modes an expression is read under. -/
structure Modes where
  /-- Whether characters are those of Unicode. -/
  wide : Bool
  /-- Whether blanks and comments are passed over. -/
  spaced : Bool

/-- Characters without blanks and comments in front. -/
def dropComments (comment : Bool) : List Char → List Char
  | [] => []
  | c :: rest =>
    if comment then dropComments (c != '\n') rest
    else if c = '#' then dropComments true rest
    else if isBlank c then dropComments false rest
    else c :: rest

/-- The characters of the next part. -/
def Modes.skip (modes : Modes) (cs : List Char) : List Char :=
  if modes.spaced then dropComments false cs else cs

/-! ## Escapes -/

/-- What an escape stands for. -/
inductive Escaped
  | char (c : Char)
  /-- A class of characters. -/
  | set
  /-- A place, such as the beginning of the text. -/
  | place

/-- The letters behind a backslash that stand for a control character. -/
def controlOf? (c : Char) : Option Char :=
  [('a', '\x07'), ('f', '\x0c'), ('t', '\t'), ('n', '\n'), ('r', '\r'), ('v', '\x0b')].lookup c

/-- The value of so many hexadecimal digits after the value of those in
front, and what follows. -/
def readHex? (modes : Modes) : Nat → Nat → List Char → Option (Nat × List Char)
  | 0, value, cs => some (value, cs)
  | n + 1, value, cs =>
    match modes.skip cs with
    | [] => none
    | c :: rest => (Json.hexValue c).bind fun d => readHex? modes n (16 * value + d) rest

/-- A character written by its number in hexadecimal digits. -/
def readHexChar? (modes : Modes) (digits : Nat) (cs : List Char) :
    Option (Escaped × List Char) := do
  let (value, rest) ← readHex? modes digits 0 cs
  let byte := digits = 2 ∧ 0x7F < value
  if (0xD800 ≤ value ∧ value ≤ 0xDFFF) ∨ 0x10FFFF < value ∨ (byte ∧ !modes.wide) then none
  else some (.char (Char.ofNat value), rest)

/-- The categories of characters that have a name of one letter. -/
def isCategory (c : Char) : Bool := "clmnpsz".toList.contains c.toLower

/-- What an escape stands for, from behind its backslash on, and what
follows. Outside Unicode, a class must not reach beyond ASCII. -/
def readEscape? (modes : Modes) : List Char → Option (Escaped × List Char)
  | [] => none
  | c :: rest =>
    if c = 'x' then readHexChar? modes 2 rest
    else if c = 'u' then readHexChar? modes 4 rest
    else if c = 'U' then readHexChar? modes 8 rest
    else if c = 'd' ∨ c = 's' ∨ c = 'w' then some (.set, rest)
    else if c = 'D' ∨ c = 'S' ∨ c = 'W' then
      if modes.wide then some (.set, rest) else none
    else if c = 'p' ∨ c = 'P' then
      match modes.skip rest with
      | category :: rest =>
        if modes.wide && isCategory category then some (.set, rest) else none
      | [] => none
    else if c = 'A' ∨ c = 'z' then some (.place, rest)
    else if c = 'b' ∨ c = 'B' ∨ c = '<' ∨ c = '>' then
      if modes.wide then none else some (.place, rest)
    else
      match controlOf? c with
      | some control => some (.char control, rest)
      | none => if c.isAlphanum || 0x80 ≤ c.toNat then none else some (.char c, rest)

/-! ## Classes in brackets -/

/-- One member of a class: a character, or none for a class of characters. -/
def readMember? (modes : Modes) : List Char → Option (Option Char × List Char)
  | [] => none
  | '\\' :: rest =>
    match readEscape? modes rest with
    | some (.char c, rest) => some (some c, rest)
    | some (.set, rest) => some (none, rest)
    | _ => none
  | c :: rest => if modes.wide || c.toNat < 0x80 then some (some c, rest) else none

/-- A member of a class or a range of characters. A dash before the closing
bracket or before another dash makes no range. -/
def readRange? (modes : Modes) (cs : List Char) : Option (List Char) := do
  let (first, rest) ← readMember? modes cs
  match modes.skip rest with
  | '-' :: rest =>
    match modes.skip rest with
    | ']' :: _ | '-' :: _ => return '-' :: rest
    | more =>
      let (last, rest) ← readMember? modes more
      match first, last with
      | some c, some d => if c ≤ d then return rest else none
      | _, _ => none
  | rest => return rest

/-- What follows the beginning of a class behind its bracket: dashes, and a
closing bracket in the first place, stand for themselves. -/
def openClass? (modes : Modes) (cs : List Char) : Option (List Char) :=
  let (negated, cs) := match modes.skip cs with
    | '^' :: rest => (true, modes.skip rest)
    | cs => (false, cs)
  if negated && !modes.wide then none
  else
    match cs with
    | ']' :: rest => some rest
    | cs => some (cs.dropWhile (· == '-'))

/-- What follows a class that lies in so many others, from behind the
beginning of the innermost on. The first number bounds the steps. -/
def closeClass? (modes : Modes) : Nat → Nat → List Char → Option (List Char)
  | 0, _, _ => none
  | n + 1, depth, cs =>
    match modes.skip cs with
    | [] => none
    | '[' :: rest => (openClass? modes rest).bind (closeClass? modes n (depth + 1))
    | ']' :: rest =>
      match depth with
      | 0 => some rest
      | depth + 1 => closeClass? modes n depth rest
    | '&' :: '&' :: rest | '-' :: '-' :: rest | '~' :: '~' :: rest =>
      closeClass? modes n depth rest
    | cs => (readRange? modes cs).bind (closeClass? modes n depth)

/-- What follows a class in brackets, from behind its first bracket on. -/
def readClass? (modes : Modes) (cs : List Char) : Option (List Char) :=
  (openClass? modes cs).bind (closeClass? modes (cs.length + 1) 0)

/-! ## Groups -/

/-- How a group begins. -/
inductive Opening
  /-- A group under modes of its own; it may have a name. -/
  | group (name : Option (List Char)) (modes : Modes)
  /-- Modes for the rest of the group around it. -/
  | switch (modes : Modes)

/-- A character of the name of a group. -/
def isNameChar (c : Char) : Bool :=
  c == '_' || c == '.' || c == '[' || c == ']' || isAlphanumeric c

/-- The name of a group up to its mark, and what follows. A name does not
begin with a digit. -/
def readName? (cs : List Char) : Option (List Char × List Char) :=
  match cs.span isNameChar with
  | (c :: name, '>' :: rest) =>
    if c == '_' || (isAlphanumeric c && !c.isDigit) then some (c :: name, rest) else none
  | _ => none

/-- The letters of modes up to a colon or a bracket, and what follows. A
letter or the dash that turns modes off stands at most once, and the dash
not at the end. -/
def modeLetters? (cs : List Char) : Option (List Char × List Char) :=
  let (letters, rest) := cs.span fun c => c != ':' && c != ')'
  if letters.all "imsUuRx-".toList.contains && letters.Nodup && letters.getLast? != some '-'
  then some (letters, rest) else none

/-- Modes after letters that turn them on, or off behind a dash. -/
def Modes.after (modes : Modes) (letters : List Char) : Modes :=
  let (on, off) := letters.span (· != '-')
  { wide := (modes.wide || on.contains 'u') && !off.contains 'u'
    spaced := (modes.spaced || on.contains 'x') && !off.contains 'x' }

/-- How a group begins, from behind its bracket on, and what follows. -/
def readGroup? (modes : Modes) (cs : List Char) : Option (Opening × List Char) :=
  match modes.skip cs with
  | '?' :: 'P' :: '<' :: rest | '?' :: '<' :: rest =>
    (readName? rest).map fun r => (.group (some r.1) modes, r.2)
  | '?' :: rest => do
    let (letters, rest) ← modeLetters? rest
    match rest with
    | ':' :: rest => return (.group none (modes.after letters), rest)
    | ')' :: rest => if letters.isEmpty then none else return (.switch (modes.after letters), rest)
    | _ => none
  | rest => some (.group none modes, rest)

/-! ## Expressions -/

/-- What has been read of an expression. -/
structure Progress where
  modes : Modes
  /-- The modes of the groups around, from the inside out. -/
  around : List Modes
  /-- The names of groups so far. -/
  names : List (List Char)
  /-- Whether something stands before that can be repeated. -/
  repeatable : Bool

/-- The progress behind a part that can be repeated. -/
def Progress.part (p : Progress) : Progress := { p with repeatable := true }

/-- The progress behind the beginning of a group, whose name must be new. -/
def Progress.enter? (p : Progress) : Opening → Option Progress
  | .switch modes => some { p with modes, repeatable := false }
  | .group name modes =>
    if name.any p.names.contains then none
    else some ⟨modes, p.modes :: p.around, name.toList ++ p.names, false⟩

/-- The progress behind the end of a group. -/
def Progress.leave? (p : Progress) : Option Progress :=
  match p.around with
  | [] => none
  | modes :: around => some { p with modes, around, repeatable := true }

/-- Whether the rest of an expression is well written. The number bounds
the steps. -/
def continues : Nat → Progress → List Char → Bool
  | 0, _, _ => false
  | n + 1, p, cs =>
    match p.modes.skip cs with
    | [] => p.around.isEmpty
    | '(' :: rest =>
      ((readGroup? p.modes rest).bind fun r => (p.enter? r.1).map (·, r.2)).any
        fun r => continues n r.1 r.2
    | ')' :: rest => p.leave?.any fun p => continues n p rest
    | '|' :: rest => continues n { p with repeatable := false } rest
    | '*' :: rest | '+' :: rest | '?' :: rest =>
      p.repeatable &&
        continues n p (match rest with
          | '?' :: rest => rest
          | rest => rest)
    | '\x7b' :: _ => false
    | '[' :: rest => (readClass? p.modes rest).any (continues n p.part)
    | '\\' :: rest => (readEscape? p.modes rest).any fun r => continues n p.part r.2
    | '.' :: rest => p.modes.wide && continues n p.part rest
    | _ :: rest => continues n p.part rest

/-- Whether a text is a regular expression. -/
def isExpression (cs : List Char) : Bool :=
  continues (cs.length + 1) ⟨⟨true, false⟩, [], [], false⟩ cs

end RouteConvergence.Text.RegularSyntax
