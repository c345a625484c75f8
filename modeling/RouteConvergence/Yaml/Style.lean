/-
RouteConvergence.Yaml.Style — how a text is written in a YAML document.

A text stands without quotation marks where that is safe. It is put in
single marks if it would read as something else, or if its characters
have a meaning of their own, and in double marks, with escapes, if it
holds characters that cannot be shown. A text of several lines is written
line by line under a bar.

* `Style.of` — the style of a text.
* `Style.write` — the text in a style.
-/
import RouteConvergence.Data.Slots
import RouteConvergence.Decimal.Binary64
import RouteConvergence.Text.Pieces
import RouteConvergence.Yaml.Place

namespace RouteConvergence.Yaml

/-- The ways to write a text. -/
inductive Style
  | plain
  | single
  | double
  /-- Line by line under a bar. -/
  | lines
deriving DecidableEq, Repr

/-! ## Breaks and blanks -/

/-- A character that ends a line in documents that are written. -/
def isBreak (c : Char) : Bool := Edition.older.isBreak c

/-- A blank or the end of a line. -/
def isSpace (c : Char) : Bool := Edition.older.isSpace c

/-- Whether a blank, a line's end or the end comes next. -/
def spaceFollows (cs : List Char) : Bool := Edition.older.spaceFollows cs

/-! ## Texts that read as something else -/

/-- Characters without a sign in front. -/
def withoutSign : List Char → List Char
  | '+' :: rest => rest
  | '-' :: rest => rest
  | cs => cs

/-- Whether a text is digits alone, more than one, with a zero in front. -/
def hasLeadingZero (cs : List Char) : Bool :=
  match withoutSign cs with
  | '0' :: d :: rest => (d :: rest).all Text.isDigit
  | _ => false

/-- Whether a text spells a whole number of 128 bits, with or without a
sign, in base sixteen, eight or two. -/
def spellsMarked (cs : List Char) : Bool :=
  let greatest := if cs.head? = some '-' then Nat.pow 2 127 else Nat.pow 2 128 - 1
  let fits (base : Nat) (digits : List Char) : Bool :=
    (Data.readInBase? base digits).any (· ≤ greatest)
  match withoutSign cs with
  | '0' :: 'x' :: digits => fits 16 digits
  | '0' :: 'o' :: digits => fits 8 digits
  | '0' :: 'b' :: digits => fits 2 digits
  | _ => false

/-- The names of numbers that are not finite. -/
def boundlessWords : List String :=
  [".inf", ".Inf", ".INF", "+.inf", "+.Inf", "+.INF", "-.inf", "-.Inf", "-.INF",
   ".nan", ".NaN", ".NAN"]

/-- Whether a text spells a finite number in base ten. -/
def spellsDecimal (s : String) : Bool :=
  match Decimal.Binary64.ofText? s with
  | some (.finite _ _ _) => true
  | _ => false

/-- Whether a text without quotation marks reads as something else than
itself. -/
def readsOtherwise (s : String) : Bool :=
  Data.plainIsNull s || (Data.plainBool? s).isSome || hasLeadingZero s.toList
    || spellsMarked s.toList || s ∈ boundlessWords || spellsDecimal s

/-! ## Characters with a meaning -/

/-- Whether a character can be shown as it is. -/
def isShown (c : Char) : Bool :=
  c == '\n' || (' ' ≤ c && c ≤ '~')
    || ('\u00a0' ≤ c && c != '\ufeff' && c != '\ufffe' && c != '\uffff')

/-- A character that means something at the start of a scalar. -/
def isLeadingMark (c : Char) : Bool := "#,[]\x7b\x7d&*!|>'\"%@\x60".toList.contains c

/-- Whether characters, with the one before them, hold marks of the
document's structure: a colon before a blank, or a hash behind one. -/
def hasMarkAfter (before : Char) : List Char → Bool
  | [] => false
  | c :: rest =>
    (c == ':' && spaceFollows rest) || (c == '#' && isSpace before) || hasMarkAfter c rest

/-- Whether a text holds marks of the document's structure. -/
def hasMark (cs : List Char) : Bool :=
  match cs with
  | [] => false
  | c :: rest =>
    ["---".toList, "...".toList].any (·.isPrefixOf cs) || isLeadingMark c
      || ((c == '?' || c == ':' || c == '-') && spaceFollows rest) || hasMarkAfter c rest

/-- Whether a character of one class stands just before one of another. -/
def hasPair (first second : Char → Bool) : List Char → Bool
  | c :: d :: rest => (first c && second d) || hasPair first second (d :: rest)
  | _ => false

/-- Whether a text can stand without escapes. -/
def canStand (cs : List Char) : Bool :=
  cs.all isShown && !hasPair (· == ' ') isBreak cs

/-- Whether a text can stand without quotation marks. -/
def canBePlain (cs : List Char) : Bool :=
  canStand cs && !cs.any isBreak && !hasMark cs
    && cs.head? != some ' ' && cs.getLast? != some ' '

/-- Whether a text can stand in single marks. -/
def canBeSingle (cs : List Char) : Bool :=
  canStand cs && !hasPair isBreak (· == ' ') cs

/-- Whether a text can stand line by line. -/
def canBeLines (cs : List Char) : Bool := canStand cs && cs.getLast? != some ' '

/-! ## Styles -/

namespace Style

/-- Single marks if a text can stand in them, else double ones. -/
def quoted (cs : List Char) : Style := if canBeSingle cs then single else double

/-- The style of a text. -/
def of (s : String) : Style :=
  let cs := s.toList
  if cs.contains '\n' then if canBeLines cs then lines else double
  else if readsOtherwise s || !canBePlain cs then quoted cs
  else plain

/-! ## Writing -/

/-- A number in hexadecimal digits, padded with zeros. -/
def hexDigits (width n : Nat) : List Char :=
  let digits := (Nat.toDigits 16 n).map Char.toUpper
  List.replicate (width - digits.length) '0' ++ digits

/-- The letter behind the backslash for characters that have one. -/
def escapeLetter? (c : Char) : Option Char :=
  [('\x00', '0'), ('\x07', 'a'), ('\x08', 'b'), ('\t', 't'), ('\n', 'n'), ('\x0b', 'v'),
   ('\x0c', 'f'), ('\r', 'r'), ('\x1b', 'e'), ('"', '"'), ('\\', '\\'), ('\u0085', 'N'),
   ('\u00a0', '_'), ('\u2028', 'L'), ('\u2029', 'P')].lookup c

/-- A character inside double marks. -/
def escape (c : Char) : List Char :=
  if isShown c && !isBreak c && c != '"' && c != '\\' then [c]
  else
    match escapeLetter? c with
    | some letter => ['\\', letter]
    | none =>
      if c.toNat ≤ 0xFF then ['\\', 'x'] ++ hexDigits 2 c.toNat
      else if c.toNat ≤ 0xFFFF then ['\\', 'u'] ++ hexDigits 4 c.toNat
      else ['\\', 'U'] ++ hexDigits 8 c.toNat

/-- Characters inside single marks or under a bar, each by `write`. What
follows a break is set in by the indentation. -/
def broken (indentation : List Char) (write : Char → List Char) : Bool → List Char → List Char
  | _, [] => []
  | fresh, c :: rest =>
    if isBreak c then c :: broken indentation write true rest
    else
      (if fresh then indentation else []) ++ write c ++ broken indentation write false rest

/-- The indentation at the end of a text that ends with a break. -/
def lastIndentation (indentation : List Char) (cs : List Char) : List Char :=
  if cs.getLast?.any isBreak then indentation else []

/-- A character inside single marks. -/
def doubleMark (c : Char) : List Char := if c = '\'' then ['\'', '\''] else [c]

/-- The hint behind a bar: the depth of the lines if the first one begins
with a blank, and whether breaks at the end are dropped, or kept beyond
one. -/
def hint (cs : List Char) : List Char :=
  (match cs with
    | c :: _ => if c = ' ' ∨ isBreak c then ['2'] else []
    | [] => [])
    ++ match cs.reverse with
      | c :: rest =>
        if !isBreak c then ['-']
        else
          match rest with
          | d :: _ => if isBreak d then ['+'] else []
          | [] => ['+']
      | [] => ['-']

/-- The text in a style; further lines are set in by the indentation. -/
def write (indentation : List Char) (style : Style) (s : String) : String :=
  let cs := s.toList
  String.ofList (match style with
    | plain => cs
    | single =>
      ['\''] ++ broken indentation doubleMark false cs ++ lastIndentation indentation cs ++ ['\'']
    | double => ['"'] ++ cs.flatMap escape ++ ['"']
    | lines => ['|'] ++ hint cs ++ ['\n'] ++ broken indentation (fun c => [c]) true cs)

end Style

end RouteConvergence.Yaml
