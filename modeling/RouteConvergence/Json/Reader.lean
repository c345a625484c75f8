/-
RouteConvergence.Json.Reader — strict reading of JSON texts.

A text is one value with blanks around it and nothing else. Numbers have
no leading zeros, texts no raw control characters, and neither lists nor
records a comma before their end. A field may occur twice; whether that
is wrong is for the reader of the tree to say.
-/
import RouteConvergence.Data.Tree
import RouteConvergence.Text.Decimal

namespace RouteConvergence.Json

open Data (Tree)

/-! ## Blanks and numbers -/

/-- The blanks of the format. -/
def isSpace (c : Char) : Bool := c == ' ' || c == '\n' || c == '\t' || c == '\r'

/-- Characters without blanks in front. -/
def skipSpace (cs : List Char) : List Char := cs.dropWhile isSpace

/-- One or more digits, and what follows. -/
def readDigits (cs : List Char) : Option (List Char × List Char) :=
  match cs.span Text.isDigit with
  | ([], _) => none
  | (digits, rest) => some (digits, rest)

/-- The whole part of a number: a zero by itself, or digits that do not
begin with one. -/
def readWhole : List Char → Option (List Char × List Char)
  | '0' :: rest => some (['0'], rest)
  | cs => readDigits cs

/-- The part after a point, if there is a point. -/
def readFraction : List Char → Option (List Char × List Char)
  | '.' :: rest => (readDigits rest).map fun p => ('.' :: p.1, p.2)
  | cs => some ([], cs)

/-- The digits of an exponent after its letter. -/
def readExponentDigits (letter : Char) : List Char → Option (List Char × List Char)
  | '+' :: rest => (readDigits rest).map fun p => (letter :: '+' :: p.1, p.2)
  | '-' :: rest => (readDigits rest).map fun p => (letter :: '-' :: p.1, p.2)
  | rest => (readDigits rest).map fun p => (letter :: p.1, p.2)

/-- An exponent, if there is one. -/
def readExponent : List Char → Option (List Char × List Char)
  | 'e' :: rest => readExponentDigits 'e' rest
  | 'E' :: rest => readExponentDigits 'E' rest
  | cs => some ([], cs)

/-- A number without its sign. -/
def readUnsigned (cs : List Char) : Option (List Char × List Char) := do
  let (whole, cs) ← readWhole cs
  let (fraction, cs) ← readFraction cs
  let (exponent, cs) ← readExponent cs
  return (whole ++ fraction ++ exponent, cs)

/-- A number. -/
def readNumber : List Char → Option (List Char × List Char)
  | '-' :: rest => (readUnsigned rest).map fun p => ('-' :: p.1, p.2)
  | cs => readUnsigned cs

/-! ## Texts -/

/-- The value of a hexadecimal digit. -/
def hexValue (c : Char) : Option Nat :=
  if '0' ≤ c ∧ c ≤ '9' then some (c.toNat - '0'.toNat)
  else if 'a' ≤ c ∧ c ≤ 'f' then some (c.toNat - 'a'.toNat + 10)
  else if 'A' ≤ c ∧ c ≤ 'F' then some (c.toNat - 'A'.toNat + 10)
  else none

/-- The value of four hexadecimal digits. -/
def hexUnit (a b c d : Char) : Option Nat := do
  return ((← hexValue a) * 16 + (← hexValue b)) * 256 + ((← hexValue c) * 16 + (← hexValue d))

/-- The character after a backslash that stands for one character. -/
def unescape : Char → Option Char
  | '"' => some '"'
  | '\\' => some '\\'
  | '/' => some '/'
  | 'b' => some '\x08'
  | 'f' => some '\x0c'
  | 'n' => some '\n'
  | 'r' => some '\r'
  | 't' => some '\t'
  | _ => none

/-- Puts a character in front of a text that was read. -/
def withChar (c : Char) (p : Option (List Char) × List Char) : Option (List Char) × List Char :=
  (p.1.map (c :: ·), p.2)

/-- The characters of a text up to its closing mark, and what follows. The
characters are none if half of a surrogate pair is among them. -/
def readText : List Char → Option (Option (List Char) × List Char)
  | [] => none
  | '"' :: rest => some (some [], rest)
  | '\\' :: 'u' :: a :: b :: c :: d :: rest =>
    match hexUnit a b c d with
    | none => none
    | some unit =>
      if 0xD800 ≤ unit ∧ unit ≤ 0xDBFF then
        match rest with
        | '\\' :: 'u' :: e :: f :: g :: h :: rest' =>
          match hexUnit e f g h with
          | none => none
          | some low =>
            if 0xDC00 ≤ low ∧ low ≤ 0xDFFF then
              (readText rest').map
                (withChar (Char.ofNat (0x10000 + (unit - 0xD800) * 0x400 + (low - 0xDC00))))
            else (readText rest').map fun p => (none, p.2)
        | rest' => (readText rest').map fun p => (none, p.2)
      else if 0xDC00 ≤ unit ∧ unit ≤ 0xDFFF then (readText rest).map fun p => (none, p.2)
      else (readText rest).map (withChar (Char.ofNat unit))
  | '\\' :: c :: rest =>
    match unescape c with
    | none => none
    | some c => (readText rest).map (withChar c)
  | c :: rest => if c.toNat < 0x20 then none else (readText rest).map (withChar c)

/-! ## Values -/

/-- A value that is neither text, list nor record. -/
def readScalar (cs : List Char) : Option (Tree × List Char) :=
  if "null".toList.isPrefixOf cs then some (.null, cs.drop 4)
  else if "true".toList.isPrefixOf cs then some (.bool true, cs.drop 4)
  else if "false".toList.isPrefixOf cs then some (.bool false, cs.drop 5)
  else (readNumber cs).map fun p => (.number (String.ofList p.1), p.2)

mutual

/-- One value with blanks in front, and what follows. The number bounds the
depth of the reading. -/
def readValue : Nat → List Char → Option (Tree × List Char)
  | 0, _ => none
  | n + 1, cs =>
    match skipSpace cs with
    | '"' :: rest => (readText rest).map fun p => (.text (p.1.map String.ofList), p.2)
    | '[' :: rest => (readItems n true rest).map fun p => (.list true p.1, p.2)
    | '\x7b' :: rest => (readFields n true rest).map fun p => (.record p.1, p.2)
    | cs => readScalar cs

/-- The items of a list up to its closing bracket; `mayClose` says whether
the bracket may come at once. -/
def readItems : Nat → Bool → List Char → Option (List Tree × List Char)
  | 0, _, _ => none
  | n + 1, mayClose, cs =>
    match skipSpace cs with
    | ']' :: rest => if mayClose then some ([], rest) else none
    | cs => do
      let (item, cs) ← readValue n cs
      match skipSpace cs with
      | ']' :: rest => some ([item], rest)
      | ',' :: rest => (readItems n false rest).map fun p => (item :: p.1, p.2)
      | _ => none

/-- The fields of a record up to its closing brace. -/
def readFields : Nat → Bool → List Char → Option (List (Option String × Tree) × List Char)
  | 0, _, _ => none
  | n + 1, mayClose, cs =>
    match skipSpace cs with
    | '\x7d' :: rest => if mayClose then some ([], rest) else none
    | '"' :: rest => do
      let (key, cs) ← readText rest
      match skipSpace cs with
      | ':' :: rest => do
        let (value, cs) ← readValue n rest
        let field := (key.map String.ofList, value)
        match skipSpace cs with
        | '\x7d' :: rest => some ([field], rest)
        | ',' :: rest => (readFields n false rest).map fun p => (field :: p.1, p.2)
        | _ => none
      | _ => none
    | _ => none

end

/-- The value of a text that is one value and nothing else. -/
def read? (text : String) : Option Tree :=
  let cs := text.toList
  match readValue (2 * cs.length + 2) cs with
  | some (tree, rest) => if (skipSpace rest).isEmpty then some tree else none
  | none => none

end RouteConvergence.Json
