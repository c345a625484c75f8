/-
RouteConvergence.Json.Writer — documents as JSON texts.

* `compact` — on one line, without blanks.
* `pretty` — one item or field a line, two blanks per level; an empty
  list or record stays closed.

A value under the name of its case is a record with that one field.
-/
import RouteConvergence.Data.Tree
import RouteConvergence.Text.Decimal
import RouteConvergence.Text.Pieces

namespace RouteConvergence.Json

open Data (Document)

/-! ## Texts -/

/-- A control character by its number, in four hexadecimal digits. -/
def controlEscape (c : Char) : List Char :=
  let digits := Nat.toDigits 16 c.toNat
  '\\' :: 'u' :: (List.replicate (4 - digits.length) '0' ++ digits)

/-- One character inside quotation marks. -/
def escapeChar (c : Char) : List Char :=
  if c = '"' then ['\\', '"']
  else if c = '\\' then ['\\', '\\']
  else if c = '\x08' then ['\\', 'b']
  else if c = '\x0c' then ['\\', 'f']
  else if c = '\n' then ['\\', 'n']
  else if c = '\r' then ['\\', 'r']
  else if c = '\t' then ['\\', 't']
  else if c.toNat < 0x20 then controlEscape c
  else [c]

/-- A text in quotation marks. -/
def textLiteral (s : String) : String :=
  String.ofList (['"'] ++ s.toList.flatMap escapeChar ++ ['"'])

/-! ## On one line -/

mutual

/-- A document on one line. -/
def compact : Document → String
  | .null => "null"
  | .bool true => "true"
  | .bool false => "false"
  | .number n => Text.intText n
  | .text s => textLiteral s
  | .list items => "[" ++ Text.joinWith "," (compactItems items) ++ "]"
  | .record fields => "\x7b" ++ Text.joinWith "," (compactFields fields) ++ "\x7d"
  | .variant name content => "\x7b" ++ textLiteral name ++ ":" ++ compact content ++ "\x7d"

/-- Items, each on one line. -/
def compactItems : List Document → List String
  | [] => []
  | d :: rest => compact d :: compactItems rest

/-- Fields, each on one line. -/
def compactFields : List (String × Document) → List String
  | [] => []
  | (name, d) :: rest => (textLiteral name ++ ":" ++ compact d) :: compactFields rest

end

/-! ## On several lines -/

/-- The blanks in front of a line at a level. -/
def indentation (level : Nat) : String := String.ofList (List.replicate (2 * level) ' ')

/-- Entries between brackets, each on a line of its own one level deeper. -/
def bracketed (level : Nat) (opening closing : String) : List String → String
  | [] => opening ++ closing
  | entries =>
    opening ++ "\n"
      ++ Text.joinWith ",\n" (entries.map fun e => indentation (level + 1) ++ e)
      ++ "\n" ++ indentation level ++ closing

mutual

/-- A document over several lines, at a level. -/
def prettyAt (level : Nat) : Document → String
  | .null => "null"
  | .bool true => "true"
  | .bool false => "false"
  | .number n => Text.intText n
  | .text s => textLiteral s
  | .list items => bracketed level "[" "]" (prettyItems (level + 1) items)
  | .record fields => bracketed level "\x7b" "\x7d" (prettyFields (level + 1) fields)
  | .variant name content =>
    bracketed level "\x7b" "\x7d" [textLiteral name ++ ": " ++ prettyAt (level + 1) content]

/-- Items over several lines, at a level. -/
def prettyItems (level : Nat) : List Document → List String
  | [] => []
  | d :: rest => prettyAt level d :: prettyItems level rest

/-- Fields over several lines, at a level. -/
def prettyFields (level : Nat) : List (String × Document) → List String
  | [] => []
  | (name, d) :: rest =>
    (textLiteral name ++ ": " ++ prettyAt level d) :: prettyFields level rest

end

/-- A document over several lines. -/
def pretty (d : Document) : String := prettyAt 0 d

end RouteConvergence.Json
