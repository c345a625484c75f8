/-
RouteConvergence.Yaml.Writer — documents as YAML texts.

One field or item a line. What lies inside a field is set in by two
blanks, but for the items of a list, whose dashes stand under the field's
key. Empty collections are written in brackets. A value under the name of
its case carries the name as a tag.

A key that is longer than 128 bytes or goes over several lines stands
behind a question mark, with its value on the next line.
-/
import RouteConvergence.Yaml.Style

namespace RouteConvergence.Yaml

open Data (Document)

/-- The blanks in front of a line. -/
def blanks (indent : Nat) : String := String.ofList (List.replicate indent ' ')

/-- The longest key, in bytes, that stands before its colon. -/
def longestKey : Nat := 128

/-- Whether a key stands before its colon on one line. -/
def isSimpleKey (key : String) : Bool :=
  key.utf8ByteSize ≤ longestKey && !key.toList.any isBreak

/-- A text set in below an indentation. -/
def textAt (indent : Nat) (s : String) : String :=
  (Style.of s).write (List.replicate (indent + 2) ' ') s

/-- A line with its end, if it does not have one. -/
def endLine (line : String) : String :=
  if line.toList.getLast? = some '\n' then line else line ++ "\n"

/-- A scalar behind a blank, to the end of its line. -/
def scalarLine (text : String) : String := endLine (" " ++ text)

/-- A key with the colon of its value. -/
def keyLine (indent : Nat) (key : String) : String :=
  if isSimpleKey key then textAt indent key ++ ":"
  else endLine ("? " ++ textAt indent key) ++ blanks indent ++ ":"

mutual

/-- A document behind the colon of its key at an indentation. -/
def fieldValue (indent : Nat) : Document → String
  | .null => scalarLine "null"
  | .bool b => scalarLine (if b then "true" else "false")
  | .number n => scalarLine (Text.intText n)
  | .text s => scalarLine (textAt indent s)
  | .list [] => scalarLine "[]"
  | .record [] => scalarLine "\x7b\x7d"
  | .list items => "\n" ++ itemLines indent (blanks indent) items
  | .record fields => "\n" ++ fieldLines (indent + 2) (blanks (indent + 2)) fields
  | .variant name content => " !" ++ name ++ fieldValue indent content

/-- A document behind a dash at an indentation. -/
def itemValue (indent : Nat) : Document → String
  | .null => scalarLine "null"
  | .bool b => scalarLine (if b then "true" else "false")
  | .number n => scalarLine (Text.intText n)
  | .text s => scalarLine (textAt indent s)
  | .list [] => scalarLine "[]"
  | .record [] => scalarLine "\x7b\x7d"
  | .list items => itemLines (indent + 2) " " items
  | .record fields => fieldLines (indent + 2) " " fields
  | .variant name content => " !" ++ name ++ fieldValue indent content

/-- Items at an indentation; `lead` stands before the first. -/
def itemLines (indent : Nat) (lead : String) : List Document → String
  | [] => ""
  | d :: rest => lead ++ "-" ++ itemValue indent d ++ itemLines indent (blanks indent) rest

/-- Fields at an indentation; `lead` stands before the first. -/
def fieldLines (indent : Nat) (lead : String) : List (String × Document) → String
  | [] => ""
  | (key, d) :: rest =>
    lead ++ keyLine indent key ++ fieldValue indent d ++ fieldLines indent (blanks indent) rest

end

/-- A record or a list as a whole document; anything else stands alone. -/
def write : Document → String
  | .record (f :: fields) => fieldLines 0 "" (f :: fields)
  | .list (d :: items) => itemLines 0 "" (d :: items)
  | d => String.ofList ((fieldValue 0 d).toList.drop 1)

end RouteConvergence.Yaml
