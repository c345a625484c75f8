/-
RouteConvergence.Text.Quoted — text in quotation marks inside a message.

A quoted text shows every character a reader could not see or could take
for the closing mark as an escape: the mark and the backslash with a
backslash before them, tab, newline, carriage return and the null
character by their letters, and every other hidden character by its code
point in braces.
-/
import RouteConvergence.Text.Hidden
import RouteConvergence.Text.Pieces

namespace RouteConvergence.Text

/-- The code point of a character in lower-case hexadecimal. -/
def codePointText (c : Char) : List Char := Nat.toDigits 16 c.toNat

/-- One character as it stands inside quotation marks. -/
def quotedChar (c : Char) : List Char :=
  if c = '"' then ['\\', '"']
  else if c = '\\' then ['\\', '\\']
  else if c = '\t' then ['\\', 't']
  else if c = '\n' then ['\\', 'n']
  else if c = '\r' then ['\\', 'r']
  else if c = '\x00' then ['\\', '0']
  else if isHidden c then ['\\', 'u', '\x7b'] ++ codePointText c ++ ['\x7d']
  else [c]

/-- A text in quotation marks. -/
def quoted (s : String) : String :=
  String.ofList (['"'] ++ s.toList.flatMap quotedChar ++ ['"'])

/-- A set of texts: each in quotation marks, between braces. -/
def quotedSet (texts : List String) : String :=
  "\x7b" ++ joinWith ", " (texts.map quoted) ++ "\x7d"

end RouteConvergence.Text
