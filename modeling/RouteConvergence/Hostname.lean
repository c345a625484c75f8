/-
RouteConvergence.Hostname — names a distribution may be reached by.

A host name is at most 253 bytes long and matches one expression: a
wildcard label `*.` may lead, then come labels that begin and end with a
letter or digit and hold letters, digits and hyphens, each closed by a
dot, and a last label that begins with a letter. Letters are taken in
either case, and two characters outside ASCII fold to letters
(`Text.isFoldedLetter`).
-/
import RouteConvergence.Text.Letter
import RouteConvergence.Text.Regular

namespace RouteConvergence.Hostname

open Text (Regular isFoldedLetter isDigit)

/-- The most bytes a host name may have. -/
def maxBytes : Nat := 253

def isWordChar (c : Char) : Bool := isFoldedLetter c || isDigit c

def isInnerChar (c : Char) : Bool := isWordChar c || c == '-'

def only (c : Char) : Regular := .one (· == c)

/-- Up to sixty-one inner characters and a closing letter or digit. -/
def labelTail : Regular := .next (.upTo 61 (.one isInnerChar)) (.one isWordChar)

/-- A label and the dot after it. -/
def dottedLabel : Regular := .next (.one isWordChar) (.next (.opt labelTail) (only '.'))

/-- The expression of host names. -/
def expression : Regular :=
  .next (.opt (.next (only '*') (only '.')))
    (.next (.many dottedLabel) (.next (.one isFoldedLetter) labelTail))

/-- Whether a text is a host name. -/
def isValid (host : String) : Bool :=
  host.utf8ByteSize ≤ maxBytes && expression.accepts host.toList

end RouteConvergence.Hostname
