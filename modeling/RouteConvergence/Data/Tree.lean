/-
RouteConvergence.Data.Tree — documents as they are read and as they are
written.

* `Tree` — what a document says before anybody asks for a type. It keeps
  what typed reading has to see: repeated fields, the spelling of
  numbers, and whether a scalar stood without quotation marks.
* `Document` — what is to be written. It is what values are turned into,
  and every format writes it in its own way.
-/

namespace RouteConvergence.Data

/-- What a document says. -/
inductive Tree
  | null
  | bool (value : Bool)
  /-- A number as it is spelled. -/
  | number (literal : String)
  /-- A text; none if it holds half of a surrogate pair and can only be
  skipped. -/
  | text (value : Option String)
  /-- A scalar without quotation marks, to be read as whatever is wanted. -/
  | plain (value : String)
  /-- A list; a positional one may stand for a record, field by field. -/
  | list (positional : Bool) (items : List Tree)
  /-- Named fields in the order of the document. -/
  | record (fields : List (Option String × Tree))
deriving Inhabited

/-- What is to be written. -/
inductive Document
  | null
  | bool (value : Bool)
  | number (value : Int)
  | text (value : String)
  | list (items : List Document)
  | record (fields : List (String × Document))
  /-- A value under the name of its case. -/
  | variant (name : String) (content : Document)
deriving Inhabited

namespace Document

/-- A text, or null where there is none. -/
def optionalText : Option String → Document
  | some s => .text s
  | none => .null

/-- A number, or null where there is none. -/
def optionalNat : Option Nat → Document
  | some n => .number n
  | none => .null

/-- A list of texts. -/
def texts (xs : List String) : Document := .list (xs.map .text)

end Document

end RouteConvergence.Data
