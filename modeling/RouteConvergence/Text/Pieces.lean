/-
RouteConvergence.Text.Pieces — cutting text at separators and putting it
together again.

* `splitOn` cuts at every separator; joined with the separator the pieces
  give the text back.
* `splitFirst` and `splitLast` cut once, at the first separator and at
  the last occurrence of a mark.
* `joinWith` writes pieces with a separator between them.
-/

namespace RouteConvergence.Text

/-! ## Cutting -/

/-- The pieces between separators; there is one more than there are
separators. -/
def splitChars (sep : Char) : List Char → List (List Char)
  | [] => [[]]
  | c :: cs =>
    if c = sep then [] :: splitChars sep cs
    else
      match splitChars sep cs with
      | [] => [[c]]
      | piece :: rest => (c :: piece) :: rest

/-- What stands before and after the first separator, if there is one. -/
def splitFirst (sep : Char) : List Char → Option (List Char × List Char)
  | [] => none
  | c :: cs =>
    if c = sep then some ([], cs)
    else (splitFirst sep cs).map fun p => (c :: p.1, p.2)

/-- What stands before and after the last occurrence of a mark, if there is
one. -/
def splitLast (mark : List Char) : List Char → Option (List Char × List Char)
  | [] => none
  | c :: cs =>
    match splitLast mark cs with
    | some (before, after) => some (c :: before, after)
    | none => if mark.isPrefixOf (c :: cs) then some ([], (c :: cs).drop mark.length) else none

/-- The pieces of a text between separators. -/
def splitOn (sep : Char) (s : String) : List String :=
  (splitChars sep s.toList).map String.ofList

/-- The two parts of a text around its first separator. -/
def splitOnce (sep : Char) (s : String) : Option (String × String) :=
  (splitFirst sep s.toList).map fun p => (String.ofList p.1, String.ofList p.2)

/-- The text after a given beginning, if it begins so. -/
def dropStart? (start s : String) : Option String :=
  if start.toList.isPrefixOf s.toList then
    some (String.ofList (s.toList.drop start.toList.length))
  else none

/-- Whether a text begins with another. -/
def startsWith (s start : String) : Bool := start.toList.isPrefixOf s.toList

/-! ## Joining -/

/-- The pieces in order with a separator between neighbours. -/
def joinWith (sep : String) : List String → String
  | [] => ""
  | [s] => s
  | s :: t :: rest => s ++ sep ++ joinWith sep (t :: rest)

/-! ## Filling in -/

/-- The characters with every occurrence of a mark, taken from the left
without overlap, replaced. The first argument bounds the number of steps;
the length of the text is enough. -/
def fillFrom (mark value : List Char) : Nat → List Char → List Char
  | 0, cs => cs
  | _ + 1, [] => []
  | n + 1, c :: cs =>
    if mark.isPrefixOf (c :: cs) then value ++ fillFrom mark value n ((c :: cs).drop mark.length)
    else c :: fillFrom mark value n cs

/-- The text with every occurrence of a non-empty mark replaced. -/
def fillIn (mark value s : String) : String :=
  String.ofList (fillFrom mark.toList value.toList s.toList.length s.toList)

end RouteConvergence.Text
