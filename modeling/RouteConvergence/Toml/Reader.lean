/-
RouteConvergence.Toml.Reader — reading TOML documents.

A document is a line for each statement: a heading of a table or of one
more table of a list, or a key with its value. Values may hold lists and
tables in braces. Both may go over several lines, with comments between,
and may have a comma before their end.
-/
import RouteConvergence.Toml.Scalar
import RouteConvergence.Toml.Table

namespace RouteConvergence.Toml

open Data (Tree)

/-! ## Blanks and comments -/

/-- What follows a comment, if one is in front; it may hold no control
characters. -/
def dropComment? : List Char → Option (List Char)
  | '#' :: rest =>
    let rest := rest.dropWhile isTextChar
    if rest.isEmpty || (dropBreak? rest).isSome then some rest else none
  | cs => some cs

/-- What follows the end of a line behind blanks and a comment. -/
def endLine? (cs : List Char) : Option (List Char) := do
  match ← dropComment? (skipGap cs) with
  | [] => some []
  | cs => dropBreak? cs

/-- Characters without blanks, comments and line breaks in front. The
number bounds the steps. -/
def skipLines : Nat → List Char → Option (List Char)
  | 0, cs => some cs
  | n + 1, cs =>
    match skipGap cs with
    | '#' :: rest => (dropComment? ('#' :: rest)).bind (skipLines n)
    | cs =>
      match dropBreak? cs with
      | some rest => skipLines n rest
      | none => some cs

/-! ## Values -/

/-- Characters without blanks, comments and line breaks in front. -/
def skipAll (cs : List Char) : Option (List Char) := skipLines (cs.length + 1) cs

mutual

/-- A value that holds lists and tables in braces up to a depth. The first
number bounds the steps. -/
def readValue : Nat → Nat → List Char → Option (Tree × List Char)
  | 0, _, _ => none
  | n + 1, depth, cs =>
    match cs, depth with
    | '[' :: _, 0 | '\x7b' :: _, 0 => none
    | '[' :: rest, depth + 1 => (readItems n depth rest).map fun r => (.list true r.1, r.2)
    | '\x7b' :: rest, depth + 1 =>
      (readPairs n depth [] rest).map fun r => (.record (Node.treeFields r.1), r.2)
    | '"' :: _, _ | '\'' :: _, _ =>
      (readQuoted? true cs).map fun r => (.text (some r.1), r.2)
    | cs, _ =>
      let (word, rest) := spanWord cs
      (word? word).map fun t => (t, rest)

/-- The items of a list up to its bracket. -/
def readItems : Nat → Nat → List Char → Option (List Tree × List Char)
  | 0, _, _ => none
  | n + 1, depth, cs => do
    match ← skipAll cs with
    | ']' :: rest => return ([], rest)
    | cs =>
      let (item, rest) ← readValue n depth cs
      match ← skipAll rest with
      | ']' :: rest => return ([item], rest)
      | ',' :: rest =>
        let (items, rest) ← readItems n depth rest
        return (item :: items, rest)
      | _ => none

/-- The fields of a table in braces up to its brace, after those before. -/
def readPairs : Nat → Nat → Fields → List Char → Option (Fields × List Char)
  | 0, _, _, _ => none
  | n + 1, depth, fields, cs => do
    match ← skipAll cs with
    | '\x7d' :: rest => return (fields, rest)
    | cs =>
      let (path, rest) ← readKeys cs
      let (value, rest) ← readValue n depth (← skipAll (← readMark '=' (← skipAll rest)))
      let fields ← fields.assign path value
      match ← skipAll rest with
      | '\x7d' :: rest => return (fields, rest)
      | ',' :: rest => readPairs n depth fields rest
      | _ => none

end

/-! ## Documents -/

/-- One line of a document. -/
inductive Statement
  | heading (path : List String)
  | item (path : List String)
  | assignment (path : List String) (value : Tree)

/-- A statement without the end of its line. -/
def readStatement (cs : List Char) : Option (Statement × List Char) :=
  match cs with
  | '[' :: '[' :: rest => do
    let (path, rest) ← readKeys rest
    return (.item path, ← readMark ']' (← readMark ']' rest))
  | '[' :: rest => do
    let (path, rest) ← readKeys rest
    return (.heading path, ← readMark ']' rest)
  | cs => do
    let (path, rest) ← readKeys cs
    let (value, rest) ← readValue (cs.length + 1) greatestDepth (skipGap (← readMark '=' rest))
    return (.assignment path value, rest)

/-- The statements of a document. The number bounds them. -/
def readStatements : Nat → List Char → Option (List Statement)
  | 0, _ => none
  | n + 1, cs => do
    match ← skipAll cs with
    | [] => return []
    | cs =>
      let (statement, rest) ← readStatement cs
      return statement :: (← readStatements n (← endLine? rest))

/-- The fields of a document and the path of the last heading, after one
more statement. -/
def Fields.after (state : Fields × List String) : Statement → Option (Fields × List String)
  | .heading path => (state.1.head path).map fun fields => (fields, path)
  | .item path => (state.1.append path).map fun fields => (fields, path)
  | .assignment path value =>
    (within false (fun _ fields => fields.assign path value) state.2 false state.1).map
      fun fields => (fields, state.2)

/-- The table a document stands for. A byte order mark may stand in front. -/
def read? (text : String) : Option Tree := do
  let cs := match text.toList with
    | '\ufeff' :: rest => rest
    | cs => cs
  let statements ← readStatements (cs.length + 1) cs
  let (fields, _) ← statements.foldlM Fields.after ([], [])
  return .record (Node.treeFields fields)

end RouteConvergence.Toml
