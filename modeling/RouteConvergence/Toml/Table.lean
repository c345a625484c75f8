/-
RouteConvergence.Toml.Table — tables that are put together statement by
statement.

A table comes to be in one of three ways, and each allows something else
afterwards:

* under its own heading, which may not come twice;
* on the path of another heading: it may still get a heading;
* by a dotted key: it may get further dotted keys, but no heading.

A list of tables grows by one with every heading of its kind; paths
through it lead into its last table. Values are closed: nothing can be
added to them, and no key is given twice.
-/
import RouteConvergence.Data.Tree

namespace RouteConvergence.Toml

open Data (Tree)

/-- How a table came to be. -/
inductive Origin
  | headed
  | implied
  | dotted
deriving DecidableEq, Repr

/-- What stands under a key. -/
inductive Node
  | value (tree : Tree)
  | table (origin : Origin) (fields : List (String × Node))
  | tables (items : List (List (String × Node)))

/-- Named nodes. -/
abbrev Fields := List (String × Node)

namespace Node

mutual

/-- A node as a tree. -/
def tree : Node → Tree
  | value t => t
  | table _ fields => .record (treeFields fields)
  | tables items => .list false (treeItems items)

/-- Fields as those of a tree. -/
def treeFields : Fields → List (Option String × Tree)
  | [] => []
  | (key, node) :: rest => (some key, tree node) :: treeFields rest

/-- Tables as trees. -/
def treeItems : List Fields → List Tree
  | [] => []
  | fields :: rest => .record (treeFields fields) :: treeItems rest

end

end Node

namespace Fields

/-! ## Paths -/

/-- The fields with the node under a key changed, or put there. -/
def change (key : String) (f : Option Node → Option Node) : Fields → Option Fields
  | [] => (f none).map fun node => [(key, node)]
  | (k, node) :: rest =>
    if k = key then (f (some node)).map fun node => (k, node) :: rest
    else (change key f rest).map ((k, node) :: ·)

/-- The fields with a change made in the table at the end of a path, which
is told whether that table came by a dotted key. Tables missing on the way
are made; where the path itself is dotted, it may not enter tables with a
heading. -/
def within (dotted : Bool) (f : Bool → Fields → Option Fields) :
    List String → Bool → Fields → Option Fields
  | [], reached, fields => f reached fields
  | key :: path, _, fields =>
    fields.change key fun
      | none =>
        (within dotted f path dotted []).map (.table (if dotted then .dotted else .implied))
      | some (.table origin inner) =>
        if dotted && origin == .headed then none
        else (within dotted f path (origin == .dotted) inner).map (.table origin)
      | some (.tables items) =>
        match items.getLast? with
        | some last => (within dotted f path false last).map fun t => .tables (items.dropLast ++ [t])
        | none => none
      | some (.value _) => none

/-! ## Statements -/

/-- The fields with a heading for the table at a path. -/
def head (fields : Fields) (path : List String) : Option Fields :=
  path.getLast?.bind fun key =>
    within false (fun _ inner => inner.change key fun
      | none => some (.table .headed [])
      | some (.table .implied fields) => some (.table .headed fields)
      | some _ => none) path.dropLast false fields

/-- The fields with one more table in the list at a path. -/
def append (fields : Fields) (path : List String) : Option Fields :=
  path.getLast?.bind fun key =>
    within false (fun _ inner => inner.change key fun
      | none => some (.tables [[]])
      | some (.tables items) => some (.tables (items ++ [[]]))
      | some _ => none) path.dropLast false fields

/-- The fields with a value under a dotted key. -/
def assign (fields : Fields) (path : List String) (value : Tree) : Option Fields :=
  path.getLast?.bind fun key =>
    within true (fun reached inner =>
      if reached == path.dropLast.isEmpty then none
      else inner.change key fun
        | none => some (.value value)
        | some _ => none) path.dropLast false fields

end Fields

end RouteConvergence.Toml
