/-
RouteConvergence.Yaml.Reader — reading YAML documents.

A text holds at most one document. `nodeOf?` gives its node in an edition
of the format, and `read?` the tree that route files are read from. In a
tree, scalars without quotation marks are kept as they are, for the reader
of the tree to take as what it wants.
-/
import RouteConvergence.Data.Tree
import RouteConvergence.Yaml.Layout
import RouteConvergence.Yaml.Node

namespace RouteConvergence.Yaml

open Data (Tree)

/-- The node of the only document of a text; none where there is no
document. -/
def nodeOf? (e : Edition) (text : String) : Option (Option Node) :=
  (tokens? e text).bind (Node.ofDocument? e)

namespace Node

/-- The text of a node that is a scalar. -/
def text? : Node → Option String
  | plain s | quoted s => some s
  | _ => none

mutual

/-- A node as a tree. -/
def tree : Node → Tree
  | plain s => .plain s
  | quoted s => .text s
  | list items => .list false (treeItems items)
  | map fields => .record (treeFields fields)

/-- Items as trees. -/
def treeItems : List Node → List Tree
  | [] => []
  | node :: rest => node.tree :: treeItems rest

/-- Fields as those of a tree. -/
def treeFields : List (Node × Node) → List (Option String × Tree)
  | [] => []
  | (key, value) :: rest => (key.text?, value.tree) :: treeFields rest

end

end Node

/-- The tree of a text; an empty text is nothing. -/
def read? (text : String) : Option Tree :=
  (nodeOf? .older text).map fun node => (node.getD .absent).tree

end RouteConvergence.Yaml
