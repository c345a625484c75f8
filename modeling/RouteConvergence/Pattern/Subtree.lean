/-
RouteConvergence.Pattern.Subtree — the patterns of a path.

A distribution knows no subtrees: its patterns match literally except for
`*` and `?`. A subtree is therefore written as its root and everything
below the root; the subtree of `/` is everything.
-/
import RouteConvergence.Descriptor

namespace RouteConvergence

/-- A path without one slash at its end. -/
def Text.dropFinalSlash (cs : List Char) : List Char :=
  if cs.getLast? = some '/' then cs.dropLast else cs

namespace PathSpec

/-- The path of a subtree's root: one slash at the end does not count. -/
def base (p : PathSpec) : String := String.ofList (Text.dropFinalSlash p.path.toList)

/-- The patterns that stand for a path. -/
def patterns (p : PathSpec) : List String :=
  match p.kind with
  | .exact => [p.path]
  | .subtree => if p.path = "/" then ["/*"] else [p.base, p.base ++ "/*"]

/-- The patterns of several paths in order. -/
def allPatterns (paths : List PathSpec) : List String := paths.flatMap patterns

end PathSpec

end RouteConvergence
