/-
RouteConvergence.Event — what operators are told about.
-/
import RouteConvergence.Reference

namespace RouteConvergence

/-- What an event is about. -/
inductive EventTarget
  | route (reference : Reference)
  | status (group : GroupName)
deriving DecidableEq, Inhabited, Repr

/-- The written form of a target. -/
def EventTarget.text : EventTarget → String
  | .route reference => "descriptor/" ++ reference.text
  | .status group => "status/" ++ group

/-- Whether an event is good news. -/
inductive EventKind
  | normal
  | warning
deriving DecidableEq, Inhabited, Repr

namespace EventKind

def word : EventKind → String
  | .normal => "Normal"
  | .warning => "Warning"

def all : List EventKind := [.normal, .warning]

end EventKind

/-- A message about a route or a status record. -/
structure Event where
  target : EventTarget
  kind : EventKind
  reason : String
  message : String
deriving DecidableEq, Inhabited, Repr

end RouteConvergence
