/-
RouteConvergence.Function — functions that run on requests.

A function is attached to one of four moments in the life of a request,
and runs either at the viewer's side, where only the two viewer moments
exist, or at the edge, where all four do.
-/

namespace RouteConvergence

/-- Moment of a request a function is attached to. -/
inductive FunctionEvent
  | viewerRequest
  | viewerResponse
  | originRequest
  | originResponse
deriving DecidableEq, Inhabited, Repr

namespace FunctionEvent

/-- Whether the moment belongs to the viewer's side. -/
def isViewer : FunctionEvent → Bool
  | .viewerRequest | .viewerResponse => true
  | .originRequest | .originResponse => false

def word : FunctionEvent → String
  | .viewerRequest => "viewer-request"
  | .viewerResponse => "viewer-response"
  | .originRequest => "origin-request"
  | .originResponse => "origin-response"

/-- The name a message uses for the moment. -/
def spokenName : FunctionEvent → String
  | .viewerRequest => "ViewerRequest"
  | .viewerResponse => "ViewerResponse"
  | .originRequest => "OriginRequest"
  | .originResponse => "OriginResponse"

/-- Every moment, in the order of a request's life. -/
def all : List FunctionEvent :=
  [.viewerRequest, .viewerResponse, .originRequest, .originResponse]

end FunctionEvent

/-- Side on which a function runs. -/
inductive FunctionKind
  | viewer
  | edge
deriving DecidableEq, Inhabited, Repr

namespace FunctionKind

def word : FunctionKind → String
  | .viewer => "viewer"
  | .edge => "edge"

def all : List FunctionKind := [.viewer, .edge]

end FunctionKind

/-- A function attached to the behaviours of a route. -/
structure FunctionAssociation where
  kind : FunctionKind
  event : FunctionEvent
  arn : String
  includeBody : Bool
deriving DecidableEq, Inhabited, Repr

end RouteConvergence
