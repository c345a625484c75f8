/-
RouteConvergence.Distribution — the distribution of one group.

A model is the state a group's distribution should have. It is built
anew in every cycle; the store only adds the identity it gave to the
distribution. Behaviours of all origins together are tried most specific
first.
-/
import RouteConvergence.Function
import RouteConvergence.Reference
import RouteConvergence.SortedMap
import RouteConvergence.Pattern.Specificity

namespace RouteConvergence

/-- What a store knows a distribution by. -/
structure Identity where
  id : String
  arn : String
  /-- Name the distribution serves on; alias records point there. -/
  address : Option String
deriving DecidableEq, Inhabited, Repr

namespace Identity

/-- What stands before the identifier in a distribution's resource name. -/
def arnMark : String := ":distribution/"

/-- The identity a resource name gives away: what follows its last mark,
if that is not empty. -/
def ofArn? (arn : String) : Option Identity :=
  match Text.splitLast arnMark.toList arn.toList with
  | some (_, id) => if id.isEmpty then none else some ⟨String.ofList id, arn, none⟩
  | none => none

end Identity

/-- A rule that sends the requests of one pattern to an origin. -/
structure Behavior where
  pattern : String
  target : String
  functions : List FunctionAssociation
  originRequestPolicy : Option String
  cachePolicy : Option String
deriving DecidableEq, Inhabited, Repr

/-- Whether a behaviour may stand before another. -/
def Behavior.mayPrecede (a b : Behavior) : Bool := Pattern.noLessSpecific a.pattern b.pattern

/-- An origin and its behaviours, most specific first. -/
structure Origin where
  host : String
  behaviors : List Behavior
  responseTimeout : Option Nat
deriving DecidableEq, Inhabited, Repr

/-- An origin nothing is routed to. -/
def Origin.bare (host : String) : Origin := ⟨host, [], none⟩

/-- How viewers are served over TLS. -/
structure TlsSection where
  certificateArn : String
  securityPolicy : String
  supportMethod : String
deriving DecidableEq, Inhabited, Repr

/-- Where access logs go. -/
structure LogTarget where
  bucket : String
  keyStart : String
deriving DecidableEq, Inhabited, Repr

/-- The state a group's distribution should have. -/
structure Model where
  group : GroupName
  description : String
  /-- Catches what no behaviour matches. -/
  defaultOrigin : Origin
  /-- The origins of the routes, by host. -/
  origins : List Origin
  /-- Names to serve on, sorted and each once. -/
  alternateDomains : List String
  tls : Option TlsSection
  webAcl : Option String
  tags : SortedMap String String
  logging : Option LogTarget
  ipv6 : Bool
  identity : Option Identity
deriving DecidableEq, Inhabited

namespace Model

/-- A model without origins stands for no distribution. -/
def isEmpty (m : Model) : Bool := m.origins.isEmpty

/-- Whether the store already has the distribution. -/
def hasIdentity (m : Model) : Bool := m.identity.isSome

/-- The model with an identity in place of its own. -/
def withIdentity (m : Model) (identity : Option Identity) : Model := { m with identity }

/-- Where alias records should point. -/
def address (m : Model) : Option String := m.identity.bind (·.address)

/-- All behaviours in the order in which they are tried. -/
def orderedBehaviors (m : Model) : List Behavior :=
  (m.origins.flatMap (·.behaviors)).mergeSort Behavior.mayPrecede

end Model

end RouteConvergence
