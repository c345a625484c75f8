/-
RouteConvergence.Descriptor — one route, in its normal form.

A descriptor is what every source format is brought to: where the route
belongs, the origin behind it, the paths it answers and the options they
carry. Only a member of a group shapes the group's distribution: it is
provisioned and not being removed.

`Descriptor.refusal?` lists what makes a descriptor malformed, in the
order in which the first complaint is raised.
-/
import RouteConvergence.Failure
import RouteConvergence.Hostname
import RouteConvergence.Text.Blank

namespace RouteConvergence

/-! ## Descriptors -/

/-- How a path is meant. -/
inductive MatchKind
  /-- The path itself. -/
  | exact
  /-- The path and everything below it. -/
  | subtree
deriving DecidableEq, Inhabited, Repr

namespace MatchKind

def word : MatchKind → String
  | .exact => "Exact"
  | .subtree => "Prefix"

def all : List MatchKind := [.exact, .subtree]

end MatchKind

/-- One path of a route. -/
structure PathSpec where
  path : String
  kind : MatchKind
deriving DecidableEq, Inhabited, Repr

/-- Whether the source of a route is held until its cleanup is done. -/
inductive FinalizerState
  | managed
  | released
deriving DecidableEq, Inhabited, Repr

namespace FinalizerState

def word : FinalizerState → String
  | .managed => "Managed"
  | .released => "Released"

def all : List FinalizerState := [.managed, .released]

end FinalizerState

/-- One route in its normal form. -/
structure Descriptor where
  reference : Reference
  group : GroupName
  /-- Host behind the route; empty until it is provisioned. -/
  originHost : String
  paths : List PathSpec
  functions : List FunctionAssociation
  originRequestPolicy : Option String
  cachePolicy : Option String
  /-- Seconds the origin may take to respond. -/
  responseTimeout : Option Nat
  alternateDomains : List String
  webAcl : Option String
  tags : SortedMap String String
  beingRemoved : Bool
  provisioned : Bool
  finalizer : FinalizerState
deriving DecidableEq, Inhabited

namespace Descriptor

/-- A route without paths or options, not provisioned. -/
def bare (reference : Reference) (group : GroupName) : Descriptor where
  reference := reference
  group := group
  originHost := ""
  paths := []
  functions := []
  originRequestPolicy := none
  cachePolicy := none
  responseTimeout := none
  alternateDomains := []
  webAcl := none
  tags := .empty
  beingRemoved := false
  provisioned := false
  finalizer := .released

/-- The route behind a host, if one is known. -/
def behind (d : Descriptor) : Option String → Descriptor
  | some host => { d with originHost := host, provisioned := true }
  | none => d

/-- Whether a descriptor shapes the distribution of a group. -/
def isMemberOf (d : Descriptor) (group : GroupName) : Bool :=
  d.group == group && d.provisioned && !d.beingRemoved

/-! ## Refusals -/

/-- Whether a character of a path stands for other characters. -/
def isWildcard (c : Char) : Bool := c == '*' || c == '?'

/-- The first complaint about paths, numbered from a given index. -/
def pathRefusal? (index : Nat) : List PathSpec → Option Refusal
  | [] => none
  | p :: rest =>
    if !Text.startsWith p.path "/" then some (.pathNotRooted index p.path)
    else if p.kind = .exact ∧ p.path.toList.any isWildcard then
      some (.wildcardInExactPath index p.path)
    else pathRefusal? (index + 1) rest

/-- The first complaint about alternate domains. -/
def domainRefusal? (domains : List String) : Option Refusal :=
  (domains.find? fun domain => !Hostname.isValid domain).map .hostnameMalformed

/-- The complaint about a response timeout. -/
def timeoutRefusal? : Option Nat → Option Refusal
  | none => none
  | some seconds =>
    if seconds = 0 ∨ maxResponseTimeout < seconds then some (.timeoutOutOfRange seconds)
    else none

/-- The first complaint about functions, given the moments already taken. -/
def functionRefusal? (taken : List FunctionEvent) : List FunctionAssociation → Option Refusal
  | [] => none
  | f :: rest =>
    if f.kind = .viewer ∧ f.event.isViewer = false then
      some (.viewerFunctionElsewhere f.arn f.event)
    else if f.event ∈ taken then some (.eventTaken f.event)
    else functionRefusal? (f.event :: taken) rest

/-- The first complaint about a descriptor. A route that is being removed
contributes nothing and only has to name its group. -/
def refusal? (d : Descriptor) : Option Refusal :=
  if d.group.isEmpty then some (.groupMissing d.reference)
  else if d.beingRemoved then none
  else if d.provisioned && (Text.trim d.originHost).isEmpty then some (.hostMissing d.reference)
  else if d.paths.isEmpty then some (.pathsMissing d.reference)
  else
    pathRefusal? 0 d.paths
      <|> domainRefusal? d.alternateDomains
      <|> timeoutRefusal? d.responseTimeout
      <|> (if d.originRequestPolicy.isSome && d.cachePolicy.isNone then
            some .requestPolicyAlone
          else none)
      <|> functionRefusal? [] d.functions

/-- Accepts a well-formed descriptor and refuses any other with the first
complaint. -/
def validate (d : Descriptor) : Outcome Unit :=
  match d.refusal? with
  | some refusal => .error (.refused refusal)
  | none => .ok ()

end Descriptor

end RouteConvergence
