/-
RouteConvergence.Source.Annotated — routes configured by annotations.

An annotated object has paths and a load balancer of its own; the options
of its route are texts under the keys of `AnnotationKey`. Blanks around
an annotation do not count, and a blank one counts as missing. Lists are
separated by commas, tags are `key=value`, and functions are a JSON list.
-/
import RouteConvergence.Json.Reader
import RouteConvergence.Source.Manifest

namespace RouteConvergence

open Data (Tree Document)

/-- How the path of an object's rule is meant. -/
inductive PathType
  | exact
  | subtree
  /-- Left to the implementation; taken for a subtree. -/
  | unspecified
deriving DecidableEq, Inhabited, Repr

namespace PathType

def word : PathType → String
  | .exact => "Exact"
  | .subtree => "Prefix"
  | .unspecified => "ImplementationSpecific"

def all : List PathType := [.exact, .subtree, .unspecified]

/-- How a path of the type is meant. -/
def matchKind : PathType → MatchKind
  | .exact => .exact
  | .subtree | .unspecified => .subtree

end PathType

/-- The path of an object's rule. -/
structure RulePath where
  path : String
  type : PathType
deriving DecidableEq, Inhabited, Repr

/-- An object with annotations. -/
structure AnnotatedRoute where
  scope : String
  name : String
  annotations : SortedMap String String
  paths : List RulePath
  /-- Missing until the load balancer is provisioned. -/
  loadBalancer : Option String
  deletionRequested : Bool
  finalizers : List String
deriving DecidableEq, Inhabited

namespace AnnotatedRoute

/-! ## Options -/

/-- The identity of the object's route. -/
def reference (r : AnnotatedRoute) : Reference := ⟨r.scope, r.name⟩

/-- The text given for an option, if it is not blank. -/
def option? (r : AnnotatedRoute) (key : AnnotationKey) : Option String :=
  (r.annotations.get? key.text).bind trimmed?

/-- The items of a list separated by commas, without blank ones. -/
def listItems : Option String → List String
  | none => []
  | some raw => (Text.splitOn ',' raw).filterMap trimmed?

/-- The tags of some pieces, each cut at its first equals sign; later ones
override earlier ones. -/
def tagsOf (route : Reference) (tags : SortedMap String String) :
    List String → Except Refusal (SortedMap String String)
  | [] => .ok tags
  | piece :: rest =>
    match Text.splitOnce '=' piece with
    | none => .error (.tagWithoutValue route piece)
    | some (key, value) => tagsOf route (tags.insert (Text.trim key) (Text.trim value)) rest

/-- The timeout given for a route. -/
def timeoutOf (route : Reference) : Option String → Except Refusal (Option Nat)
  | none => .ok none
  | some raw =>
    match (Text.readSignedNat? raw.toList).filter (· ≤ Text.maxSeconds) with
    | some seconds => .ok (some seconds)
    | none => .error (.timeoutUnreadable route raw)

/-- The function that runs at the viewer's side, if one is given. -/
def viewerFunction : Option String → List FunctionAssociation
  | none => []
  | some arn => [⟨.viewer, .viewerRequest, arn, false⟩]

/-- The functions that run at the edge, given as a JSON list. -/
def edgeFunctionsOf (route : Reference) :
    Option String → Except Refusal (List FunctionAssociation)
  | none => .ok []
  | some raw =>
    match (Json.read? raw).bind (Tree.asList ManifestFunction.ofTree?) with
    | some functions => .ok (Manifest.associations .edge functions)
    | none => .error (.edgeFunctionsUnreadable route)

/-! ## Normal form -/

/-- The normal form of an object in a known group. -/
def normalizeIn (r : AnnotatedRoute) (group : GroupName) : Except Refusal Descriptor := do
  let timeout ← timeoutOf r.reference (r.option? .originResponseTimeout)
  let edgeFunctions ← edgeFunctionsOf r.reference (r.option? .edgeFunctions)
  let tags ← tagsOf r.reference .empty (listItems (r.option? .tags))
  let start := (Descriptor.bare r.reference group).behind (r.loadBalancer.bind trimmed?)
  return { start with
    paths := r.paths.map fun rule => ⟨rule.path, rule.type.matchKind⟩
    functions := viewerFunction (r.option? .viewerFunction) ++ edgeFunctions
    originRequestPolicy := r.option? .originRequestPolicy
    cachePolicy := r.option? .cachePolicy
    responseTimeout := timeout
    alternateDomains := listItems (r.option? .alternateDomains)
    webAcl := r.option? .webAcl
    tags := tags
    beingRemoved := r.deletionRequested
    finalizer := if holdFinalizer ∈ r.finalizers then .managed else .released }

/-- The normal form of an object, or the first complaint about its
annotations. -/
def normalize (r : AnnotatedRoute) : Outcome Descriptor :=
  if r.annotations.contains AnnotationKey.retiredEdgeFunction.text then
    .error (.refused (.annotationRetired r.reference))
  else
    match r.option? .group with
    | none => .error (.refused (.groupAnnotationMissing r.reference))
    | some group => (r.normalizeIn group).mapError .refused

end AnnotatedRoute

/-! ## Documents -/

namespace RulePath

def fieldNames : List String := ["path", "pathType"]

def document (p : RulePath) : Document :=
  .record [("path", .text p.path), ("pathType", .text p.type.word)]

/-- Reads a path; one without a type is a subtree. -/
def ofTree? (t : Tree) : Option RulePath := do
  let slot ← t.slots fieldNames false
  return {
    path := ← (slot "path").required Tree.asText
    type := ← (slot "pathType").orElse .subtree (Tree.asWord PathType.all PathType.word) }

end RulePath

namespace AnnotatedRoute

def fieldNames : List String :=
  ["namespace", "name", "annotations", "paths", "loadBalancerHostname", "deletionRequested",
   "finalizers"]

def document (r : AnnotatedRoute) : Document :=
  .record [
    ("namespace", .text r.scope),
    ("name", .text r.name),
    ("annotations", textMapDocument r.annotations),
    ("paths", .list (r.paths.map RulePath.document)),
    ("loadBalancerHostname", .optionalText r.loadBalancer),
    ("deletionRequested", .bool r.deletionRequested),
    ("finalizers", .texts r.finalizers)]

/-- Reads an object; fields beyond its own do not matter. -/
def ofTree? (t : Tree) : Option AnnotatedRoute := do
  let slot ← t.slots fieldNames false
  return {
    scope := ← (slot "namespace").orElse defaultScope Tree.asText
    name := ← (slot "name").required Tree.asText
    annotations := ← (slot "annotations").orElse .empty Tree.asTextMap
    paths := ← (slot "paths").orElse [] (Tree.asList RulePath.ofTree?)
    loadBalancer := ← (slot "loadBalancerHostname").optionalOrAbsent Tree.asText
    deletionRequested := ← (slot "deletionRequested").orElse false Tree.asBool
    finalizers := ← (slot "finalizers").orElse [] (Tree.asList Tree.asText) }

end AnnotatedRoute

end RouteConvergence
