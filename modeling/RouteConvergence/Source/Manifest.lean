/-
RouteConvergence.Source.Manifest — routes spelled out field by field.

A manifest names every option of a route directly. It is brought to the
normal form by trimming the group and the host and by taking a blank host
or firewall id for a missing one; nothing in it can be refused at this
stage.
-/
import RouteConvergence.Codec.Route

namespace RouteConvergence

open Data (Tree Document)

/-- Where a route lives if its source does not say. -/
def defaultScope : String := "default"

/-- A path of a manifest. -/
structure ManifestPath where
  path : String
  kind : MatchKind
deriving DecidableEq, Inhabited, Repr

/-- A function of a manifest; the list it stands in says where it runs. -/
structure ManifestFunction where
  event : FunctionEvent
  arn : String
  includeBody : Bool
deriving DecidableEq, Inhabited, Repr

/-- A route spelled out field by field. -/
structure Manifest where
  scope : String
  name : String
  group : String
  /-- Missing until the origin is provisioned. -/
  originHost : Option String
  paths : List ManifestPath
  viewerFunctions : List ManifestFunction
  edgeFunctions : List ManifestFunction
  originRequestPolicy : Option String
  cachePolicy : Option String
  /-- Seconds. -/
  responseTimeout : Option Nat
  alternateDomains : List String
  webAcl : Option String
  tags : SortedMap String String
  removed : Bool
  finalizer : FinalizerState
deriving DecidableEq, Inhabited

/-- The text without blanks at its ends, or none if nothing is left. -/
def trimmed? (s : String) : Option String :=
  let t := Text.trim s
  if t.isEmpty then none else some t

namespace Manifest

/-- The functions of a list of a manifest. -/
def associations (kind : FunctionKind) (functions : List ManifestFunction) :
    List FunctionAssociation :=
  functions.map fun f => ⟨kind, f.event, f.arn, f.includeBody⟩

/-- The normal form of a manifest. -/
def normalize (m : Manifest) : Descriptor :=
  let start := (Descriptor.bare ⟨m.scope, m.name⟩ (Text.trim m.group)).behind
    (m.originHost.bind trimmed?)
  { start with
    paths := m.paths.map fun p => ⟨p.path, p.kind⟩
    functions := associations .viewer m.viewerFunctions ++ associations .edge m.edgeFunctions
    originRequestPolicy := m.originRequestPolicy
    cachePolicy := m.cachePolicy
    responseTimeout := m.responseTimeout
    alternateDomains := m.alternateDomains
    webAcl := m.webAcl.filter fun acl => !(Text.trim acl).isEmpty
    tags := m.tags
    beingRemoved := m.removed
    finalizer := m.finalizer }

end Manifest

/-! ## Documents -/

namespace ManifestPath

def fieldNames : List String := ["path", "matchKind"]

def document (p : ManifestPath) : Document :=
  .record [("path", .text p.path), ("matchKind", .text p.kind.word)]

/-- Reads a path; one that does not say how it is meant is a subtree. -/
def ofTree? (t : Tree) : Option ManifestPath := do
  let slot ← t.slots fieldNames false
  return {
    path := ← (slot "path").required Tree.asText
    kind := ← (slot "matchKind").orElse .subtree (Tree.asWord MatchKind.all MatchKind.word) }

end ManifestPath

namespace ManifestFunction

def fieldNames : List String := ["eventType", "arn", "includeBody"]

def document (f : ManifestFunction) : Document :=
  .record [
    ("eventType", .text f.event.word),
    ("arn", .text f.arn),
    ("includeBody", .bool f.includeBody)]

def ofTree? (t : Tree) : Option ManifestFunction := do
  let slot ← t.slots fieldNames false
  return {
    event := ← (slot "eventType").required (Tree.asWord FunctionEvent.all FunctionEvent.word)
    arn := ← (slot "arn").required Tree.asText
    includeBody := ← (slot "includeBody").orElse false Tree.asBool }

end ManifestFunction

namespace Manifest

def fieldNames : List String :=
  ["namespace", "name", "group", "originHost", "paths", "viewerFunctions", "edgeFunctions",
   "originRequestPolicyId", "cachePolicyId", "originResponseTimeout", "alternateDomains",
   "webAclId", "tags", "removed", "finalizer"]

def document (m : Manifest) : Document :=
  .record [
    ("namespace", .text m.scope),
    ("name", .text m.name),
    ("group", .text m.group),
    ("originHost", .optionalText m.originHost),
    ("paths", .list (m.paths.map ManifestPath.document)),
    ("viewerFunctions", .list (m.viewerFunctions.map ManifestFunction.document)),
    ("edgeFunctions", .list (m.edgeFunctions.map ManifestFunction.document)),
    ("originRequestPolicyId", .optionalText m.originRequestPolicy),
    ("cachePolicyId", .optionalText m.cachePolicy),
    ("originResponseTimeout", .optionalNat m.responseTimeout),
    ("alternateDomains", .texts m.alternateDomains),
    ("webAclId", .optionalText m.webAcl),
    ("tags", textMapDocument m.tags),
    ("removed", .bool m.removed),
    ("finalizer", .text m.finalizer.word)]

/-- Reads a manifest; it has no fields beyond its own. -/
def ofTree? (t : Tree) : Option Manifest := do
  let slot ← t.slots fieldNames true
  return {
    scope := ← (slot "namespace").orElse defaultScope Tree.asText
    name := ← (slot "name").required Tree.asText
    group := ← (slot "group").required Tree.asText
    originHost := ← (slot "originHost").optionalOrAbsent Tree.asText
    paths := ← (slot "paths").orElse [] (Tree.asList ManifestPath.ofTree?)
    viewerFunctions :=
      ← (slot "viewerFunctions").orElse [] (Tree.asList ManifestFunction.ofTree?)
    edgeFunctions := ← (slot "edgeFunctions").orElse [] (Tree.asList ManifestFunction.ofTree?)
    originRequestPolicy := ← (slot "originRequestPolicyId").optionalOrAbsent Tree.asText
    cachePolicy := ← (slot "cachePolicyId").optionalOrAbsent Tree.asText
    responseTimeout := ← (slot "originResponseTimeout").optionalOrAbsent Tree.asSeconds
    alternateDomains := ← (slot "alternateDomains").orElse [] (Tree.asList Tree.asText)
    webAcl := ← (slot "webAclId").optionalOrAbsent Tree.asText
    tags := ← (slot "tags").orElse .empty Tree.asTextMap
    removed := ← (slot "removed").orElse false Tree.asBool
    finalizer := ← (slot "finalizer").orElse .released
      (Tree.asWord FinalizerState.all FinalizerState.word) }

end Manifest

end RouteConvergence
