/-
RouteConvergence.Codec.Route — references and descriptors as documents.

For every type there are two functions: `document`, what a value is
written as, and `ofTree?`, the value a document stands for. The names of
fields are listed once, in the order in which they are written.
-/
import RouteConvergence.Data.Slots
import RouteConvergence.Descriptor

namespace RouteConvergence

open Data (Tree Document)

/-! ## References -/

def Reference.document (r : Reference) : Document := .text r.text

def Reference.ofTree? (t : Tree) : Option Reference := t.asText.bind Reference.ofText?

/-! ## Functions -/

namespace FunctionAssociation

def fieldNames : List String := ["kind", "event_type", "arn", "include_body"]

def document (f : FunctionAssociation) : Document :=
  .record [
    ("kind", .text f.kind.word),
    ("event_type", .text f.event.word),
    ("arn", .text f.arn),
    ("include_body", .bool f.includeBody)]

def ofTree? (t : Tree) : Option FunctionAssociation := do
  let slot ← t.slots fieldNames false
  return {
    kind := ← (slot "kind").required (Tree.asWord FunctionKind.all FunctionKind.word)
    event := ← (slot "event_type").required (Tree.asWord FunctionEvent.all FunctionEvent.word)
    arn := ← (slot "arn").required Tree.asText
    includeBody := ← (slot "include_body").orElse false Tree.asBool }

end FunctionAssociation

/-! ## Paths -/

namespace PathSpec

def fieldNames : List String := ["pattern", "match_kind"]

def document (p : PathSpec) : Document :=
  .record [("pattern", .text p.path), ("match_kind", .text p.kind.word)]

def ofTree? (t : Tree) : Option PathSpec := do
  let slot ← t.slots fieldNames false
  return {
    path := ← (slot "pattern").required Tree.asText
    kind := ← (slot "match_kind").required (Tree.asWord MatchKind.all MatchKind.word) }

end PathSpec

/-- What a map from texts to texts is written as. -/
def textMapDocument (m : SortedMap String String) : Document :=
  .record (m.entries.map fun e => (e.1, .text e.2))

/-! ## Descriptors -/

namespace Descriptor

def fieldNames : List String :=
  ["reference", "group", "origin_host", "paths", "function_associations",
   "origin_request_policy_id", "cache_policy_id", "origin_response_timeout",
   "alternate_domains", "web_acl_id", "tags", "being_removed", "provisioned", "finalizer"]

def document (d : Descriptor) : Document :=
  .record [
    ("reference", d.reference.document),
    ("group", .text d.group),
    ("origin_host", .text d.originHost),
    ("paths", .list (d.paths.map PathSpec.document)),
    ("function_associations", .list (d.functions.map FunctionAssociation.document)),
    ("origin_request_policy_id", .optionalText d.originRequestPolicy),
    ("cache_policy_id", .optionalText d.cachePolicy),
    ("origin_response_timeout", .optionalNat d.responseTimeout),
    ("alternate_domains", .texts d.alternateDomains),
    ("web_acl_id", .optionalText d.webAcl),
    ("tags", textMapDocument d.tags),
    ("being_removed", .bool d.beingRemoved),
    ("provisioned", .bool d.provisioned),
    ("finalizer", .text d.finalizer.word)]

def ofTree? (t : Tree) : Option Descriptor := do
  let slot ← t.slots fieldNames false
  return {
    reference := ← (slot "reference").required Reference.ofTree?
    group := ← (slot "group").required Tree.asText
    originHost := ← (slot "origin_host").required Tree.asText
    paths := ← (slot "paths").required (Tree.asList PathSpec.ofTree?)
    functions :=
      ← (slot "function_associations").required (Tree.asList FunctionAssociation.ofTree?)
    originRequestPolicy := ← (slot "origin_request_policy_id").optional Tree.asText
    cachePolicy := ← (slot "cache_policy_id").optional Tree.asText
    responseTimeout := ← (slot "origin_response_timeout").optional Tree.asSeconds
    alternateDomains := ← (slot "alternate_domains").required (Tree.asList Tree.asText)
    webAcl := ← (slot "web_acl_id").optional Tree.asText
    tags := ← (slot "tags").required Tree.asTextMap
    beingRemoved := ← (slot "being_removed").required Tree.asBool
    provisioned := ← (slot "provisioned").required Tree.asBool
    finalizer :=
      ← (slot "finalizer").required (Tree.asWord FinalizerState.all FinalizerState.word) }

end Descriptor

end RouteConvergence
