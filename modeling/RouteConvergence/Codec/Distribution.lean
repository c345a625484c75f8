/-
RouteConvergence.Codec.Distribution — certificates and models as
documents.
-/
import RouteConvergence.Certificate
import RouteConvergence.Codec.Route
import RouteConvergence.Distribution
import RouteConvergence.Instant.Rfc3339

namespace RouteConvergence

open Data (Tree Document)

/-! ## Moments -/

def Instant.document (t : Instant) : Document := .text t.text

/-- What a moment that may be missing is written as. -/
def Instant.optionalDocument : Option Instant → Document
  | some t => t.document
  | none => .null

def Instant.ofTree? (t : Tree) : Option Instant := t.asText.bind Instant.ofText?

/-! ## Certificates -/

namespace Certificate

def fieldNames : List String :=
  ["arn", "domain_name", "subject_alternative_names", "status", "not_after"]

def document (c : Certificate) : Document :=
  .record [
    ("arn", .text c.arn),
    ("domain_name", .text c.domainName),
    ("subject_alternative_names", .texts c.alternativeNames),
    ("status", .text c.status.word),
    ("not_after", Instant.optionalDocument c.notAfter)]

def ofTree? (t : Tree) : Option Certificate := do
  let slot ← t.slots fieldNames false
  return {
    arn := ← (slot "arn").required Tree.asText
    domainName := ← (slot "domain_name").required Tree.asText
    alternativeNames := ← (slot "subject_alternative_names").required (Tree.asList Tree.asText)
    status :=
      ← (slot "status").required (Tree.asWord CertificateStatus.all CertificateStatus.word)
    notAfter := ← (slot "not_after").optional Instant.ofTree? }

end Certificate

/-! ## Identities -/

namespace Identity

def fieldNames : List String := ["id", "arn", "address"]

def document (i : Identity) : Document :=
  .record [("id", .text i.id), ("arn", .text i.arn), ("address", .optionalText i.address)]

def ofTree? (t : Tree) : Option Identity := do
  let slot ← t.slots fieldNames false
  return {
    id := ← (slot "id").required Tree.asText
    arn := ← (slot "arn").required Tree.asText
    address := ← (slot "address").optional Tree.asText }

end Identity

/-! ## Behaviours and origins -/

namespace Behavior

def fieldNames : List String :=
  ["path_pattern", "target_origin", "function_associations", "origin_request_policy_id",
   "cache_policy_id"]

def document (b : Behavior) : Document :=
  .record [
    ("path_pattern", .text b.pattern),
    ("target_origin", .text b.target),
    ("function_associations", .list (b.functions.map FunctionAssociation.document)),
    ("origin_request_policy_id", .optionalText b.originRequestPolicy),
    ("cache_policy_id", .optionalText b.cachePolicy)]

def ofTree? (t : Tree) : Option Behavior := do
  let slot ← t.slots fieldNames false
  return {
    pattern := ← (slot "path_pattern").required Tree.asText
    target := ← (slot "target_origin").required Tree.asText
    functions :=
      ← (slot "function_associations").required (Tree.asList FunctionAssociation.ofTree?)
    originRequestPolicy := ← (slot "origin_request_policy_id").optional Tree.asText
    cachePolicy := ← (slot "cache_policy_id").optional Tree.asText }

end Behavior

namespace Origin

def fieldNames : List String := ["host", "behaviors", "response_timeout"]

def document (o : Origin) : Document :=
  .record [
    ("host", .text o.host),
    ("behaviors", .list (o.behaviors.map Behavior.document)),
    ("response_timeout", .optionalNat o.responseTimeout)]

def ofTree? (t : Tree) : Option Origin := do
  let slot ← t.slots fieldNames false
  return {
    host := ← (slot "host").required Tree.asText
    behaviors := ← (slot "behaviors").required (Tree.asList Behavior.ofTree?)
    responseTimeout := ← (slot "response_timeout").optional Tree.asSeconds }

end Origin

/-! ## Sections of a model -/

namespace TlsSection

def fieldNames : List String := ["certificate_arn", "security_policy", "ssl_support_method"]

def document (s : TlsSection) : Document :=
  .record [
    ("certificate_arn", .text s.certificateArn),
    ("security_policy", .text s.securityPolicy),
    ("ssl_support_method", .text s.supportMethod)]

def ofTree? (t : Tree) : Option TlsSection := do
  let slot ← t.slots fieldNames false
  return {
    certificateArn := ← (slot "certificate_arn").required Tree.asText
    securityPolicy := ← (slot "security_policy").required Tree.asText
    supportMethod := ← (slot "ssl_support_method").required Tree.asText }

end TlsSection

namespace LogTarget

def fieldNames : List String := ["bucket", "prefix"]

def document (l : LogTarget) : Document :=
  .record [("bucket", .text l.bucket), ("prefix", .text l.keyStart)]

def ofTree? (t : Tree) : Option LogTarget := do
  let slot ← t.slots fieldNames false
  return {
    bucket := ← (slot "bucket").required Tree.asText
    keyStart := ← (slot "prefix").required Tree.asText }

end LogTarget

/-! ## Models -/

namespace Model

def fieldNames : List String :=
  ["group", "description", "default_origin", "origins", "alternate_domains", "tls",
   "web_acl_id", "tags", "logging", "ipv6_enabled", "identity"]

/-- What a value that may be missing is written as. -/
def optionalDocument {α : Type} (write : α → Document) : Option α → Document
  | some a => write a
  | none => .null

def document (m : Model) : Document :=
  .record [
    ("group", .text m.group),
    ("description", .text m.description),
    ("default_origin", m.defaultOrigin.document),
    ("origins", .list (m.origins.map Origin.document)),
    ("alternate_domains", .texts m.alternateDomains),
    ("tls", optionalDocument TlsSection.document m.tls),
    ("web_acl_id", .optionalText m.webAcl),
    ("tags", textMapDocument m.tags),
    ("logging", optionalDocument LogTarget.document m.logging),
    ("ipv6_enabled", .bool m.ipv6),
    ("identity", optionalDocument Identity.document m.identity)]

def ofTree? (t : Tree) : Option Model := do
  let slot ← t.slots fieldNames false
  return {
    group := ← (slot "group").required Tree.asText
    description := ← (slot "description").required Tree.asText
    defaultOrigin := ← (slot "default_origin").required Origin.ofTree?
    origins := ← (slot "origins").required (Tree.asList Origin.ofTree?)
    alternateDomains := ← (slot "alternate_domains").required (Tree.asList Tree.asText)
    tls := ← (slot "tls").optional TlsSection.ofTree?
    webAcl := ← (slot "web_acl_id").optional Tree.asText
    tags := ← (slot "tags").required Tree.asTextMap
    logging := ← (slot "logging").optional LogTarget.ofTree?
    ipv6 := ← (slot "ipv6_enabled").required Tree.asBool
    identity := ← (slot "identity").optional Identity.ofTree? }

end Model

end RouteConvergence
