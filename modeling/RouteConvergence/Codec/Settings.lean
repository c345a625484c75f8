/-
RouteConvergence.Codec.Settings — settings as documents.

Every setting may be missing, on its own or with its whole section, and
then has its default.
-/
import RouteConvergence.Codec.Route
import RouteConvergence.Settings

namespace RouteConvergence

open Data (Tree Document)

namespace TlsSettings

def fieldNames : List String := ["enabled", "security_policy", "ssl_support_method"]

def document (s : TlsSettings) : Document :=
  .record [
    ("enabled", .bool s.enabled),
    ("security_policy", .text s.securityPolicy),
    ("ssl_support_method", .text s.supportMethod)]

def ofTree? (t : Tree) : Option TlsSettings := do
  let slot ← t.slots fieldNames false
  let default := Settings.default.tls
  return {
    enabled := ← (slot "enabled").orElse default.enabled Tree.asBool
    securityPolicy := ← (slot "security_policy").orElse default.securityPolicy Tree.asText
    supportMethod := ← (slot "ssl_support_method").orElse default.supportMethod Tree.asText }

end TlsSettings

namespace LogSettings

def fieldNames : List String := ["enabled", "bucket", "prefix"]

def document (s : LogSettings) : Document :=
  .record [
    ("enabled", .bool s.enabled),
    ("bucket", .text s.bucket),
    ("prefix", .text s.keyStart)]

def ofTree? (t : Tree) : Option LogSettings := do
  let slot ← t.slots fieldNames false
  let default := Settings.default.logging
  return {
    enabled := ← (slot "enabled").orElse default.enabled Tree.asBool
    bucket := ← (slot "bucket").orElse default.bucket Tree.asText
    keyStart := ← (slot "prefix").orElse default.keyStart Tree.asText }

end LogSettings

namespace AliasSettings

def fieldNames : List String := ["enabled", "ownership_token"]

def document (s : AliasSettings) : Document :=
  .record [("enabled", .bool s.enabled), ("ownership_token", .text s.token)]

def ofTree? (t : Tree) : Option AliasSettings := do
  let slot ← t.slots fieldNames false
  let default := Settings.default.aliasing
  return {
    enabled := ← (slot "enabled").orElse default.enabled Tree.asBool
    token := ← (slot "ownership_token").orElse default.token Tree.asText }

end AliasSettings

namespace Settings

def fieldNames : List String :=
  ["tls", "logging", "ipv6_enabled", "custom_tags", "description_template",
   "default_origin_host", "alias", "creation_enabled", "deletion_enabled",
   "managed_tag_key", "group_tag_key"]

def document (s : Settings) : Document :=
  .record [
    ("tls", s.tls.document),
    ("logging", s.logging.document),
    ("ipv6_enabled", .bool s.ipv6),
    ("custom_tags", textMapDocument s.customTags),
    ("description_template", .text s.description),
    ("default_origin_host", .text s.defaultHost),
    ("alias", s.aliasing.document),
    ("creation_enabled", .bool s.creation),
    ("deletion_enabled", .bool s.deletion),
    ("managed_tag_key", .text s.managedTagKey),
    ("group_tag_key", .text s.groupTagKey)]

def ofTree? (t : Tree) : Option Settings := do
  let slot ← t.slots fieldNames false
  return {
    tls := ← (slot "tls").orElse default.tls TlsSettings.ofTree?
    logging := ← (slot "logging").orElse default.logging LogSettings.ofTree?
    ipv6 := ← (slot "ipv6_enabled").orElse default.ipv6 Tree.asBool
    customTags := ← (slot "custom_tags").orElse default.customTags Tree.asTextMap
    description := ← (slot "description_template").orElse default.description Tree.asText
    defaultHost := ← (slot "default_origin_host").orElse default.defaultHost Tree.asText
    aliasing := ← (slot "alias").orElse default.aliasing AliasSettings.ofTree?
    creation := ← (slot "creation_enabled").orElse default.creation Tree.asBool
    deletion := ← (slot "deletion_enabled").orElse default.deletion Tree.asBool
    managedTagKey := ← (slot "managed_tag_key").orElse default.managedTagKey Tree.asText
    groupTagKey := ← (slot "group_tag_key").orElse default.groupTagKey Tree.asText }

end Settings

end RouteConvergence
