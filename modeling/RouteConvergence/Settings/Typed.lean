/-
RouteConvergence.Settings.Typed — settings out of a layer.

A layer is forgiving: a truth value may be given as a number or a word,
and a text as a number or a truth value, which is then written out. A
section may be given as a list of its settings in order. What is missing
has its default, unknown settings do not count, and null is no value.
-/
import RouteConvergence.Settings
import RouteConvergence.Settings.Layer

namespace RouteConvergence

open Decimal (Binary64)

/-! ## Values -/

/-- The words for yes and no. -/
def truthWord? (word : String) : Option Bool :=
  if word ∈ ["1", "true", "on", "yes"] then some true
  else if word ∈ ["0", "false", "off", "no"] then some false
  else none

namespace LayerValue

/-- A value as a truth value: any number but zero is true. -/
def asBool? : LayerValue → Option Bool
  | bool b => some b
  | whole n => some (n != 0)
  | decimal x => some (!x.isZero)
  | text s => truthWord? (Text.lowerKelvin s)
  | _ => none

/-- A value as a text. -/
def asText? : LayerValue → Option String
  | text s => some s
  | bool b => some (if b then "true" else "false")
  | whole n => some (Text.intText n)
  | decimal x => some x.text
  | _ => none

/-- A table of texts. -/
def asTextMap? : LayerValue → Option (SortedMap String String)
  | table fields =>
    (fields.mapM fun (f : String × LayerValue) => f.2.asText?.map fun s => (f.1, s)).map .ofList
  | _ => none

/-- The settings of a section by name; in a list they come in the order of
their names. -/
def section? (names : List String) : LayerValue → Option (String → Option LayerValue)
  | table fields => some fun name => fields.lookup name
  | list items => some fun name => items[names.idxOf name]?
  | _ => none

end LayerValue

/-- The value of a setting, or its default if it is not given. -/
def settingOr {α : Type} (fallback : α) (read : LayerValue → Option α) :
    Option LayerValue → Option α
  | some value => read value
  | none => some fallback

/-! ## Sections -/

/-- Reads the TLS settings. -/
def TlsSettings.ofLayer? (value : LayerValue) : Option TlsSettings := do
  let given ← value.section? ["enabled", "security_policy", "ssl_support_method"]
  let default := Settings.default.tls
  return {
    enabled := ← settingOr default.enabled (·.asBool?) (given "enabled")
    securityPolicy := ←
      settingOr default.securityPolicy (·.asText?) (given "security_policy")
    supportMethod := ←
      settingOr default.supportMethod (·.asText?) (given "ssl_support_method") }

/-- Reads the log settings. -/
def LogSettings.ofLayer? (value : LayerValue) : Option LogSettings := do
  let given ← value.section? ["enabled", "bucket", "prefix"]
  let default := Settings.default.logging
  return {
    enabled := ← settingOr default.enabled (·.asBool?) (given "enabled")
    bucket := ← settingOr default.bucket (·.asText?) (given "bucket")
    keyStart := ← settingOr default.keyStart (·.asText?) (given "prefix") }

/-- Reads the alias settings. -/
def AliasSettings.ofLayer? (value : LayerValue) : Option AliasSettings := do
  let given ← value.section? ["enabled", "ownership_token"]
  let default := Settings.default.aliasing
  return {
    enabled := ← settingOr default.enabled (·.asBool?) (given "enabled")
    token := ← settingOr default.token (·.asText?) (given "ownership_token") }

/-- Reads all settings from a layer. -/
def Settings.ofLayer? (layer : List (String × LayerValue)) : Option Settings := do
  let given := fun name => layer.lookup name
  return {
    tls := ← settingOr default.tls TlsSettings.ofLayer? (given "tls")
    logging := ← settingOr default.logging LogSettings.ofLayer? (given "logging")
    ipv6 := ← settingOr default.ipv6 (·.asBool?) (given "ipv6_enabled")
    customTags := ← settingOr default.customTags (·.asTextMap?) (given "custom_tags")
    description := ← settingOr default.description (·.asText?) (given "description_template")
    defaultHost := ← settingOr default.defaultHost (·.asText?) (given "default_origin_host")
    aliasing := ← settingOr default.aliasing AliasSettings.ofLayer? (given "alias")
    creation := ← settingOr default.creation (·.asBool?) (given "creation_enabled")
    deletion := ← settingOr default.deletion (·.asBool?) (given "deletion_enabled")
    managedTagKey := ← settingOr default.managedTagKey (·.asText?) (given "managed_tag_key")
    groupTagKey := ← settingOr default.groupTagKey (·.asText?) (given "group_tag_key") }

end RouteConvergence
