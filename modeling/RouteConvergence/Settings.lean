/-
RouteConvergence.Settings — the settings of the engine.

Settings are one explicit value, handed to whatever needs it. Two texts
among them are templates in which the name of a group is filled in.
`Settings.validate` raises all complaints about empty settings at once,
and only then the first of the rules that join two settings.
-/
import RouteConvergence.Failure
import RouteConvergence.Text.Blank

namespace RouteConvergence

/-- How viewers are served over TLS. -/
structure TlsSettings where
  enabled : Bool
  securityPolicy : String
  supportMethod : String
deriving DecidableEq, Inhabited, Repr

/-- Where access logs go. -/
structure LogSettings where
  enabled : Bool
  bucket : String
  /-- Template of the start of a log's key. -/
  keyStart : String
deriving DecidableEq, Inhabited, Repr

/-- How names are claimed. -/
structure AliasSettings where
  enabled : Bool
  /-- Value of the text records by which names are claimed. -/
  token : String
deriving DecidableEq, Inhabited, Repr

/-- The settings of the engine. -/
structure Settings where
  tls : TlsSettings
  logging : LogSettings
  ipv6 : Bool
  /-- Tags that override all others. -/
  customTags : SortedMap String String
  /-- Template of a distribution's description. -/
  description : String
  /-- Host of the origin that catches what no behaviour matches. -/
  defaultHost : String
  aliasing : AliasSettings
  /-- Whether a group without a distribution may get one. -/
  creation : Bool
  /-- Whether the distribution of an empty group may be deleted. -/
  deletion : Bool
  managedTagKey : String
  groupTagKey : String
deriving DecidableEq, Inhabited

namespace Settings

/-- The settings where nothing else is given. -/
def default : Settings where
  tls := ⟨false, "TLSv1.2_2021", "sni-only"⟩
  logging := ⟨false, "", ""⟩
  ipv6 := true
  customTags := .empty
  description := "Serve contents for \x7bgroup\x7d group."
  defaultHost := "default.origin.invalid"
  aliasing := ⟨false, "heritage=edgeplane"⟩
  creation := true
  deletion := true
  managedTagKey := "edgeplane.io/managed-by"
  groupTagKey := "edgeplane.io/group"

/-! ## Templates -/

/-- The mark in a template that stands for the name of a group. -/
def groupMark : String := "\x7bgroup\x7d"

/-- The description of a group's distribution. -/
def descriptionFor (s : Settings) (group : GroupName) : String :=
  Text.fillIn groupMark group s.description

/-- The start of the keys of a group's access logs. -/
def logStartFor (s : Settings) (group : GroupName) : String :=
  Text.fillIn groupMark group s.logging.keyStart

/-! ## Validity -/

/-- A complaint if a setting is empty. -/
def emptyComplaint (name complaint value : String) : List (String × String) :=
  if value.isEmpty then [(name, complaint)] else []

/-- The complaints about empty settings outside the sections, by name. -/
def complaints (s : Settings) : List (String × String) :=
  emptyComplaint "default_origin_host" "Default origin host cannot be empty" s.defaultHost
    ++ emptyComplaint "description_template" "Description template cannot be empty" s.description
    ++ emptyComplaint "group_tag_key" "Group tag key cannot be empty" s.groupTagKey
    ++ emptyComplaint "managed_tag_key" "Managed tag key cannot be empty" s.managedTagKey

/-- Whether a setting of a section is empty that must not be. Such a
setting is refused without being named. -/
def hasEmptyInSection (s : Settings) : Bool :=
  s.tls.securityPolicy.isEmpty || s.tls.supportMethod.isEmpty || s.aliasing.token.isEmpty

/-- The first complaint about settings. -/
def refusal? (s : Settings) : Option Refusal :=
  if !s.complaints.isEmpty || s.hasEmptyInSection then some (.settingsEmpty s.complaints)
  else if s.logging.enabled && (Text.trim s.logging.bucket).isEmpty then some .bucketMissing
  else if s.aliasing.enabled && s.aliasing.token.toList.contains '"' then some .tokenQuoted
  else none

/-- Accepts usable settings and refuses others. -/
def validate (s : Settings) : Outcome Unit :=
  match s.refusal? with
  | some refusal => .error (.refused refusal)
  | none => .ok ()

end Settings

end RouteConvergence
