/-
RouteConvergence.Distribution.Build — the model of a group.

A model is a function of the members of a group, the settings and the
usable certificates. It is built in two steps, because only the second
needs the certificate directory and only if there is a domain to cover:

* `Draft.ofGroup` — origins, names, tags: everything but the certificate.
* `Draft.finish` — the model, once the certificates are known.

Origins stand by host. A pattern is global to a distribution and can be
routed one way only: a behaviour met again is dropped, and a different
behaviour for a pattern already routed is a fault.
-/
import RouteConvergence.Certificate
import RouteConvergence.Distribution
import RouteConvergence.Group
import RouteConvergence.Pattern.Subtree
import RouteConvergence.Settings

namespace RouteConvergence

/-! ## Origins -/

/-- Origins under construction, by host. -/
abbrev Origins := SortedMap String Origin

namespace Origins

/-- The behaviour that sends a pattern to a member. -/
def behaviorOf (member : Descriptor) (pattern : String) : Behavior :=
  ⟨pattern, member.originHost, member.functions, member.originRequestPolicy,
    member.cachePolicy⟩

/-- The patterns of a member, most specific first. -/
def patternsOf (member : Descriptor) : List String :=
  Pattern.sortMostSpecific (PathSpec.allPatterns member.paths)

/-- The response timeout of an origin after one more request for it, if the
requests agree. -/
def mergeTimeout (host : String) : Option Nat → Option Nat → Except BuildFault (Option Nat)
  | some current, some requested =>
    if current = requested then .ok (some current)
    else .error (.timeoutsDiffer host current requested)
  | none, requested => .ok requested
  | some current, none => .ok (some current)

/-- Routes further patterns to a member's origin. `routed` holds the
behaviour of every pattern routed so far, in any origin. -/
def addPatterns (member : Descriptor) (routed : SortedMap String Behavior) (origin : Origin) :
    List String → Except BuildFault (SortedMap String Behavior × Origin)
  | [] => .ok (routed, origin)
  | pattern :: rest =>
    let behavior := behaviorOf member pattern
    match routed.get? pattern with
    | some existing =>
      if existing = behavior then addPatterns member routed origin rest
      else .error (.patternTaken pattern member.reference behavior.target existing.target)
    | none =>
      addPatterns member (routed.insert pattern behavior)
        { origin with behaviors := origin.behaviors ++ [behavior] } rest

/-- Adds a member to origins under construction. -/
def addMember (member : Descriptor) (routed : SortedMap String Behavior) (origins : Origins) :
    Except BuildFault (SortedMap String Behavior × Origins) := do
  let origin := (origins.get? member.originHost).getD (.bare member.originHost)
  let timeout ← mergeTimeout member.originHost origin.responseTimeout member.responseTimeout
  let (routed, origin) ← addPatterns member routed { origin with responseTimeout := timeout }
    (patternsOf member)
  return (routed, origins.insert member.originHost origin)

/-- Adds members in order. -/
def addMembers (routed : SortedMap String Behavior) (origins : Origins) :
    List Descriptor → Except BuildFault Origins
  | [] => .ok origins
  | member :: rest => do
    let (routed, origins) ← addMember member routed origins
    addMembers routed origins rest

/-- An origin with its behaviours most specific first. -/
def sortBehaviors (origin : Origin) : Origin :=
  { origin with behaviors := origin.behaviors.mergeSort Behavior.mayPrecede }

/-- The origins of some members, by host. -/
def ofMembers (members : List Descriptor) : Except BuildFault (List Origin) := do
  let origins ← addMembers .empty .empty members
  return origins.values.map sortBehaviors

end Origins

/-! ## Names and tags -/

/-- The form in which a domain is stored and compared. -/
def canonicalDomain (domain : String) : String := Text.lowerAscii (Text.trim domain)

/-- The names of some members in canonical form, sorted and each once. -/
def collectDomains (members : List Descriptor) : SortedSet String :=
  .ofList (((members.flatMap (·.alternateDomains)).map canonicalDomain).filter (!·.isEmpty))

/-- The value of the tag that marks a distribution as managed. -/
def managedTagValue : String := "edgeplane"

/-- The tags of a group: the mark, the group, the members in order, the
custom tags; later ones override earlier ones. -/
def mergeTags (settings : Settings) (group : Group) : SortedMap String String :=
  let marked : SortedMap String String :=
    (SortedMap.empty.insert settings.managedTagKey managedTagValue).insert
      settings.groupTagKey group.name
  let tagged := group.members.foldl (fun tags member => tags.insertAll member.tags.entries) marked
  tagged.insertAll settings.customTags.entries

/-! ## Models -/

/-- A model but for its certificate. -/
structure Draft where
  model : Model
  /-- The domains a certificate is needed for; none if TLS is not wanted. -/
  uncovered : List String

namespace Draft

/-- Drafts the model of a group. -/
def ofGroup (settings : Settings) (group : Group) (identity : Option Identity) :
    Outcome Draft :=
  match Origins.ofMembers group.members with
  | .error fault => .error (.build fault)
  | .ok origins =>
    let domains := (collectDomains group.members).toList
    .ok {
      model := {
        group := group.name
        description := settings.descriptionFor group.name
        defaultOrigin := .bare settings.defaultHost
        origins := origins
        alternateDomains := domains
        tls := none
        webAcl := group.webAcl
        tags := mergeTags settings group
        logging :=
          if settings.logging.enabled then
            some ⟨settings.logging.bucket, settings.logStartFor group.name⟩
          else none
        ipv6 := settings.ipv6
        identity := identity }
      uncovered := if settings.tls.enabled then domains else [] }

/-- The model of a draft that needs no certificate, or that gets one. -/
def withCertificate (settings : Settings) (draft : Draft) (certificate : Certificate) : Model :=
  { draft.model with
    tls := some ⟨certificate.arn, settings.tls.securityPolicy, settings.tls.supportMethod⟩ }

/-- Finishes a draft with the usable certificates, which are asked for only
if there is a domain to cover. -/
def finish (settings : Settings) (draft : Draft) (candidates : Outcome (List Certificate)) :
    Outcome Model :=
  if draft.uncovered.isEmpty then .ok draft.model
  else
    match candidates with
    | .error failure => .error failure
    | .ok usable =>
      match Certificate.resolve usable draft.uncovered with
      | .error failure => .error failure
      | .ok certificate => .ok (draft.withCertificate settings certificate)

end Draft

/-- Builds the model of a group from a certificate directory. -/
def Model.build (settings : Settings) (now : Instant) (directory : List Certificate)
    (group : Group) (identity : Option Identity) : Outcome Model :=
  match Draft.ofGroup settings group identity with
  | .error failure => .error failure
  | .ok draft => draft.finish settings (.ok (Certificate.usable now directory))

end RouteConvergence
