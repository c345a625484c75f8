/-
RouteConvergence.Failure — everything that can go wrong, as causes.

A failure says what happened; how it is worded, which short reason it is
filed under and whether a retry can help are functions of it:

* `Failure.message` — the text an operator reads.
* `Failure.reason` — a short word for events.
* `Failure.isFatal` — the input has to change before a retry can help.
* `Failure.combine` — one failure for a whole cycle: a single failure
  stands for itself, several are listed, and lists do not nest.
-/
import RouteConvergence.Dns.Record
import RouteConvergence.Function
import RouteConvergence.Reference
import RouteConvergence.Source.AnnotationKey
import RouteConvergence.Text.Decimal
import RouteConvergence.Text.Quoted

namespace RouteConvergence

/-! ## Refused input -/

/-- The longest an origin may take to respond, in seconds. -/
def maxResponseTimeout : Nat := 180

/-- Why an input was refused before any store was asked to change. -/
inductive Refusal
  | stated (message : String) (field : Option String)
  | groupMissing (route : Reference)
  | hostMissing (route : Reference)
  | pathsMissing (route : Reference)
  | pathNotRooted (index : Nat) (path : String)
  | wildcardInExactPath (index : Nat) (path : String)
  | hostnameMalformed (domain : String)
  | timeoutOutOfRange (seconds : Nat)
  | requestPolicyAlone
  | viewerFunctionElsewhere (arn : String) (event : FunctionEvent)
  | eventTaken (event : FunctionEvent)
  | annotationRetired (route : Reference)
  | groupAnnotationMissing (route : Reference)
  | timeoutUnreadable (route : Reference) (text : String)
  | edgeFunctionsUnreadable (route : Reference)
  | tagWithoutValue (route : Reference) (piece : String)
  | routeRepeated (route : Reference)
  | arnMalformed (arn : String)
  | creationDisabled (group : GroupName)
  /-- Settings that must not be empty, each with its complaint. -/
  | settingsEmpty (complaints : List (String × String))
  | bucketMissing
  | tokenQuoted
deriving DecidableEq, Inhabited, Repr

namespace Refusal

def message : Refusal → String
  | .stated message _ => message
  | .groupMissing route => "descriptor " ++ route.text ++ " declares no group"
  | .hostMissing route =>
    "descriptor " ++ route.text ++ " is provisioned without an origin host"
  | .pathsMissing route => "descriptor " ++ route.text ++ " declares no paths"
  | .pathNotRooted _ path => "path '" ++ path ++ "' must start with '/'"
  | .wildcardInExactPath _ path => "exact path '" ++ path ++ "' must not contain wildcards"
  | .hostnameMalformed domain =>
    "alternate domain '" ++ domain ++ "' is not a valid hostname"
  | .timeoutOutOfRange seconds =>
    "origin response timeout " ++ Text.natText seconds ++ "s is outside 1..=" ++
      Text.natText maxResponseTimeout
  | .requestPolicyAlone => "an origin request policy requires a cache policy"
  | .viewerFunctionElsewhere arn event =>
    "viewer function " ++ arn ++ " cannot attach to " ++ event.spokenName
  | .eventTaken event => "more than one function attached to " ++ event.spokenName
  | .annotationRetired route =>
    route.text ++ ": annotation '" ++ AnnotationKey.retiredEdgeFunction.text ++
      "' is no longer supported, use '" ++ AnnotationKey.edgeFunctions.text ++ "'"
  | .groupAnnotationMissing route =>
    route.text ++ ": missing '" ++ AnnotationKey.group.text ++ "' annotation"
  | .timeoutUnreadable route text =>
    route.text ++ ": origin response timeout '" ++ text ++ "' is not a number of seconds"
  | .edgeFunctionsUnreadable route => route.text ++ ": invalid edge function associations: "
  | .tagWithoutValue route piece =>
    route.text ++ ": tag '" ++ piece ++ "' is not of the form key=value"
  | .routeRepeated route => "route '" ++ route.text ++ "' is declared more than once"
  | .arnMalformed arn => "malformed distribution ARN '" ++ arn ++ "'"
  | .creationDisabled group =>
    "group '" ++ group ++ "' has no distribution and distribution creation is disabled"
  | .settingsEmpty complaints =>
    "Validation failed: " ++ Text.joinWith "; " (complaints.map fun c => c.1 ++ ": " ++ c.2)
  | .bucketMissing => "Access logging is enabled but no bucket is configured"
  | .tokenQuoted => "Ownership token must not contain quotes"

/-- The field of the input a refusal is about, where there is one. -/
def field : Refusal → Option String
  | .stated _ field => field
  | .groupMissing _ => some "group"
  | .hostMissing _ => some "origin_host"
  | .pathsMissing _ => some "paths"
  | .pathNotRooted index _ | .wildcardInExactPath index _ =>
    some ("paths[" ++ Text.natText index ++ "]")
  | .hostnameMalformed _ => some "alternate_domains"
  | .timeoutOutOfRange _ => some "origin_response_timeout"
  | .requestPolicyAlone => some "origin_request_policy_id"
  | .viewerFunctionElsewhere _ _ | .eventTaken _ => some "function_associations"
  | .annotationRetired _ => some AnnotationKey.retiredEdgeFunction.text
  | .groupAnnotationMissing _ => some AnnotationKey.group.text
  | .timeoutUnreadable _ _ => some AnnotationKey.originResponseTimeout.text
  | .edgeFunctionsUnreadable _ => some AnnotationKey.edgeFunctions.text
  | .tagWithoutValue _ _ => some AnnotationKey.tags.text
  | .routeRepeated _ => some "routes"
  | .arnMalformed _ | .creationDisabled _ | .settingsEmpty _ => none
  | .bucketMissing => some "logging.bucket"
  | .tokenQuoted => some "alias.ownership_token"

end Refusal

/-! ## Disagreement -/

/-- Two owners or two routes that cannot both have their way. -/
inductive Conflict
  | stated (message resource : String)
  | webAclsDiffer (group : GroupName) (acls : List String)
  /-- The text record at a name carries the tokens of others only. -/
  | ownedElsewhere (domain : String) (values : List String)
  /-- Address records stand at a name nobody claims. -/
  | unclaimedRecords (domain : String)
deriving DecidableEq, Inhabited, Repr

namespace Conflict

def message : Conflict → String
  | .stated message _ => message
  | .webAclsDiffer group acls =>
    "descriptors of group '" ++ group ++ "' declare different WebACLs: " ++
      Text.joinWith ", " acls
  | .ownedElsewhere domain values =>
    "TXT record at '" ++ domain ++ "' is owned by another system (" ++
      Text.joinWith ", " values ++ ")"
  | .unclaimedRecords domain =>
    "address records at '" ++ domain ++ "' exist without an ownership TXT record"

/-- The kind of thing a conflict is about. -/
def resource : Conflict → String
  | .stated _ resource => resource
  | .webAclsDiffer _ _ => "web_acl"
  | .ownedElsewhere _ _ => "dns_ownership"
  | .unclaimedRecords _ => "dns_unmanaged_record"

end Conflict

/-! ## Models that cannot be built -/

/-- Why the routes of a group do not make one distribution. -/
inductive BuildFault
  | stated (message : String)
  | timeoutsDiffer (host : String) (current requested : Nat)
  | patternTaken (pattern : String) (route : Reference) (host existingHost : String)
  | certificateMissing (domains : List String)
deriving DecidableEq, Inhabited, Repr

def BuildFault.message : BuildFault → String
  | .stated message => message
  | .timeoutsDiffer host current requested =>
    "origin '" ++ host ++ "' has conflicting response timeouts " ++ Text.natText current ++
      "s and " ++ Text.natText requested ++ "s"
  | .patternTaken pattern route host existingHost =>
    "path pattern '" ++ pattern ++ "' is routed by '" ++ route.text ++ "' to origin '" ++
      host ++ "' with settings that conflict with origin '" ++ existingHost ++ "'"
  | .certificateMissing domains =>
    "no matching certificate for domains [" ++ Text.joinWith ", " domains ++ "]"

/-! ## Stores that refuse or fail -/

/-- The store a failed call was made to. -/
inductive Backend
  | distribution
  | dns
  | certificate
  | status
  | descriptor
deriving DecidableEq, Inhabited, Repr

def Backend.word : Backend → String
  | .distribution => "distribution"
  | .dns => "dns"
  | .certificate => "certificate"
  | .status => "status"
  | .descriptor => "descriptor"

def Backend.all : List Backend := [.distribution, .dns, .certificate, .status, .descriptor]

/-- A call that changes the distribution store. -/
inductive Operation
  | create
  | update
  | delete
deriving DecidableEq, Inhabited, Repr

def Operation.word : Operation → String
  | .create => "create"
  | .update => "update"
  | .delete => "delete"

def Operation.all : List Operation := [.create, .update, .delete]

/-- Why a store did not do what it was asked. -/
inductive BackendFault
  | stated (backend : Backend) (operation message : String)
  /-- The distribution store was told to fail. -/
  | injected (operation : Operation)
  /-- The zone was told to fail at a name. -/
  | injectedAt (name : String)
  | identityMissing
  | distributionMissing (id : String)
  | recordMissing (type : RecordType) (name : String)
  | statusExists (group : GroupName)
  | addressMissing (group : GroupName) (domains : List String)
deriving DecidableEq, Inhabited, Repr

namespace BackendFault

/-- The store at fault. -/
def backend : BackendFault → Backend
  | .stated backend _ _ => backend
  | .injected _ | .identityMissing | .distributionMissing _ | .addressMissing _ _ => .distribution
  | .injectedAt _ | .recordMissing _ _ => .dns
  | .statusExists _ => .status

/-- The call that failed. -/
def operation : BackendFault → String
  | .stated _ operation _ => operation
  | .injected operation => operation.word
  | .identityMissing | .distributionMissing _ => Operation.update.word
  | .injectedAt _ | .recordMissing _ _ => "apply"
  | .statusExists _ => "create"
  | .addressMissing _ _ => "resolve_address"

def message : BackendFault → String
  | .stated _ _ message => message
  | .injected _ => "injected failure"
  | .injectedAt name => "injected failure for " ++ name
  | .identityMissing => "model carries no identity"
  | .distributionMissing id => "distribution " ++ id ++ " does not exist"
  | .recordMissing type name => type.word ++ " record for " ++ name ++ " does not exist"
  | .statusExists group => "status for group '" ++ group ++ "' already exists"
  | .addressMissing group domains =>
    "distribution for group '" ++ group ++ "' reports no address; aliases " ++
      Text.quotedSet domains ++ " not upserted"

end BackendFault

/-! ## Settings and files -/

/-- Why the settings could not be had. -/
inductive SettingsFault
  | stated (message : String)
  | fileMissing (path : String)
  /-- A layer is no document of its format or holds a value of a wrong kind. -/
  | layersUnreadable
  | logLevelInvalid (level : String)
deriving DecidableEq, Inhabited, Repr

def SettingsFault.message : SettingsFault → String
  | .stated message => message
  | .fileMissing path => "Configuration file '" ++ path ++ "' does not exist"
  | .layersUnreadable => "Configuration loading failed"
  | .logLevelInvalid level => "Invalid log level '" ++ level ++ "': "

/-- A format of documents. -/
inductive DocumentFormat
  | json
  | yaml
deriving DecidableEq, Inhabited, Repr

def DocumentFormat.word : DocumentFormat → String
  | .json => "JSON"
  | .yaml => "YAML"

/-- What a failed reading of a file was for. -/
inductive FileFault
  | routes (path : String)
  | other
deriving DecidableEq, Inhabited, Repr

def FileFault.message : FileFault → String
  | .routes path => "Failed to read route file '" ++ path ++ "'"
  | .other => "I/O operation failed"

/-! ## Failures -/

/-- Something that went wrong. -/
inductive Failure
  | settings (cause : SettingsFault)
  | refused (cause : Refusal)
  | conflict (cause : Conflict)
  | build (cause : BuildFault)
  | backend (cause : BackendFault)
  /-- The thing asked for is not there yet. -/
  | notFound (resource id : String)
  | document (format : DocumentFormat)
  | file (cause : FileFault)
  /-- The failures of one cycle. -/
  | cycle (failures : List Failure)
deriving Inhabited, Repr

namespace Failure

mutual

/-- The wording of a failure. The failures of a cycle follow one another,
separated by semicolons. -/
def message : Failure → String
  | .settings cause => "Configuration error: " ++ cause.message
  | .refused cause => "Validation error: " ++ cause.message
  | .conflict cause => "Conflict on " ++ cause.resource ++ ": " ++ cause.message
  | .build cause => "Build error: " ++ cause.message
  | .backend cause =>
    cause.backend.word ++ " backend error during " ++ cause.operation ++ ": " ++ cause.message
  | .notFound resource id => "Resource not found: " ++ resource ++ " with ID '" ++ id ++ "'"
  | .document format => "Serialization error: " ++ format.word ++ " serialization failed"
  | .file cause => "I/O error: " ++ cause.message
  | .cycle failures => Text.joinWith "; " (messages failures)

/-- The wordings of failures in order. -/
def messages : List Failure → List String
  | [] => []
  | f :: fs => message f :: messages fs

end

/-- A short word for the kind of a failure. -/
def reason : Failure → String
  | .settings _ => "ConfigError"
  | .refused _ => "ValidationFailed"
  | .conflict _ => "Conflict"
  | .build _ => "BuildFailed"
  | .backend _ => "BackendError"
  | .notFound _ _ => "NotFound"
  | .document _ => "SerializationError"
  | .file _ => "IoError"
  | .cycle _ => "ReconcileFailed"

/-- Whether only a change of the input can help. -/
def isFatal : Failure → Bool
  | .refused _ | .conflict _ | .build _ | .settings _ => true
  | _ => false

/-- Whether the failure only says that something is not there yet. -/
def isNotFound : Failure → Bool
  | .notFound _ _ => true
  | _ => false

/-- The failures a failure stands for: those listed by a cycle, or itself. -/
def parts : Failure → List Failure
  | .cycle failures => failures
  | f => [f]

/-- One failure for several. A lone one stands for itself. -/
def combine (failures : List Failure) : Failure :=
  match failures.flatMap parts with
  | [f] => f
  | fs => .cycle fs

theorem messages_eq_map (fs : List Failure) : messages fs = fs.map message := by
  induction fs with
  | nil => simp [messages]
  | cons f fs ih => simp [messages, ih]

end Failure

/-- A result that may be a failure instead. -/
abbrev Outcome (α : Type) := Except Failure α

namespace Outcome

variable {ε α β : Type} {x : Except ε α} {f : α → Except ε β}

/-- Results one after the other succeed if each does. -/
theorem bind_eq_ok {b : β} : x >>= f = .ok b ↔ ∃ a, x = .ok a ∧ f a = .ok b := by
  cases x <;> simp [bind, Except.bind]

/-- Results one after the other fail where the first of them fails. -/
theorem bind_eq_error {e : ε} :
    x >>= f = .error e ↔ x = .error e ∨ ∃ a, x = .ok a ∧ f a = .error e := by
  cases x <;> simp [bind, Except.bind]

end Outcome

end RouteConvergence
