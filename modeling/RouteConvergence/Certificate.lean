/-
RouteConvergence.Certificate — certificates and the domains they cover.

A certificate covers its primary name, its alternative names, and for an
alternative name `*.rest` every domain whose part after the first dot is
`rest`; case does not count. A directory is asked in its own order, and
the first usable certificate that covers any of the domains is taken.
-/
import RouteConvergence.Failure
import RouteConvergence.Instant
import RouteConvergence.Text.Blank

namespace RouteConvergence

/-- Stage of a certificate's life. -/
inductive CertificateStatus
  | pendingValidation
  | issued
  | expired
  | revoked
deriving DecidableEq, Inhabited, Repr

namespace CertificateStatus

def word : CertificateStatus → String
  | .pendingValidation => "PendingValidation"
  | .issued => "Issued"
  | .expired => "Expired"
  | .revoked => "Revoked"

def all : List CertificateStatus := [.pendingValidation, .issued, .expired, .revoked]

end CertificateStatus

/-- A certificate of the directory. -/
structure Certificate where
  arn : String
  domainName : String
  alternativeNames : List String
  status : CertificateStatus
  notAfter : Option Instant
deriving DecidableEq, Inhabited, Repr

namespace Certificate

/-- Issued, and not past its last moment. -/
def isUsable (now : Instant) (c : Certificate) : Bool :=
  c.status == .issued &&
    match c.notAfter with
    | none => true
    | some last => now.isBefore last

/-- Whether an alternative name covers a domain. -/
def nameCovers (domain name : String) : Bool :=
  Text.sameIgnoringCase name domain ||
    match Text.dropStart? "*." name, Text.splitOnce '.' domain with
    | some rest, some (_, parent) => Text.sameIgnoringCase rest parent
    | _, _ => false

/-- Whether a certificate covers a domain. -/
def covers (c : Certificate) (domain : String) : Bool :=
  Text.sameIgnoringCase c.domainName domain || c.alternativeNames.any (nameCovers domain)

/-- The first certificate that covers any of the domains. -/
def select (certificates : List Certificate) (domains : List String) : Option Certificate :=
  certificates.find? fun c => domains.any c.covers

/-- The certificates of a directory that can be used now, in its order. -/
def usable (now : Instant) (directory : List Certificate) : List Certificate :=
  directory.filter (isUsable now)

/-- The certificate taken from usable ones for some domains. -/
def resolve (candidates : List Certificate) (domains : List String) : Outcome Certificate :=
  match select candidates domains with
  | some c => .ok c
  | none => .error (.build (.certificateMissing domains))

/-! ## Certificates given on a command line -/

/-- Why a text names no certificate. -/
inductive ArgumentFault
  | noDomainPart (text : String)
  | noDomain (text : String)
deriving DecidableEq, Repr

def ArgumentFault.message : ArgumentFault → String
  | .noDomainPart text => "'" ++ text ++ "' is not of the form ARN=DOMAIN"
  | .noDomain text => "'" ++ text ++ "' names no domain"

/-- The issued certificate a text of the form `arn=domain,domain,...`
names. Blanks around the parts and empty parts do not count. -/
def ofArgument (text : String) : Except ArgumentFault Certificate :=
  match Text.splitOnce '=' text with
  | none => .error (.noDomainPart text)
  | some (arn, domains) =>
    match ((Text.splitOn ',' domains).map Text.trim).filter (!·.isEmpty) with
    | [] => .error (.noDomain text)
    | primary :: others => .ok ⟨Text.trim arn, primary, others, .issued, none⟩

end Certificate

end RouteConvergence
