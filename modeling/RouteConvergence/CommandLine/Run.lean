/-
RouteConvergence.CommandLine.Run — running a command.

A command line is run against the texts of files, the environment and the
moment, and answers with what is printed, a complaint if something went
wrong, and an exit code. Nothing else is read, and nothing is changed.

* `validateRoutes` — every route of a file judged, and every group.
* `planGroup` — the distribution one group will have.
* `simulateRoutes` — a simulation of all routes.
* `run` — the whole command line.
-/
import RouteConvergence.Codec.Distribution
import RouteConvergence.Codec.Status
import RouteConvergence.CommandLine.Arguments
import RouteConvergence.Json.Writer
import RouteConvergence.LogFilter
import RouteConvergence.Settings.Load
import RouteConvergence.Simulation
import RouteConvergence.Status.Table
import RouteConvergence.Yaml.Writer

namespace RouteConvergence.CommandLine

open Data (Document)

/-! ## Faults -/

/-- Why a command did not succeed. -/
inductive CommandFault
  | failure (cause : Failure)
  /-- The settings could not be had. -/
  | settings
  | problems (count : Nat) (file : String)
  | groupEmpty (group : GroupName) (file : String)
  /-- The result is none of a table. -/
  | noTable
  /-- A text of the table could not be cut to its column. -/
  | tableBroken
  /-- A part of a log level could not be cut out of it. -/
  | logLevelBroken
  | notReconciled (count : Nat)
deriving Inhabited

namespace CommandFault

/-- The wording of a fault; a cut that could not be made has none. -/
def message? : CommandFault → Option String
  | failure cause => some cause.message
  | settings => some "Failed to load configuration"
  | problems count file => some (Text.natText count ++ " problem(s) found in " ++ file)
  | groupEmpty group file =>
    some ("group '" ++ group ++ "' has no provisioned routes in " ++ file)
  | noTable => some "Table output is not available for this command"
  | tableBroken | logLevelBroken => none
  | notReconciled count => some (Text.natText count ++ " route(s) failed to reconcile")

/-- The exit code of a fault. -/
def exitCode : CommandFault → Nat
  | tableBroken | logLevelBroken => 101
  | _ => 1

end CommandFault

/-- What a command printed, and why it did not succeed. -/
structure Report where
  output : String
  fault : Option CommandFault
deriving Inhabited

namespace Report

/-- Nothing printed but a fault. -/
def refused (fault : CommandFault) : Report := ⟨"", some fault⟩

end Report

/-- What a result leads to: a failure is a report of its own. -/
def reportOf {α : Type} (report : α → Report) : Outcome α → Report
  | .ok value => report value
  | .error failure => .refused (.failure failure)

/-! ## Printing -/

/-- Lines, each with its end. -/
def linesText (lines : List String) : String := String.join (lines.map (· ++ "\n"))

/-- A document in a format; a table of it there is none. -/
def printed? (d : Document) : OutputFormat → Option String
  | .json => some (Json.pretty d ++ "\n")
  | .yaml => some (Yaml.write d ++ "\n")
  | .table => none

/-- The report that prints a document. -/
def printing (d : Document) (format : OutputFormat) : Report :=
  match printed? d format with
  | some text => ⟨text, none⟩
  | none => .refused .noTable

/-! ## Validating -/

/-- The descriptors of a route file. -/
def loadDescriptors (files : String → Option String) (file : String) :
    Outcome (List Descriptor) :=
  (RouteFile.load file (files file)).bind (·.descriptors)

/-- The line about one route. -/
def routeLine (d : Descriptor) : String :=
  match d.validate with
  | .ok _ => "✅ " ++ d.reference.text
  | .error failure => "❌ " ++ d.reference.text ++ ": " ++ failure.message

/-- The line about a group whose routes disagree. -/
def groupLine? (descriptors : List Descriptor) (group : GroupName) : Option String :=
  match Group.aggregate group descriptors with
  | .ok _ => none
  | .error failure => some ("❌ group " ++ group ++ ": " ++ failure.message)

/-- Judges every route and every group of a file. -/
def validateDescriptors (file : String) (descriptors : List Descriptor) : Report :=
  let groupLines := (byGroup descriptors).keys.filterMap (groupLine? descriptors)
  let invalid := descriptors.filter fun d => !d.validate.toBool
  let lines := descriptors.map routeLine ++ groupLines
  let problems := invalid.length + groupLines.length
  if 0 < problems then ⟨linesText lines, some (.problems problems file)⟩
  else ⟨linesText (lines ++ [Text.natText descriptors.length ++ " route(s) valid"]), none⟩

/-- Judges every route of a file. -/
def validateRoutes (files : String → Option String) (file : String) : Report :=
  reportOf (validateDescriptors file) (loadDescriptors files file)

/-! ## Planning -/

/-- Prints the distribution a group of a file will have. -/
def planGroup (files : String → Option String) (settings : Settings) (now : Instant)
    (file group : String) (certificates : List Certificate) (format : OutputFormat) : Report :=
  reportOf (fun
      | some model => printing model.document format
      | none => .refused (.groupEmpty group file))
    ((loadDescriptors files file).bind fun descriptors =>
      preview settings now certificates descriptors group)

/-! ## Simulating -/

/-- A failed cycle as a document. -/
def failureDocument (f : RouteFailure) : Document :=
  .record [
    ("descriptor", .text f.route.text),
    ("reason", .text f.failure.reason),
    ("retryable", .bool f.isRetryable),
    ("error", .text f.failure.message)]

/-- The line about a failed cycle. -/
def failureLine (f : RouteFailure) : String :=
  "❌ " ++ f.route.text ++ " [" ++ f.failure.reason
    ++ (if f.isRetryable then ", retryable" else "") ++ "]: " ++ f.failure.message

/-- What is left of a simulation as a document. -/
def simulationDocument (groups : List GroupName) (failures : List RouteFailure) (w : World) :
    Document :=
  .record [
    ("distributions",
      .list ((groups.filterMap w.distributions.models.get?).map Model.document)),
    ("statuses", .list (w.statuses.values.map StatusRecord.document)),
    ("events", .list (w.events.map Event.document)),
    ("failures", .list (failures.map failureDocument))]

/-- What is left of a simulation as a table, with a line for each failure. -/
def simulationTable (failures : List RouteFailure) (w : World) : Report :=
  match StatusTable.render w.statuses.values with
  | some table => ⟨table ++ linesText (failures.map failureLine), none⟩
  | none => .refused .tableBroken

/-- Simulates some descriptors and prints what is left. -/
def simulateDescriptors (settings : Settings) (now : Instant)
    (certificates : List Certificate) (format : OutputFormat)
    (descriptors : List Descriptor) : Report :=
  let (failures, w) := simulate settings now certificates descriptors
  let report := match format with
    | .table => simulationTable failures w
    | format => printing (simulationDocument (byGroup descriptors).keys failures w) format
  match report.fault with
  | some _ => report
  | none =>
    if failures.isEmpty then report
    else { report with fault := some (.notReconciled failures.length) }

/-- Simulates the routes of a file. -/
def simulateRoutes (files : String → Option String) (settings : Settings) (now : Instant)
    (file : String) (certificates : List Certificate) (format : OutputFormat) : Report :=
  reportOf (simulateDescriptors settings now certificates format) (loadDescriptors files file)

/-! ## Command lines -/

/-- The log level of a command line: it is said by a flag, or else by the
environment. -/
def logLevel (environment : Environment) (verbose : Bool) : String :=
  if verbose then "debug"
  else if (environment.lookup logLevelVariable).isNone then "warn"
  else (LogOptions.ofEnvironment environment).level

/-- The fault of a log level. -/
def logFault (level : String) : LogFilter.Objection → CommandFault
  | .malformed => .failure (.settings (.logLevelInvalid level))
  | .uncuttable => .logLevelBroken

/-- Runs a command with its settings. -/
def runCommand (files : String → Option String) (now : Instant) (settings : Settings) :
    Command → Report
  | .validate file => validateRoutes files file
  | .plan file group certificates output =>
    planGroup files settings now file group certificates output
  | .simulate file certificates output =>
    simulateRoutes files settings now file certificates output

/-- Runs what was asked for. The log level is judged first, then the
settings are loaded. -/
def runInvocation (files : String → Option String) (environment : Environment)
    (now : Instant) (invocation : Invocation) : Report :=
  let level := logLevel environment invocation.verbose
  match LogFilter.objection? environment level with
  | some objection => .refused (logFault level objection)
  | none =>
    match Settings.load (invocation.config.map fun path => (path, files path)) environment with
    | .error _ => .refused .settings
    | .ok settings => runCommand files now settings invocation.command

/-- What the program answers with. -/
structure Answer where
  exitCode : Nat
  output : String
  complaint : Option String
deriving DecidableEq, Repr

/-- The name of the program and its version. -/
def versionText : String := "edgeplane 0.1.0\n"

/-- How the program is used. -/
def helpText : String :=
  linesText [
    "Converge route descriptors into CDN distributions",
    "",
    "Usage: edgeplane [--config PATH] [--verbose] [--json-logs] COMMAND",
    "",
    "  validate FILE",
    "  plan FILE --group GROUP [--certificate ARN=DOMAIN,...] [--output FORMAT]",
    "  simulate FILE [--certificate ARN=DOMAIN,...] [--output FORMAT]"]

/-- The exit code of a mistake in the arguments. -/
def usageCode : Nat := 2

/-- The answer when there is nothing to run. -/
def Early.answer : Early → Answer
  | usage => ⟨usageCode, "", some "the arguments are not understood"⟩
  | help => ⟨0, helpText, none⟩
  | version => ⟨0, versionText, none⟩

/-- The answer of a command that ran. -/
def Report.answer (r : Report) : Answer :=
  ⟨(r.fault.map CommandFault.exitCode).getD 0, r.output,
    (r.fault.bind CommandFault.message?).map ("Error: " ++ ·)⟩

/-- Runs a command line. -/
def run (files : String → Option String) (environment : Environment) (now : Instant)
    (arguments : List String) : Answer :=
  match Invocation.ofArguments arguments with
  | .error early => early.answer
  | .ok invocation => (runInvocation files environment now invocation).answer

end RouteConvergence.CommandLine
