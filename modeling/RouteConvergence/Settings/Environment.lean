/-
RouteConvergence.Settings.Environment — settings out of the environment.

A variable whose name begins with `EDGEPLANE__`, in any case, gives one
setting. The rest of its name, made small, is the path of the setting,
with two underscores between the steps. Its text counts as a truth value
or a number if it reads as one.

What is logged is said by variables of their own, with names to the
letter: `LogOptions.ofEnvironment`.
-/
import RouteConvergence.Settings.Layer
import RouteConvergence.Text.Pieces

namespace RouteConvergence

/-- The variables of a process by name. -/
abbrev Environment := List (String × String)

/-! ## Settings -/

/-- What the names of the settings begin with, in small letters. -/
def settingMark : String := "edgeplane__"

/-- What stands between the steps of a setting's path. -/
def stepMark : String := "__"

/-- The value a variable's text stands for. -/
def LayerValue.ofVariable (text : String) : LayerValue :=
  match Text.lowerAscii text with
  | "true" => .bool true
  | "false" => .bool false
  | _ =>
    match (Text.readInt? text.toList).filter fitsWord with
    | some n => .whole n
    | none =>
      match Decimal.Binary64.ofText? text with
      | some x => .decimal x
      | none => .text text

/-- The dotted key of the setting a variable gives, if it gives one. -/
def settingKey? (name : String) : Option String :=
  (Text.dropStart? settingMark (Text.lowerKelvin name)).map (Text.fillIn stepMark ".")

/-- The layer the environment gives. -/
def Environment.layer (environment : Environment) : List (String × LayerValue) :=
  environment.filterMap fun (name, value) =>
    (settingKey? name).map fun key => (key, .ofVariable value)

/-! ## Logging -/

/-- What is logged, and how. -/
structure LogOptions where
  level : String
  json : Bool
deriving DecidableEq, Repr

/-- The variable that gives the log level. -/
def logLevelVariable : String := "EDGEPLANE_LOG_LEVEL"

/-- The variable that gives the log level to any program. -/
def sharedLogLevelVariable : String := "RUST_LOG"

/-- The variable that asks for logs in JSON. -/
def jsonLogsVariable : String := "EDGEPLANE_JSON_LOGS"

/-- The log options of the environment. -/
def LogOptions.ofEnvironment (environment : Environment) : LogOptions where
  level :=
    (environment.lookup logLevelVariable).getD
      ((environment.lookup sharedLogLevelVariable).getD "info")
  json :=
    match environment.lookup jsonLogsVariable with
    | some s => Text.lowerAscii s == "true" || s == "1"
    | none => false

end RouteConvergence
