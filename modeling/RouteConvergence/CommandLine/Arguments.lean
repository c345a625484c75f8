/-
RouteConvergence.CommandLine.Arguments — reading the arguments.

A command line names a command and its options. Options that concern all
commands may stand before or after the name of the command; what stands
after it counts more. Long options take their value behind an equals sign
or as the next argument, short ones also at once, and short flags may
stand together behind one dash. Behind two dashes nothing is an option.

Arguments are read from left to right, and the first mistake ends the
reading, unless help or the version was asked for before it.

* `Scan` — what was read up to some argument.
* `Invocation.ofArguments` — what a command line asks for.
-/
import RouteConvergence.Certificate

namespace RouteConvergence.CommandLine

/-! ## What can be asked for -/

/-- A way to print a result. -/
inductive OutputFormat
  | json
  | yaml
  | table
deriving DecidableEq, Repr

namespace OutputFormat

def word : OutputFormat → String
  | json => "json"
  | yaml => "yaml"
  | table => "table"

def all : List OutputFormat := [json, yaml, table]

end OutputFormat

/-- A command with its options. -/
inductive Command
  | validate (file : String)
  | plan (file group : String) (certificates : List Certificate) (output : OutputFormat)
  | simulate (file : String) (certificates : List Certificate) (output : OutputFormat)

/-- A command and the options that concern all commands. -/
structure Invocation where
  command : Command
  config : Option String
  verbose : Bool
  jsonLogs : Bool

/-- The file a command reads its routes from. -/
def Command.file : Command → String
  | .validate file => file
  | .plan file _ _ _ => file
  | .simulate file _ _ => file

/-- The files that are read for what was asked. -/
def Invocation.files (i : Invocation) : List String := i.command.file :: i.config.toList

/-- Why there is nothing to run. -/
inductive Early
  /-- A mistake in the arguments. -/
  | usage
  /-- Help was asked for. -/
  | help
  /-- The version was asked for. -/
  | version
deriving DecidableEq, Repr

/-! ## Names -/

/-- The name of a command. -/
inductive Verb
  | validate
  | plan
  | simulate
deriving DecidableEq, Repr

namespace Verb

def word : Verb → String
  | validate => "validate"
  | plan => "plan"
  | simulate => "simulate"

def all : List Verb := [validate, plan, simulate]

end Verb

/-- The word that asks for help in place of a command. -/
def helpWord : String := "help"

/-- An option. -/
inductive Flag
  | config
  | verbose
  | jsonLogs
  | group
  | certificate
  | output
  | help
  | version
deriving DecidableEq, Repr

namespace Flag

/-- The name of an option behind two dashes. -/
def long : Flag → String
  | config => "config"
  | verbose => "verbose"
  | jsonLogs => "json-logs"
  | group => "group"
  | certificate => "certificate"
  | output => "output"
  | help => "help"
  | version => "version"

/-- The letter of an option behind one dash. -/
def short? : Flag → Option Char
  | verbose => some 'v'
  | output => some 'o'
  | help => some 'h'
  | version => some 'V'
  | _ => none

/-- Whether an option has a value. -/
def takesValue : Flag → Bool
  | config | group | certificate | output => true
  | _ => false

/-- Whether an option may be given again. -/
def mayRepeat : Flag → Bool
  | certificate => true
  | _ => false

/-- The options known before a command or behind it. -/
def known : Option Verb → List Flag
  | none => [config, verbose, jsonLogs, help, version]
  | some .validate => [config, verbose, jsonLogs, help]
  | some .plan => [config, verbose, jsonLogs, group, certificate, output, help]
  | some .simulate => [config, verbose, jsonLogs, certificate, output, help]

/-- Whether an option can have a value: a path is not empty, certificates
and formats are well written. -/
def accepts : Flag → String → Bool
  | config, value => !value.isEmpty
  | certificate, value => (Certificate.ofArgument value).toBool
  | output, value => OutputFormat.all.any (·.word == value)
  | _, _ => true

end Flag

/-! ## Reading from left to right -/

/-- What was read of the arguments before a command or behind it. -/
structure Scan where
  /-- Options with their values, in order. -/
  options : List (Flag × String)
  /-- The argument that is no option. -/
  file : Option String
  /-- An option that waits for its value. -/
  waiting : Option Flag
  /-- Whether two dashes were read. -/
  plain : Bool

namespace Scan

/-- Nothing read yet. -/
def empty : Scan := ⟨[], none, none, false⟩

/-- The values of an option in order. -/
def valuesOf (s : Scan) (flag : Flag) : List String :=
  (s.options.filter (·.1 == flag)).map (·.2)

/-- Whether an option was given. -/
def has (s : Scan) (flag : Flag) : Bool := s.options.any (·.1 == flag)

/-- The last value of an option. -/
def value? (s : Scan) (flag : Flag) : Option String := (s.valuesOf flag).getLast?

/-- One more option; asking for help or the version ends the reading. -/
def add (s : Scan) (flag : Flag) (value : String) : Except Early Scan :=
  if flag = .help then .error .help
  else if flag = .version then .error .version
  else if !flag.accepts value || (s.has flag && !flag.mayRepeat) then .error .usage
  else .ok { s with options := s.options ++ [(flag, value)], waiting := none }

/-- An option with a value attached, or one that waits for its value. -/
def addOrWait (s : Scan) (flag : Flag) : Option String → Except Early Scan
  | some value => s.add flag value
  | none => .ok { s with waiting := some flag }

/-- A long option, from behind its dashes on. -/
def addLong (verb : Option Verb) (s : Scan) (text : String) : Except Early Scan :=
  let (name, value) := match Text.splitOnce '=' text with
    | some (name, value) => (name, some value)
    | none => (text, none)
  match (Flag.known verb).find? (·.long == name) with
  | none => .error .usage
  | some flag =>
    if flag.takesValue then s.addOrWait flag value
    else if value.isSome then .error .usage
    else s.add flag ""

/-- Short options, from behind their dash on: flags, of which the last may
have a value behind it. -/
def addShort (verb : Option Verb) : Scan → List Char → Except Early Scan
  | s, [] => .ok s
  | s, letter :: rest =>
    match (Flag.known verb).find? (·.short? == some letter) with
    | none => .error .usage
    | some flag =>
      if flag.takesValue then
        match rest with
        | [] => s.addOrWait flag none
        | '=' :: value => s.addOrWait flag (some (String.ofList value))
        | value => s.addOrWait flag (some (String.ofList value))
      else (s.add flag "").bind fun s => addShort verb s rest

/-- An argument that is no option and no value of one: the file of a
command, which has only one. -/
def addFile (verb : Option Verb) (s : Scan) (text : String) : Except Early Scan :=
  if verb.isNone || s.file.isSome || text.isEmpty then .error .usage
  else .ok { s with file := some text }

/-- What was read after one more argument. An option that waits for its
value takes the next argument, unless that is an option itself. -/
def step (verb : Option Verb) (s : Scan) (argument : String) : Except Early Scan :=
  if s.plain then
    if s.waiting.isSome then .error .usage else s.addFile verb argument
  else
    match argument.toList with
    | ['-', '-'] => .ok { s with plain := true }
    | '-' :: '-' :: text =>
      if s.waiting.isSome then .error .usage else s.addLong verb (String.ofList text)
    | '-' :: letter :: rest =>
      if s.waiting.isSome then .error .usage else s.addShort verb (letter :: rest)
    | _ =>
      match s.waiting with
      | some flag => s.add flag argument
      | none => s.addFile verb argument

/-- What was read after all arguments behind a command. -/
def run (verb : Option Verb) (arguments : List String) (s : Scan) : Except Early Scan :=
  arguments.foldlM (step verb) s

end Scan

/-! ## Command lines -/

/-- The certificates given. -/
def Scan.certificates (s : Scan) : List Certificate :=
  (s.valuesOf .certificate).filterMap fun value => (Certificate.ofArgument value).toOption

/-- The output format, or the given one if none was asked for. -/
def Scan.output (fallback : OutputFormat) (s : Scan) : OutputFormat :=
  ((s.value? .output).bind fun value => OutputFormat.all.find? (·.word == value)).getD fallback

/-- The command that was read, if nothing is missing. -/
def Verb.command? (verb : Verb) (s : Scan) : Option Command := do
  if s.waiting.isSome then none
  let file ← s.file
  match verb with
  | .validate => some (.validate file)
  | .plan => some (.plan file (← s.value? .group) s.certificates (s.output .json))
  | .simulate => some (.simulate file s.certificates (s.output .table))

/-- Whether arguments behind the word for help name nothing or one thing
that there is help for. -/
def isHelpTopic : List String → Bool
  | [] => true
  | [word] => Verb.all.any (·.word == word) || word == helpWord
  | _ => false

namespace Invocation

/-- What was asked for before a command and behind it. -/
def ofScans? (verb : Verb) (before behind : Scan) : Option Invocation := do
  let either (flag : Flag) : Bool := before.has flag || behind.has flag
  return {
    command := ← verb.command? behind
    config := (behind.value? .config).or (before.value? .config)
    verbose := either .verbose
    jsonLogs := either .jsonLogs }

/-- What a command line asks for, with what was read before its command. -/
def ofArgumentsAfter (before : Scan) : List String → Except Early Invocation
  | [] => .error .usage
  | argument :: rest =>
    if !before.plain && before.waiting.isNone && argument == helpWord then
      .error (if isHelpTopic rest then .help else .usage)
    else
      match Verb.all.find? fun verb =>
        !before.plain && before.waiting.isNone && verb.word == argument with
      | some verb => do
        match ofScans? verb before (← Scan.empty.run (some verb) rest) with
        | some invocation => .ok invocation
        | none => .error .usage
      | none => (before.step none argument).bind fun before => ofArgumentsAfter before rest

/-- What a command line asks for. -/
def ofArguments (arguments : List String) : Except Early Invocation :=
  ofArgumentsAfter .empty arguments

end Invocation

end RouteConvergence.CommandLine
