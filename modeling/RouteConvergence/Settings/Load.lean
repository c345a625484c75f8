/-
RouteConvergence.Settings.Load — settings from a file and the
environment.

Settings are the defaults, over them what a file gives, over that what
the environment gives. A file is read by the ending of its name, and its
document is a table. `Settings.load` refuses what cannot be read and, last
of all, settings that are not usable.
-/
import RouteConvergence.Settings.Document
import RouteConvergence.Settings.Environment
import RouteConvergence.Settings.Typed
import RouteConvergence.Source.RouteFile

namespace RouteConvergence

/-! ## Layers -/

/-- The layer of a file with some contents: a table in the format its name
says. -/
def fileLayer? (path contents : String) : Option (List (String × LayerValue)) := do
  (← LayerFormat.ofExtension? (← RouteFile.extension? path)).layer? contents

/-! ## Loading -/

namespace Settings

/-- The layers over the defaults: a file, if one is named, and the
environment. -/
def layer? (file : Option (String × String)) (environment : Environment) :
    Option (List (String × LayerValue)) := do
  let below ← match file with
    | some (path, contents) => (fileLayer? path contents).map fun above => layOver above []
    | none => some []
  return layOver environment.layer below

/-- The settings of a file, if one is named, and of the environment. The
file stands with its contents, if it exists. -/
def load (file : Option (String × Option String)) (environment : Environment) :
    Outcome Settings :=
  match file with
  | some (path, none) => .error (.settings (.fileMissing path))
  | _ =>
    let named := file.bind fun f => f.2.map fun contents => (f.1, contents)
    match (layer? named environment).bind ofLayer? with
    | none => .error (.settings .layersUnreadable)
    | some settings => settings.validate.map fun _ => settings

end Settings

end RouteConvergence
