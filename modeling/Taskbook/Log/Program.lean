import Taskbook.Log.Filter
import Taskbook.Settings

/-! What the program as a whole leaves in the log, besides its sessions. -/

set_option autoImplicit false

namespace Taskbook.Log

def inUse (target : String) (folders : Folders) (configPath : Path) : Entry :=
  ⟨.debug, target, "Using data directory at " ++ folders.data.text ++ " and config directory at " ++
    configPath.text⟩

def missing (d : Disk) (configPath : Path) (group : Settings.Group) : List Entry :=
  if Settings.isMissing d configPath group then
    [⟨.info, coreSettingsTarget, "No " ++ group.name ++ " configuration in " ++ configPath.text ++
      ", using defaults. Run `mike generate-config` to create one"⟩]
  else []

/-- What loading the settings leaves in the log. After a failure in the first group nobody looks at
the second one. -/
def settings [Settings.Reader] (d : Disk) (folders : Folders) (choices : Choices) : List Entry :=
  let path := Settings.configPath folders choices
  let first := inUse settingsTarget folders path :: missing d path .cli
  match Settings.cliSettings d path with
  | .error _ => first
  | .ok _ => first ++ inUse coreSettingsTarget folders path :: missing d path .core

def opened (folders : Folders) : Entry :=
  ⟨.info, logTarget, "mike 0.3.0 logging to " ++ folders.logFile.text⟩

def usingFile (file : Path) : Entry := ⟨.info, programTarget, "Using task file " ++ file.text⟩

def crashed (cause : String) : Entry := ⟨.error, crashTarget, "Error: " ++ cause⟩

/-- The rules that the environment gives, in the first variable that is set and not blank. -/
def Selection.ofEnvironment (env : Environment) : Selection :=
  let given := ["RUST_LOG", "MIKE_LOGLEVEL"].filterMap fun name => env.lookup name
  ofText ((given.find? fun text => !Text.allBlank text.toList).getD "")

end Taskbook.Log
