import Taskbook.Folders
import Taskbook.Session
import Taskbook.Settings.Reader

/-! The settings of the program, from files in several formats and from the command line.

Settings come in two groups with files of their own. Each setting is resolved on its own, from the
last format that has it. Only the value that wins is converted. -/

set_option autoImplicit false

namespace Taskbook

structure Choices where
  dataFile : Option String
  configPath : Option String
  deriving DecidableEq, Repr

structure Settings where
  prompt : String
  greet : Bool
  dataFile : Path
  autosave : Bool
  deriving DecidableEq, Repr

namespace Settings

inductive Error where
  /-- The name of a settings file tells no format. -/
  | unknownFormat
  /-- A settings file does not keep to its format. -/
  | malformed
  /-- A setting has a value that does not convert. -/
  | unsuitable
  deriving DecidableEq, Repr

inductive Group where
  | cli
  | core
  deriving DecidableEq, Repr

def Group.name : Group → String
  | cli => "cli"
  | core => "core"

/-- The formats that are looked for in a folder. Each counts more than those before it. -/
def folderFormats : List (Format × String) :=
  [(.json5, "json5"), (.json, "json"), (.yaml, "yaml"), (.toml, "toml"), (.ini, "ini")]

def groupFile (folder : Path) (group : Group) (extension : String) : Path :=
  folder.join (.ofText (group.name ++ "." ++ extension))

def content (d : Disk) (file : Path) : ByteArray := (d.read file).toOption.getD ByteArray.empty

variable [Reader]

def readTable (d : Disk) (file : Path) (format : Format) : Except Error Table :=
  match Reader.parse? format (content d file) with
  | some table => .ok table
  | none => .error .malformed

/-- The files of a group that are found in a folder, in the order in which they are added. -/
def folderFiles (d : Disk) (folder : Path) (group : Group) : List (Format × Path) :=
  folderFormats.filterMap fun (format, extension) =>
    (Reader.find? d.isFile format (groupFile folder group extension)).map fun file => (format, file)

/-- The files that the settings of a group are read from. A path to a file is the only one for all
groups. -/
def groupFiles (d : Disk) (configPath : Path) (group : Group) :
    Except Error (List (Format × Path)) :=
  if d.isFile configPath then
    match configPath.extension?.bind Reader.formatOf? with
    | none => .error .unknownFormat
    | some format => .ok [(format, configPath)]
  else .ok (folderFiles d configPath group)

def groupTable (d : Disk) (configPath : Path) (group : Group) : Except Error Table := do
  let files ← groupFiles d configPath group
  let tables ← files.mapM fun f => readTable d f.2 f.1
  return Reader.merge tables

def lookups (configPath : Path) : List Path :=
  configPath :: [Group.cli, .core].flatMap fun group =>
    folderFormats.flatMap fun (format, extension) =>
      Reader.candidates format (groupFile configPath group extension)

/-- Whether nothing in the folder has the proper name of a file of the group. -/
def isMissing (d : Disk) (configPath : Path) (group : Group) : Bool :=
  !d.isFile configPath &&
    folderFormats.all fun f => !d.isPresent (groupFile configPath group f.2)

/-- The setting under a key, or its default if the table does not have the key. -/
def setting {α : Type} (table : Table) (key : String) (convert : Reader.Value → Option α)
    (default : α) : Except Error α :=
  match table key with
  | none => .ok default
  | some value =>
    match convert value with
    | some x => .ok x
    | none => .error .unsuitable

def cliSettings (d : Disk) (configPath : Path) : Except Error (String × Bool) := do
  let table ← groupTable d configPath .cli
  let prompt ← setting table "prompt" Reader.toText? "> "
  let greet ← setting table "greet" Reader.toBool? true
  return (prompt, greet)

def coreSettings (d : Disk) (configPath : Path) : Except Error (String × Bool) := do
  let table ← groupTable d configPath .core
  let dataFile ← setting table "data_file" Reader.toText? ""
  let autosave ← setting table "autosave" Reader.toBool? true
  return (dataFile, autosave)

def configPath (folders : Folders) (choices : Choices) : Path :=
  match choices.configPath with
  | some text => .ofText text
  | none => folders.config

def load (d : Disk) (folders : Folders) (choices : Choices) : Except Error Settings := do
  let (prompt, greet) ← cliSettings d (configPath folders choices)
  let (stored, autosave) ← coreSettings d (configPath folders choices)
  let named := choices.dataFile.getD stored
  let dataFile := if named = "" then folders.taskFile else .ofText named
  return ⟨prompt, greet, dataFile, autosave⟩

def options (s : Settings) : Session.Options := ⟨s.prompt, s.greet, s.autosave⟩

end Settings

end Taskbook
