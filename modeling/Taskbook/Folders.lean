import Taskbook.Disk.Path

/-! The folders for data and for settings, as the environment names them. -/

set_option autoImplicit false

namespace Taskbook

abbrev Environment := List (String × String)

structure Folders where
  data : Path
  config : Path
  deriving DecidableEq, Repr

namespace Folders

/-- A folder of the user: the one that a variable names if it is absolute, else one in the home
folder. Without a home folder there is none. -/
def ofUser? (env : Environment) (shared fallback : String) : Option Path :=
  match env.lookup "HOME" with
  | none | some "" => none
  | some home =>
    match ((env.lookup shared).map Path.ofText).filter Path.isAbsolute with
    | some folder => some folder
    | none => some ((Path.ofText home).join (.ofText fallback))

/-- A folder that a variable of its own names, else the program's folder among those of the user,
else one in the working folder. -/
def resolve (env : Environment) (own shared fallback lastResort : String) : Path :=
  match env.lookup own with
  | some folder => .ofText folder
  | none =>
    match ofUser? env shared fallback with
    | some folder => folder.join (.ofText "mike")
    | none => .ofText lastResort

def ofEnvironment (env : Environment) : Folders where
  data := resolve env "MIKE_DATA" "XDG_DATA_HOME" ".local/share" "./.data"
  config := resolve env "MIKE_CONFIG" "XDG_CONFIG_HOME" ".config" "./.config"

def taskFile (f : Folders) : Path := f.data.join (.ofText "tasks.txt")

def logFile (f : Folders) : Path := f.data.join (.ofText "mike.log")

end Folders

end Taskbook
