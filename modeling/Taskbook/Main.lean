import Taskbook.Program

/-! The command line: how the system looks at its disk and changes it, shows texts, hears lines and
keeps a log. What is done with these is decided elsewhere. -/

set_option autoImplicit false

namespace Taskbook.CommandLine

def cause : IO.Error → DiskError
  | .noFileOrDirectory .. | .noSuchThing .. => .notFound
  | .alreadyExists .. => .alreadyExists
  | .permissionDenied .. => .denied
  | .resourceExhausted .. => .noSpace
  | .inappropriateType _ 21 _ => .isADirectory
  | .inappropriateType .. => .notADirectory
  | _ => .refused

def attempt (action : IO Unit) : IO (Except DiskError Unit) := do
  match ← action.toBaseIO with
  | .ok () => return .ok ()
  | .error e => return .error (cause e)

/-! ## The disk -/

def entryAt (l : Location) : IO (List (Location × Entry)) := do
  let path := (← IO.currentDir) / ("/" ++ String.intercalate "/" l)
  match ← path.metadata.toBaseIO with
  | .error _ => return []
  | .ok metadata =>
    match metadata.type with
    | .dir => return [(l, .folder)]
    | .other => return [(l, .full)]
    | _ =>
      match ← (IO.FS.readBinFile path).toBaseIO with
      | .ok content => return [(l, .file content)]
      | .error _ => return [(l, .full)]

/-- The locations on the way along names, and the last one. -/
def wayAlong (l : Location) : List String → List Location
  | [] => [l]
  | name :: rest => l :: wayAlong (Disk.follow l name) rest

/-- The part of the disk that paths lead through. -/
def look (paths : List Path) : IO Disk := do
  let here := (Path.ofText (← IO.currentDir).toString).steps
  let blank : Disk := ⟨here, [], []⟩
  let locations := paths.flatMap fun p => wayAlong (blank.origin p) p.steps
  let found ← (here :: locations).eraseDups.mapM entryAt
  return { blank with entries := found.flatten }

def perform : Disk.Action → IO (Except DiskError Unit)
  | .makeFolders p => attempt (if p.isEmpty then pure () else IO.FS.createDirAll p.text)
  | .write p content => attempt (IO.FS.writeBinFile p.text content)
  | .rename source target => attempt (IO.FS.rename source.text target.text)

/-! ## The system as a world -/

structure Journal where
  handle : IO.FS.Handle
  selection : Log.Selection

/-- What the program runs in. There is no log before it is opened. -/
abbrev System := StateT (Option Journal) IO

instance : HasDisk System where
  look paths := look paths
  perform action := perform action

instance : HasTerminal System where
  present text := do
    let stdout ← IO.getStdout
    match ← (do stdout.putStr text; stdout.flush : IO Unit).toBaseIO with
    | .ok () => return true
    | .error _ => return false
  hear := do
    match ← (do (← IO.getStdin).getLine : IO String).toBaseIO with
    | .error _ => return some none
    | .ok "" => return none
    | .ok line => return some (Text.textLines line).head?

instance : HasLog System where
  openLog file selection := do
    match ← (IO.FS.Handle.mk file.text .append).toBaseIO with
    | .ok handle =>
      set (some (⟨handle, selection⟩ : Journal))
      return .ok ()
    | .error e => return .error (cause e)
  note entries := do
    if let some journal := (← get) then
      for e in entries.filter journal.selection.passes do
        discard <| (journal.handle.putStr e.line).toBaseIO
      discard <| journal.handle.flush.toBaseIO
  complain text := IO.eprint text

/-- Rounds until the conversation has come to its end. -/
partial def rounds (s : Session) : System (Ending × Session) := do
  match ← s.continueM fun round => HasLog.note (Log.round round) with
  | .error ended => return ended
  | .ok s => rounds s

def environment : IO Environment := do
  let names := ["HOME", "MIKE_DATA", "MIKE_CONFIG", "XDG_DATA_HOME", "XDG_CONFIG_HOME", "RUST_LOG",
    "MIKE_LOGLEVEL"]
  let found ← names.mapM fun name => do return (← IO.getEnv name).map fun value => (name, value)
  return found.filterMap id

end Taskbook.CommandLine

open Taskbook CommandLine in
def main (args : List String) : IO UInt32 := do
  let (exitCode, _) ← (Program.runM rounds args (← environment)).run none
  return exitCode.toUInt32
