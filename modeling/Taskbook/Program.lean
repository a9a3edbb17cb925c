import Taskbook.Invocation
import Taskbook.Log.Program
import Taskbook.Settings.Defaults
import Taskbook.Settings.Formats
import Taskbook.Text.Lexical

/-! The program: from arguments, environment, disk and standard input to what it shows, changes and
logs, and the code it exits with. -/

set_option autoImplicit false

namespace Taskbook

/-- A world with a log and with a place for complaints. -/
class HasLog (m : Type → Type) where
  /-- Opens a file as the log, where entries are noted that the rules let through. -/
  openLog : Path → Log.Selection → m (Except DiskError Unit)
  note : List Log.Entry → m Unit
  complain : String → m Unit

namespace Program

def versionText (folders : Folders) : String :=
  "mike-cli 0.3.0\n\nAuthors: ningc\n\nConfig directory: " ++ folders.config.text ++
    "\nData directory: " ++ folders.data.text ++ "\n"

def helpText : String :=
  "Usage: mike [OPTIONS] [COMMAND]\n\nCommands:\n" ++
    "  generate-config [PATH]        Generates new configuration files from the default ones\n" ++
    "  generate-completions <SHELL>  Writes shell completions to STDOUT\n" ++
    "  help [COMMAND]                Prints this message\n\nOptions:\n" ++
    "  -d, --data-file <PATH>    File to store tasks in\n" ++
    "  -c, --config-path <PATH>  Use a custom config file or directory\n" ++
    "  -h, --help                Prints this message\n" ++
    "  -V, --version             Prints the version\n"

def completionText : Shell → String
  | .fish => "complete -c mike -f -a 'generate-config generate-completions help'\n"
  | .elvish =>
    "set edit:completion:arg-completer[mike] = \x7b|@words| " ++
      "put generate-config generate-completions help \x7d\n"
  | .powershell =>
    "Register-ArgumentCompleter -Native -CommandName mike -ScriptBlock \x7b " ++
      "'generate-config', 'generate-completions', 'help' \x7d\n"
  | .bash | .zsh => "complete -W 'generate-config generate-completions help' mike\n"

inductive Failure where
  | log (cause : DiskError)
  /-- The rules for the log could not be read to their end. -/
  | rules
  | settings (cause : Settings.Error)
  | generate (cause : Settings.GenerateError)
  | session (cause : RunError)
  /-- Output was refused where the program does not expect it. -/
  | crash
  deriving DecidableEq, Repr

def settingsFailure : Settings.Error → String
  | .unknownFormat => "configuration file is not of a registered file format"
  | .malformed => "configuration file is malformed"
  | .unsuitable => "invalid type in configuration"

def Failure.message : Failure → String
  | log cause => "Failed to open log file: " ++ cause.message
  | rules => Log.RuleError.split.message
  | settings cause => settingsFailure cause
  | generate cause => cause.message
  | session cause => cause.message
  | crash => "failed printing to stdout: " ++ DiskError.noSpace.message

section World

variable {m : Type → Type} [Monad m] [HasDisk m] [HasTerminal m] [HasLog m]

def refrainM (folders : Folders) : Refrain → m Nat
  | .help => do
    let _ ← HasTerminal.present helpText
    return 0
  | .version => do
    let _ ← HasTerminal.present (versionText folders)
    return 0
  | .misuse e => do
    HasLog.complain ("error: " ++ e.message ++ "\n")
    return 2

def startLogM (env : Environment) (folders : Folders) : m (Option Failure) := do
  match ← HasDisk.perform (.makeFolders folders.data) with
  | .error e => return some (.log e)
  | .ok () =>
    let selection := Log.Selection.ofEnvironment env
    match ← HasLog.openLog folders.logFile selection with
    | .error e => return some (.log e)
    | .ok () =>
      HasLog.complain selection.complaints
      if selection.isBroken then return some .rules
      else
        HasLog.note [Log.opened folders]
        return none

def crashM : m (Option Failure) := do
  HasLog.note [Log.crashed Failure.crash.message]
  return some .crash

def generateConfigM (folder : Path) : m (Option Failure) := do
  match ← Settings.generateM folder with
  | .done => return none
  | .failed e => return some (.generate e)
  | .unwritable => crashM

def generateCompletionsM (shell : Shell) : m (Option Failure) := do
  if ← HasTerminal.present (completionText shell) then return none else crashM

def holdM (rounds : Session → m (Ending × Session)) (folders : Folders) (choices : Choices) :
    m (Option Failure) := do
  let d ← HasDisk.look (Settings.lookups (Settings.configPath folders choices))
  HasLog.note (Log.settings d folders choices)
  match Settings.load d folders choices with
  | .error e => return some (.settings e)
  | .ok settings =>
    HasLog.note [Log.usingFile settings.dataFile]
    let (session, loaded) ← Session.startM settings.dataFile settings.options
    HasLog.note (Log.started settings.dataFile loaded)
    if let .error e := loaded then HasLog.complain (e.headline ++ "\n")
    let parting ← session.runM rounds
    HasLog.note (Log.parted parting)
    match parting.result with
    | .ok () => return none
    | .error e => return some (.session e)

/-- Does what the command line asks for, and tells the exit code. The log is opened only if there is
something to do. -/
def runM (rounds : Session → m (Ending × Session)) (args : List String) (env : Environment) :
    m Nat := do
  let folders := Folders.ofEnvironment env
  match Invocation.ofArguments args with
  | .error r => refrainM folders r
  | .ok invocation =>
    let failure ← match ← startLogM env folders with
      | some failure => pure (some failure)
      | none =>
        match invocation.subcommand with
        | some (.generateConfig folder) =>
          generateConfigM ((folder.map Path.ofText).getD folders.config)
        | some (.generateCompletions shell) => generateCompletionsM shell
        | none => holdM rounds folders invocation.choices
    match failure with
    | none => return 0
    | some failure =>
      HasLog.complain ("Error: " ++ failure.message ++ "\n")
      return 1

end World

structure Journal where
  file : Path
  selection : Log.Selection
  /-- What stood at the path of the log after the last note. -/
  last : Option Entry
  entries : List Log.Entry

/-- Whether something else has come into the place of the log. -/
def Journal.isLost (j : Journal) (d : Disk) : Bool := d.lookup j.file != j.last

def Journal.note (j : Journal) (entries : List Log.Entry) (d : Disk) : Journal × Disk :=
  if j.isLost d then (j, d)
  else
    let passing := entries.filter j.selection.passes
    let d := d.append j.file (String.join (passing.map Log.Entry.line)).toUTF8
    ({ j with entries := j.entries ++ passing, last := d.lookup j.file }, d)

structure Scene where
  terminal : Terminal
  complaints : String
  journal : Option Journal

instance : HasTerminal (StateM Scene) where
  present text := modifyGet fun scene =>
    let (isShown, terminal) := scene.terminal.present text
    (isShown, { scene with terminal })
  hear := modifyGet fun scene =>
    let (line, terminal) := scene.terminal.hear
    (line, { scene with terminal })

instance : HasLog (StateT Disk (StateM Scene)) where
  openLog file selection := do
    match (← get).touch file with
    | (.error e, d) =>
      set d
      return .error e
    | (.ok (), d) =>
      set d
      modifyThe Scene fun scene =>
        { scene with journal := some ⟨file, selection, d.lookup file, []⟩ }
      return .ok ()
  note entries := do
    if let some journal := (← getThe Scene).journal then
      let (journal, d) := journal.note entries (← get)
      set d
      modifyThe Scene fun scene => { scene with journal := some journal }
  complain text := modifyThe Scene fun scene =>
    { scene with complaints := scene.complaints ++ text }

structure Result where
  exitCode : Nat
  disk : Disk
  sink : Sink
  /-- What was written to standard error. -/
  complaints : String
  /-- The entries of this run that stand in the log. -/
  log : List Log.Entry

/-- Runs the program on standard input. -/
def run (args : List String) (env : Environment) (d : Disk) (k : Sink) (input : ByteArray) :
    Result :=
  let lines := Text.streamLines input
  let rounds : Session → StateT Disk (StateM Scene) (Ending × Session) :=
    Session.roundsM (fun round => HasLog.note (Log.round round)) (lines.length + 1)
  let ((exitCode, d), scene) := ((runM rounds args env).run d).run ⟨⟨k, lines⟩, "", none⟩
  let log := match scene.journal with
    | some journal => if journal.isLost d then [] else journal.entries
    | none => []
  ⟨exitCode, d, scene.terminal.sink, scene.complaints, log⟩

end Program

end Taskbook
