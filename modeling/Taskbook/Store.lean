import Taskbook.Disk
import Taskbook.Record
import Taskbook.TaskList
import Taskbook.Text.Trim

/-! The file in which a list of tasks is kept, one task on each line.

A save is a script of changes to the disk: the folder is made, the lines are written to a file
beside the data file, and that file takes the data file's place. So the data file changes in one
step or not at all. -/

set_option autoImplicit false

namespace Taskbook

inductive ReadError where
  | disk (cause : DiskError)
  | notUtf8
  deriving DecidableEq, Repr

def ReadError.message : ReadError → String
  | .disk cause => cause.message
  | .notUtf8 => "stream did not contain valid UTF-8"

inductive LoadError where
  | folder (cause : DiskError)
  | unreadable (file : Path) (cause : ReadError)
  | corrupted
  deriving DecidableEq, Repr

namespace LoadError

def headline : LoadError → String
  | folder cause => cause.message
  | unreadable file _ => "Failed to read " ++ file.text
  | corrupted => "File corrupted. Unable to load saved data."

def message : LoadError → String
  | unreadable file cause => (unreadable file cause).headline ++ ": " ++ cause.message
  | e => e.headline

end LoadError

inductive SaveError where
  | folder (cause : DiskError)
  | unwritten (file : Path) (cause : DiskError)
  deriving DecidableEq, Repr

namespace SaveError

def headline : SaveError → String
  | folder cause => cause.message
  | unwritten file _ => "Failed to write " ++ file.text

def message : SaveError → String
  | unwritten file cause => (unwritten file cause).headline ++ ": " ++ cause.message
  | e => e.headline

def ofFailure : Disk.Action → DiskError → SaveError
  | .makeFolders _, cause => folder cause
  | .write file _, cause => unwritten file cause
  | .rename _ target, cause => unwritten target cause

end SaveError

namespace Store

def content (tasks : TaskList) : String :=
  String.join (tasks.map fun task => Record.encode task ++ "\n")

/-- The tasks on the lines that are not blank; `none` if one of them holds no task. -/
def parse? (text : String) : Option TaskList :=
  ((Text.textLines text).filter fun line => !Text.allBlank line.toList).mapM Record.decode?

def readText (d : Disk) (file : Path) : Except ReadError String :=
  match d.read file with
  | .error cause => .error (.disk cause)
  | .ok bytes =>
    match String.fromUTF8? bytes with
    | none => .error .notUtf8
    | some text => .ok text

def readTasks (d : Disk) (file : Path) : Except LoadError TaskList :=
  match readText d file with
  | .error cause => .error (.unreadable file cause)
  | .ok text =>
    match parse? text with
    | none => .error .corrupted
    | some tasks => .ok tasks

variable {m : Type → Type} [Monad m] [HasDisk m]

/-- The tasks in a file, or `none` if there is no such file; then its folder is made. -/
def loadM (file : Path) : m (Except LoadError (Option TaskList)) := do
  let d ← HasDisk.look [file]
  if d.isPresent file then return (readTasks d file).map some
  else
    match ← Disk.performAllM (file.parent?.map Disk.Action.makeFolders).toList with
    | some (_, cause) => return .error (.folder cause)
    | none => return .ok none

def load (d : Disk) (file : Path) : Except LoadError (Option TaskList) × Disk :=
  (loadM file : StateM Disk _).run d

/-- The file that is written before it takes the data file's place. -/
def draft (file : Path) : Path := file.withExtension "tmp"

/-- The changes that save a list of tasks. -/
def script (file : Path) (tasks : TaskList) : List Disk.Action :=
  (file.parent?.map Disk.Action.makeFolders).toList ++
    [.write (draft file) (content tasks).toUTF8, .rename (draft file) file]

def saveM (file : Path) (tasks : TaskList) : m (Except SaveError Unit) := do
  match ← Disk.performAllM (script file tasks) with
  | none => return .ok ()
  | some (action, cause) => return .error (.ofFailure action cause)

def save (d : Disk) (file : Path) (tasks : TaskList) : Except SaveError Unit × Disk :=
  (saveM file tasks : StateM Disk _).run d

section Run

variable {n : Type → Type} [Monad n] [LawfulMonad n]

theorem load_eq (d : Disk) (file : Path) :
    load d file =
      if d.isPresent file then
        match readText d file with
        | .error cause => (.error (.unreadable file cause), d)
        | .ok text =>
          match parse? text with
          | none => (.error .corrupted, d)
          | some tasks => (.ok (some tasks), d)
      else
        match d.performAll (file.parent?.map Disk.Action.makeFolders).toList with
        | (some (_, cause), d') => (.error (.folder cause), d')
        | (none, d') => (.ok none, d') := by
  simp only [load, loadM, StateT.run_bind, HasDisk.run_look, pure_bind]
  split
  · rw [readTasks]
    cases readText d file with
    | error cause => rfl
    | ok text => dsimp only; cases parse? text <;> rfl
  · simp only [StateT.run_bind, Disk.run_performAllM, pure_bind]
    rcases d.performAll (file.parent?.map Disk.Action.makeFolders).toList with ⟨_ | _, _⟩ <;> rfl

theorem save_eq (d : Disk) (file : Path) (tasks : TaskList) :
    save d file tasks =
      match d.performAll (script file tasks) with
      | (none, d') => (.ok (), d')
      | (some (action, cause), d') => (.error (.ofFailure action cause), d') := by
  simp only [save, saveM, StateT.run_bind, Disk.run_performAllM, pure_bind]
  rcases d.performAll (script file tasks) with ⟨_ | _, _⟩ <;> rfl

@[simp] theorem run_saveM (file : Path) (tasks : TaskList) (d : Disk) :
    (saveM file tasks : StateT Disk n _).run d = pure (save d file tasks) := by
  simp only [save_eq, saveM, StateT.run_bind, Disk.run_performAllM, pure_bind]
  rcases d.performAll (script file tasks) with ⟨_ | _, _⟩ <;> simp

end Run

end Store

end Taskbook
