import Taskbook.Command.Execute
import Taskbook.Command.Reader
import Taskbook.Store

/-! A conversation about one list of tasks, kept in one file.

Each line is considered on its own, without the disk; a save is attempted after a change, and what
came of it goes into the answer. -/

set_option autoImplicit false

namespace Taskbook

structure Session.Options where
  prompt : String
  greet : Bool
  autosave : Bool
  deriving DecidableEq, Repr

structure Session where
  tasks : TaskList
  file : Path
  options : Session.Options
  /-- Whether the list has changed since it was last saved. -/
  unsaved : Bool
  deriving DecidableEq, Repr

/-- What a line comes to: it is no command, or one that fails, or one that succeeds. -/
inductive Outcome where
  | rejected (refusal : Refusal)
  | failed (command : Command) (error : ExecuteError)
  | done (command : Command) (response : String) (tasks : TaskList)
  deriving DecidableEq, Repr

def Outcome.ofLine [Text.HasCollation] (tasks : TaskList) (line : String) : Outcome :=
  match Command.ofLine line with
  | .error refusal => .rejected refusal
  | .ok command =>
    match command.execute tasks with
    | .error error => .failed command error
    | .ok (response, changed) => .done command response changed

namespace Outcome

def text : Outcome → String
  | rejected refusal => refusal.error.message
  | failed _ error => error.message
  | done _ response _ => response

def isExit : Outcome → Bool
  | done command _ _ => command.isExit
  | _ => false

def isChange : Outcome → Bool
  | done command _ _ => command.isMutating
  | _ => false

def tasksAfter (before : TaskList) : Outcome → TaskList
  | done _ _ tasks => tasks
  | _ => before

end Outcome

/-- A line, what it came to, and what came of the save if one was attempted. -/
structure Turn where
  line : String
  outcome : Outcome
  save : Option (Except SaveError Unit)

namespace Turn

/-- The answer to the line; a save that failed is reported below it. -/
def response (t : Turn) : String :=
  match t.save with
  | some (.error e) => t.outcome.text ++ "\n" ++ e.message
  | _ => t.outcome.text

def isExit (t : Turn) : Bool := t.outcome.isExit

end Turn

namespace Session

/-- The session that begins with what was loaded; after a failure it has no tasks. -/
def ofLoaded (file : Path) (options : Options) (loaded : Except LoadError (Option TaskList)) :
    Session :=
  let tasks := match loaded with
    | .ok (some tasks) => tasks
    | _ => []
  ⟨tasks, file, options, false⟩

variable {m : Type → Type} [Monad m] [HasDisk m]

def startM (file : Path) (options : Options) :
    m (Session × Except LoadError (Option TaskList)) := do
  let loaded ← Store.loadM file
  return (ofLoaded file options loaded, loaded)

def start (d : Disk) (file : Path) (options : Options) :
    Session × Except LoadError (Option TaskList) × Disk :=
  let ((s, loaded), d) := (startM file options : StateM Disk _).run d
  (s, loaded, d)

/-- The session after a line came to something, before any save. -/
def after (s : Session) (outcome : Outcome) : Session :=
  { s with tasks := outcome.tasksAfter s.tasks, unsaved := s.unsaved || outcome.isChange }

def savesAfter (s : Session) (outcome : Outcome) : Bool := outcome.isChange && s.options.autosave

def settle (s : Session) (result : Except SaveError Unit) : Session :=
  match result with
  | .ok () => { s with unsaved := false }
  | .error _ => s

def saveM (s : Session) : m (Except SaveError Unit × Session) := do
  let result ← Store.saveM s.file s.tasks
  return (result, s.settle result)

def save (s : Session) (d : Disk) : Except SaveError Unit × Session × Disk :=
  let ((result, s), d) := (s.saveM : StateM Disk _).run d
  (result, s, d)

def answerM [Text.HasCollation] (s : Session) (line : String) : m (Turn × Session) := do
  let outcome := Outcome.ofLine s.tasks line
  if s.savesAfter outcome then
    let (result, s) ← (s.after outcome).saveM
    return (⟨line, outcome, some result⟩, s)
  else return (⟨line, outcome, none⟩, s.after outcome)

def handleLine [Text.HasCollation] (s : Session) (d : Disk) (line : String) :
    Turn × Session × Disk :=
  let ((turn, s), d) := (s.answerM line : StateM Disk _).run d
  (turn, s, d)

section Run

variable {n : Type → Type} [Monad n] [LawfulMonad n]

theorem start_eq (d : Disk) (file : Path) (options : Options) :
    start d file options =
      let (loaded, d) := Store.load d file
      (ofLoaded file options loaded, loaded, d) := rfl

theorem save_eq (s : Session) (d : Disk) :
    s.save d =
      let (result, d) := Store.save d s.file s.tasks
      (result, s.settle result, d) := rfl

@[simp] theorem run_saveM (s : Session) (d : Disk) :
    (s.saveM : StateT Disk n _).run d =
      pure (((s.save d).1, (s.save d).2.1), (s.save d).2.2) := by
  simp [saveM, save_eq]

theorem handleLine_eq [Text.HasCollation] (s : Session) (d : Disk) (line : String) :
    s.handleLine d line =
      let outcome := Outcome.ofLine s.tasks line
      if s.savesAfter outcome then
        let (result, s, d) := (s.after outcome).save d
        (⟨line, outcome, some result⟩, s, d)
      else (⟨line, outcome, none⟩, s.after outcome, d) := by
  cases saves : s.savesAfter (Outcome.ofLine s.tasks line) <;> simp only [handleLine, answerM, saves]
  all_goals rfl

@[simp] theorem run_answerM [Text.HasCollation] (s : Session) (line : String) (d : Disk) :
    (s.answerM line : StateT Disk n _).run d =
      pure (((s.handleLine d line).1, (s.handleLine d line).2.1), (s.handleLine d line).2.2) := by
  simp only [handleLine_eq, answerM]
  split <;> simp

end Run

end Session

end Taskbook
