import Taskbook.Command

/-! Carrying out a command on a list of tasks. -/

set_option autoImplicit false

namespace Taskbook

inductive ExecuteError where
  | nothingToList
  /-- There is no task to do this to. -/
  | noTasks (action : String)
  | outOfRange (size : Nat)
  | view (error : ViewError)
  deriving DecidableEq, Repr

def ExecuteError.message : ExecuteError → String
  | .nothingToList => "You have no more tasks Sulley..."
  | .noTasks action => "There are no tasks to " ++ action ++ ". Please add a task first."
  | .outOfRange size =>
    "That's suspicious. Please enter a number in the range 1-" ++ toString size ++ "."
  | .view error => error.message

namespace TaskList

def position (tasks : TaskList) (number : TaskNumber) (action : String) :
    Except ExecuteError (Fin tasks.length) :=
  if tasks.isEmpty then .error (.noTasks action)
  else if h : 1 ≤ number.value ∧ number.value ≤ tasks.length then
    .ok ⟨(number.value - 1).toNat, by omega⟩
  else .error (.outOfRange tasks.length)

def countLine (tasks : TaskList) : String :=
  "\nNow you have " ++ countText tasks.length ++ " in the list."

end TaskList

namespace Command

def farewell : String := "Bye. Put that thing back where it came from or so help me!"

private def adding (tasks : TaskList) (task : Task) : String × TaskList :=
  ("Got it. I've added this task:\n  " ++ task.render ++ (tasks.add task).countLine, tasks.add task)

private def marking (tasks : TaskList) (number : TaskNumber) (done : Bool) :
    Except ExecuteError (String × TaskList) :=
  (tasks.position number "mark").map fun index =>
    let (task, changed) := tasks.mark index done
    (task.markedText, changed)

/-- The response to a command and the list after it. A command that fails leaves the list alone. -/
def execute [Text.HasCollation] (command : Command) (tasks : TaskList) :
    Except ExecuteError (String × TaskList) :=
  match command with
  | exit => .ok (farewell, tasks)
  | list view =>
    if tasks.isEmpty then .error .nothingToList
    else
      match tasks.view view with
      | .ok text => .ok ("You and I are a team.\nHere is the task list:" ++ text, tasks)
      | .error error => .error (.view error)
  | mark number => marking tasks number true
  | unmark number => marking tasks number false
  | addTodo description => .ok (adding tasks (.todo description))
  | addDeadline description due => .ok (adding tasks (.deadline description due))
  | addEvent description start finish => .ok (adding tasks (.event description start finish))
  | delete number =>
    (tasks.position number "delete").map fun index =>
      let (task, rest) := tasks.remove index
      ("Noted. I've removed this task:\n  " ++ task.render ++ rest.countLine, rest)

end Command

end Taskbook
