import Taskbook.Date.Order
import Taskbook.Task

/-! Lists of tasks and the views of them. Tasks are addressed by their position from 0; a view shows
that position from 1, also where it leaves tasks out. -/

set_option autoImplicit false

namespace Taskbook

/-- How a list is shown: every task, or the tasks that have a certain date, by that date. The field
is kept as it was typed. -/
inductive View where
  | all
  | byDate (field : String)
  deriving DecidableEq, Repr

inductive ViewError where
  | unknownField (field : String)
  deriving DecidableEq, Repr

def ViewError.message : ViewError → String
  | .unknownField field =>
    "'" ++ field ++ "' is not a date attribute. Try one of: " ++
      String.intercalate ", " (DateField.all.map DateField.name) ++ "."

def countText (n : Nat) : String :=
  if n = 1 then "1 task" else toString n ++ " tasks"

abbrev TaskList := List Task

namespace TaskList

variable [Text.HasCollation]

structure Dated where
  index : Nat
  task : Task
  date : String
  deriving DecidableEq, Repr

/-- The tasks that have a date in the field, in the order of the list. -/
def dated (tasks : TaskList) (field : DateField) : List Dated :=
  tasks.zipIdx.filterMap fun (task, index) => (task.date? field).map fun date => ⟨index, task, date⟩

/-- The tasks that have a date in the field, by that date, with the order of texts that is given;
tasks with equal dates keep their order. -/
def sortedBy (texts : Text.Collation) (tasks : TaskList) (field : DateField) : List Dated :=
  (tasks.dated field).mergeSort fun a b => Date.compareTypedBy texts a.date b.date != .gt

def sortedByDate : TaskList → DateField → List Dated := sortedBy Text.collation

def entryText (index : Nat) (task : Task) : String :=
  "\n" ++ toString (index + 1) ++ ". " ++ task.render

def entriesText (entries : List (Nat × Task)) : String :=
  String.join (entries.map fun (index, task) => entryText index task)

def numbered (tasks : TaskList) : List (Nat × Task) :=
  tasks.zipIdx.map fun (task, index) => (index, task)

def numberedBy (texts : Text.Collation) (tasks : TaskList) (field : DateField) :
    List (Nat × Task) :=
  (tasks.sortedBy texts field).map fun entry => (entry.index, entry.task)

def numberedByDate : TaskList → DateField → List (Nat × Task) := numberedBy Text.collation

/-- The text of a view. It begins with a line break, so that it can follow a heading. -/
def view (tasks : TaskList) : View → Except ViewError String
  | .all => .ok (entriesText tasks.numbered)
  | .byDate name =>
    match DateField.ofName? name with
    | none => .error (.unknownField name)
    | some field =>
      let entries := tasks.numberedByDate field
      if entries.isEmpty then .ok ("\nNo task has a date for '" ++ field.name ++ "'.")
      else .ok (entriesText entries)

def add (tasks : TaskList) (task : Task) : TaskList := tasks ++ [task]

/-- The task at a position taken out, and the list without it. -/
def remove (tasks : TaskList) (index : Fin tasks.length) : Task × TaskList :=
  (tasks[index], tasks.eraseIdx index)

def mark (tasks : TaskList) (index : Fin tasks.length) (done : Bool) : Task × TaskList :=
  (tasks[index].mark done, tasks.set index (tasks[index].mark done))

/-- `remove` for any number; `none` where the list has no such position. -/
def remove? (tasks : TaskList) (index : Nat) : Option (Task × TaskList) :=
  if h : index < tasks.length then some (tasks.remove ⟨index, h⟩) else none

def mark? (tasks : TaskList) (index : Nat) (done : Bool) : Option (Task × TaskList) :=
  if h : index < tasks.length then some (tasks.mark ⟨index, h⟩ done) else none

end TaskList

end Taskbook
