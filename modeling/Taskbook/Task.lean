/-! Tasks: a description, whether it is done, and the dates of its type. Dates are kept as they were
typed. -/

set_option autoImplicit false

namespace Taskbook

inductive TaskType where
  | todo
  | deadline
  | event
  deriving DecidableEq, Repr

namespace TaskType

def name : TaskType → String
  | .todo => "Todo"
  | .deadline => "Deadline"
  | .event => "Event"

def ofName? (name : String) : Option TaskType :=
  [todo, deadline, event].find? fun type => type.name = name

def letter : TaskType → String
  | .todo => "T"
  | .deadline => "D"
  | .event => "E"

end TaskType

/-- The dates by which a list of tasks can be viewed. -/
inductive DateField where
  | due
  | start
  | finish
  deriving DecidableEq, Repr

namespace DateField

def name : DateField → String
  | .due => "due"
  | .start => "start"
  | .finish => "end"

/-- The parameter that gives this date in a command; it is accepted as a name too. -/
def parameterName : DateField → String
  | .due => "by"
  | .start => "from"
  | .finish => "to"

def all : List DateField := [due, start, finish]

def ofName? (name : String) : Option DateField :=
  all.find? fun field => field.name = name || field.parameterName = name

end DateField

inductive Schedule where
  | todo
  | deadline (due : String)
  | event (start finish : String)
  deriving DecidableEq, Repr

structure Task where
  description : String
  isDone : Bool
  schedule : Schedule
  deriving DecidableEq, Repr

namespace Task

def todo (description : String) : Task := ⟨description, false, .todo⟩

def deadline (description due : String) : Task := ⟨description, false, .deadline due⟩

def event (description start finish : String) : Task := ⟨description, false, .event start finish⟩

def type (t : Task) : TaskType :=
  match t.schedule with
  | .todo => .todo
  | .deadline _ => .deadline
  | .event _ _ => .event

def date? (t : Task) (field : DateField) : Option String :=
  match t.schedule, field with
  | .deadline due, .due => some due
  | .event start _, .start => some start
  | .event _ finish, .finish => some finish
  | _, _ => none

def mark (t : Task) (done : Bool) : Task := { t with isDone := done }

/-- The dates of a task in brackets, after a space; nothing for a task without dates. -/
def renderSchedule : Schedule → String
  | .todo => ""
  | .deadline due => " (by: " ++ due ++ ")"
  | .event start finish => " (from: " ++ start ++ " to: " ++ finish ++ ")"

/-- A task on one line: its type, an X if it is done, its description and its dates. -/
def render (t : Task) : String :=
  "[" ++ t.type.letter ++ "][" ++ (if t.isDone then "X" else " ") ++ "] " ++ t.description ++
    renderSchedule t.schedule

def markedText (t : Task) : String :=
  (if t.isDone then "Nice! I've marked this task as done:\n  "
    else "OK, I've marked this task as not done yet:\n  ") ++ t.render

end Task

end Taskbook
