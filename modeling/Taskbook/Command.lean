import Taskbook.Date.Reading
import Taskbook.TaskList
import Taskbook.Text.Quoted

/-! Commands: what a user can ask for. -/

set_option autoImplicit false

namespace Taskbook

/-- A task's number in a command: a signed number of 32 bits, counted from 1 but not yet held
against a list. -/
structure TaskNumber where
  value : Int
  least : -2147483648 ≤ value
  greatest : value < 2147483648
  deriving DecidableEq, Repr

namespace TaskNumber

def ofInt? (n : Int) : Option TaskNumber :=
  if h : -2147483648 ≤ n ∧ n < 2147483648 then some ⟨n, h.1, h.2⟩ else none

/-- The number that a text spells: at most one sign and then ASCII digits only. -/
def integer? (s : List Char) : Option Int :=
  let natural? (digits : List Char) : Option Nat :=
    if !digits.isEmpty && digits.all Char.isDigit then some (Date.decimal digits) else none
  match s with
  | '-' :: digits => (natural? digits).map fun n => -(n : Int)
  | '+' :: digits => (natural? digits).map Int.ofNat
  | digits => (natural? digits).map Int.ofNat

/-- The task number that a text spells; numbers of more than 32 bits are none. -/
def ofText? (text : String) : Option TaskNumber :=
  (integer? text.toList).bind ofInt?

def text (n : TaskNumber) : String := toString n.value

end TaskNumber

inductive Command where
  | exit
  | list (view : View)
  | mark (number : TaskNumber)
  | unmark (number : TaskNumber)
  | addTodo (description : String)
  | addDeadline (description due : String)
  | addEvent (description start finish : String)
  | delete (number : TaskNumber)
  deriving DecidableEq, Repr

namespace Command

def isExit : Command → Bool
  | exit => true
  | _ => false

def isMutating : Command → Bool
  | exit | list _ => false
  | _ => true

def showRecord (name : String) (parts : List (String × String)) : String :=
  let shown := parts.map fun (part, value) => part ++ ": " ++ value
  name ++ " \x7b " ++ String.intercalate ", " shown ++ " \x7d"

def showView : View → String
  | .all => "All"
  | .byDate field => showRecord "Date" [("attribute", Text.quoted field)]

def shown : Command → String
  | exit => "Exit"
  | list view => "List(" ++ showView view ++ ")"
  | mark n => showRecord "Mark" [("task_number", n.text)]
  | unmark n => showRecord "Unmark" [("task_number", n.text)]
  | addTodo description => showRecord "AddTodo" [("description", Text.quoted description)]
  | addDeadline description due =>
    showRecord "AddDeadline"
      [("description", Text.quoted description), ("deadline", Text.quoted due)]
  | addEvent description start finish =>
    showRecord "AddEvent"
      [("description", Text.quoted description), ("start_date", Text.quoted start),
        ("end_date", Text.quoted finish)]
  | delete n => showRecord "Delete" [("task_number", n.text)]

end Command

end Taskbook
