import Taskbook.Task
import Taskbook.Text.Split

/-! The line on which a task is stored: its type, description, state and dates, separated by commas.
A backslash in front of a comma or of a backslash makes it part of a field; any other backslash
stands for itself. -/

set_option autoImplicit false

namespace Taskbook.Record

open Taskbook.Text

/-- A field with a backslash before each of its commas and backslashes. -/
def escape (field : List Char) : List Char :=
  field.flatMap fun c => if c = ',' ∨ c = '\\' then ['\\', c] else [c]

/-- The fields between the commas that have no backslash of their own. -/
def splitFields : List Char → List (List Char)
  | [] => [[]]
  | '\\' :: c :: rest =>
    if c = ',' ∨ c = '\\' then extendFirst c (splitFields rest)
    else extendFirst '\\' (splitFields (c :: rest))
  | c :: rest =>
    if c = ',' then [] :: splitFields rest else extendFirst c (splitFields rest)

def scheduleFields : Schedule → List String
  | .todo => []
  | .deadline due => [due]
  | .event start finish => [start, finish]

def fields (t : Task) : List String :=
  [t.type.name, t.description, if t.isDone then "true" else "false"] ++ scheduleFields t.schedule

def encode (t : Task) : String :=
  String.ofList (List.intercalate [','] ((fields t).map fun field => escape field.toList))

/-- The task of a type whose remaining fields are these; fields too many are ignored. -/
def ofFields? (type : TaskType) (fields : List String) : Option Task :=
  match type, fields with
  | .todo, description :: state :: _ => some ⟨description, state = "true", .todo⟩
  | .deadline, description :: state :: due :: _ =>
    some ⟨description, state = "true", .deadline due⟩
  | .event, description :: state :: start :: finish :: _ =>
    some ⟨description, state = "true", .event start finish⟩
  | _, _ => none

/-- The task on a line; `none` if its type is unknown or a field is missing. -/
def decode? (line : String) : Option Task :=
  match (splitFields line.toList).map String.ofList with
  | [] => none
  | name :: rest => (TaskType.ofName? name).bind fun type => ofFields? type rest

end Taskbook.Record
