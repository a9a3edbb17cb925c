import Taskbook.Settings.Scan
import Taskbook.Settings.Value

/-! Keys that lead into lists and tables: a name, and behind it names after dots and positions in
brackets. -/

set_option autoImplicit false

namespace Taskbook.Settings.Key

def isNameChar (c : Char) : Bool := c.isAlphanum || c == '_' || c == '-'

def dropSpaces (s : List Char) : List Char := s.dropWhile fun c => c == ' ' || c == '\t'

/-- The rest behind one step further: a dot and a name, or a position in brackets. -/
def step? : List Char → Option (Unit × List Char)
  | '.' :: rest =>
    if (rest.takeWhile isNameChar).isEmpty then none else some ((), rest.dropWhile isNameChar)
  | '[' :: rest =>
    let digits := match dropSpaces rest with
      | '-' :: digits => digits
      | digits => digits
    match (digits.takeWhile Char.isDigit).isEmpty, dropSpaces (digits.dropWhile Char.isDigit) with
    | false, ']' :: rest => some ((), rest)
    | _, _ => none
  | _ => none

def leadsOn (s : List Char) : Bool := !s.isEmpty && (readAll step? s).isSome

/-- The setting that a key and its value make. A key that leads on makes its first name a nested
value; any other key is a name as a whole. -/
def setting (key : String) (value : Value) : String × Value :=
  let name := key.toList.takeWhile isNameChar
  if !name.isEmpty && leadsOn (key.toList.dropWhile isNameChar) then (String.ofList name, .nested)
  else (key, value)

end Taskbook.Settings.Key
