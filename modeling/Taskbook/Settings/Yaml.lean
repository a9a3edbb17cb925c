import Taskbook.Settings.Yaml.Node

/-! Settings in YAML: a file with one document, which is a table. -/

set_option autoImplicit false

namespace Taskbook.Settings.Yaml

def unifyBreaks : List Char → List Char
  | '\r' :: '\n' :: rest | '\r' :: rest => '\n' :: unifyBreaks rest
  | c :: rest => c :: unifyBreaks rest
  | [] => []

/-- Whether a line ends a document and says nothing more. -/
def isEnding (line : List Char) : Bool := isBorder '.' line && isOver (line.drop 3)

/-- Whether a line speaks about the file. A version has two numbers. -/
def isDirective (line : List Char) : Bool :=
  match line with
  | '%' :: rest =>
    let name := rest.takeWhile fun c => !isBlank c
    let version := (dropBlanks (rest.drop name.length)).takeWhile fun c => !isBlank c
    !name.isEmpty && (name != "YAML".toList ||
      match Text.pieces '.' version with
      | [major, minor] => [major, minor].all fun n => !n.isEmpty && n.all Char.isDigit
      | _ => false)
  | _ => false

def document? (p : Place) : Option Entries := do
  let fuel := 8 * p.rest.length + 8
  let r ← (⟨p, [], 0, 0⟩ : Reading).seek? 0
  if r.isEnd then none
  else
    let (node, r) ← node? fuel 0 .none r
    let r ← r.seek? 0
    let isLast := (Text.pieces '\n' r.rest).all fun line => isIdle line || isEnding line
    match node with
    | .table entries =>
      if r.isEnd && isLast then
        some (entries.filterMap fun (key, value) => key.asText?.map fun key => (key, value))
      else none
    | _ => none

/-- The table that a text makes. A text that says nothing makes the empty one. -/
def parse? (s : List Char) : Option Entries :=
  let lines := Text.pieces '\n' (unifyBreaks (s.takeWhile (· ≠ '\x00')))
  let lines := lines.dropWhile fun line => isIdle line || isEnding line
  let body := lines.dropWhile fun line => isIdle line || isDirective line
  match body with
  | [] => if lines.isEmpty then some [] else none
  | first :: _ =>
    if isBorder '-' first then document? ⟨(joinLines body).drop 3, 3, false⟩
    else if body.length = lines.length then document? ⟨joinLines body, 0, true⟩
    else none

end Taskbook.Settings.Yaml
