import Taskbook.Settings.Quote
import Taskbook.Settings.Scan
import Taskbook.Text.Trim

/-! Settings in INI files: keys and texts, under the names of sections. -/

set_option autoImplicit false

namespace Taskbook.Settings.Ini

/-- The escapes, which count in keys and in names of sections too. -/
def escapes : Quoting where
  closing := []
  hasEscapes := true
  letters := [('0', '\x00'), ('a', '\x07'), ('b', '\x08'), ('t', '\t'), ('r', '\r'), ('n', '\n')]
  numbers := [('x', 4)]
  hasPairs := false
  keepsOther := fun _ => true
  isPlain := fun _ => true

/-- The text up to a character that ends it, and the rest from that character on. The end of the
file ends a text only where it may. A line break after a backslash is left out; a backslash with
nothing behind it stands for itself. -/
def readUntil? (isEnd : Char → Bool) (endsWithFile : Bool) (s : List Char) :
    Option (List Char × List Char) :=
  match s with
  | [] => if endsWithFile then some ([], []) else none
  | c :: rest =>
    if isEnd c then some ([], c :: rest)
    else if c = '\\' then
      if rest.isEmpty then if endsWithFile then some ([c], []) else none
      else if rest.head? = some '\n' then readUntil? isEnd endsWithFile rest.tail
      else
        match escapes.escape? rest with
        | none => none
        | some (n, taken) =>
          match charOfNat? n, readUntil? isEnd endsWithFile (rest.drop taken) with
          | some c, some (text, rest) => some (c :: text, rest)
          | _, _ => none
    else (readUntil? isEnd endsWithFile rest).map fun (text, rest) => (c :: text, rest)
termination_by s.length
decreasing_by all_goals simp; try omega

private theorem length_le_of_readUntil? {isEnd : Char → Bool} {endsWithFile : Bool}
    {s text rest : List Char} (h : readUntil? isEnd endsWithFile s = some (text, rest)) :
    rest.length ≤ s.length := by
  fun_induction readUntil? isEnd endsWithFile s generalizing text rest <;>
    grind [Option.map_eq_some_iff]

def isBreak (c : Char) : Bool := c == '\n' || c == '\r'

def readLine? (s : List Char) : Option (List Char × List Char) := readUntil? isBreak true s

/-- The text of a value: any texts between quotes, one right behind the other, and then the rest of
the line. -/
def readParts? (s : List Char) : Option (List Char × List Char) :=
  match s with
  | [] => some ([], [])
  | c :: rest =>
    if c = '"' ∨ c = '\'' then
      match h : readUntil? (· = c) false rest with
      | none => none
      | some (quoted, rest) =>
        have := length_le_of_readUntil? h
        (readParts? rest.tail).map fun (text, rest) => (quoted ++ text, rest)
    else (readLine? (c :: rest)).map fun (text, rest) => (Text.trimEnd text, rest)
termination_by s.length
decreasing_by simp; omega

def readValue? (s : List Char) : Option (List Char × List Char) :=
  match s.dropWhile fun c => Text.isBlank c && !isBreak c with
  | [] => some ([], [])
  | c :: rest =>
    if c = '"' ∨ c = '\'' then readParts? (c :: rest)
    else (readLine? (c :: rest)).map fun (text, rest) => (Text.trim text, rest)

inductive Line where
  | nothing
  | header (name : String)
  | entry (key text : String)

def trimmed (s : List Char) : String := String.ofList (Text.trim s)

def isComment (s : List Char) : Bool := s.head?.any fun c => c == '#' || c == ';'

/-- What the text begins with, and the rest of it. A comment begins where a line does. -/
def line? : List Char → Option (Line × List Char)
  | [] => none
  | c :: rest =>
    if Text.isBlank c then if c ≠ '\n' ∧ isComment rest then none else some (.nothing, rest)
    else if isComment (c :: rest) then some (.nothing, rest.dropWhile fun c => c ≠ '\n')
    else if c = '[' then
      match readUntil? (· = ']') false rest with
      | none => none
      | some (name, rest) =>
        if isComment rest.tail then none else some (.header (trimmed name), rest.tail)
    else if c = '=' ∨ c = ':' then none
    else
      match readUntil? (fun c => c = '=' ∨ c = ':') false (c :: rest) with
      | none => none
      | some (key, rest) =>
        (readValue? rest.tail).map fun (value, rest) =>
          (.entry (trimmed key) (String.ofList value), rest)

/-- The settings before the first header, and a nested value for each header. -/
def settings : List Line → List (String × Value)
  | [] => []
  | .nothing :: rest => settings rest
  | .entry key text :: rest => (key, .text text) :: settings rest
  | .header name :: rest =>
    (name, .nested) :: rest.filterMap fun
      | .header name => some (name, .nested)
      | _ => none

def parse? (s : List Char) : Option Entries :=
  (readAll line? s).map fun lines => (settings lines).reverse

end Taskbook.Settings.Ini
