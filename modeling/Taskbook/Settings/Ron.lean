import Taskbook.Settings.Quote
import Taskbook.Settings.Value
import Taskbook.Text.Class
import Taskbook.Text.Split

/-! Settings in RON: fields in parentheses, or keys and values in braces. -/

set_option autoImplicit false

namespace Taskbook.Settings.Ron

inductive Tree where
  | scalar (v : Value)
  /-- The keys and values, the latest first. -/
  | table (entries : Entries)

def Tree.value : Tree → Value
  | scalar v => v
  | table _ => .nested

def isBlank (c : Char) : Bool :=
  [' ', '\t', '\n', '\r', '\x0B', '\x0C', '\u0085', '\u200E', '\u200F', '\u2028',
    '\u2029'].contains c

/-- What follows whitespace and comments. A comment between slashes with stars can hold others. -/
def seek? (depth : Nat) (inLine : Bool) : List Char → Option (List Char)
  | [] => if depth = 0 then some [] else none
  | '/' :: '*' :: rest => seek? (if inLine then depth else depth + 1) inLine rest
  | '*' :: '/' :: rest =>
    if depth = 0 ∧ inLine = false then some ('*' :: '/' :: rest) else seek? (depth - 1) inLine rest
  | '/' :: '/' :: rest => seek? depth (depth == 0) rest
  | c :: rest =>
    if c = '\n' then seek? depth false rest
    else if inLine = true ∨ 0 < depth ∨ isBlank c = true then seek? depth inLine rest
    else some (c :: rest)

def next? (s : List Char) : Option (List Char) := seek? 0 false s

def mark? (c : Char) (s : List Char) : Option (List Char) :=
  match next? s with
  | some (d :: rest) => if d = c then next? rest else none
  | _ => none

def textQuoting (quote : Char) : Quoting where
  closing := [quote]
  hasEscapes := true
  letters := [('\'', '\''), ('"', '"'), ('\\', '\\'), ('n', '\n'), ('r', '\r'), ('t', '\t'),
    ('0', '\x00')]
  numbers := [('x', 2), ('u', 0)]
  hasPairs := false
  keepsOther := fun _ => false
  isPlain := fun _ => true

/-- The text between quotes that the characters begin with. A text without escapes has an `r` in
front, and as many hashes before and behind as it needs. -/
def quote? : List Char → Option (String × List Char)
  | '"' :: rest => (textQuoting '"').read? rest
  | '\'' :: rest => ((textQuoting '\'').read? rest).filter fun (text, _) => text.length == 1
  | 'r' :: rest =>
    let hashes := rest.takeWhile (· = '#')
    match rest.drop hashes.length with
    | '"' :: rest => (Quoting.literal ('"' :: hashes) fun _ => true).read? rest
    | _ => none
  | _ => none

def name? (s : List Char) : Option (String × List Char) :=
  if s.head?.any fun c => Text.isLetter c || c == '_' then
    some (String.ofList (s.takeWhile Text.isNameChar), s.dropWhile Text.isNameChar)
  else none

def field? (s : List Char) : Option (String × List Char) :=
  match name? s with
  | none => none
  | some (name, rest) => (mark? ':' rest).map fun rest => (name, rest)

def isNumberChar (c : Char) : Bool := c.isAlphanum || ['+', '-', '.', '_'].contains c

/-- The number that a text is. Beyond 64 bits it is a decimal one. -/
def number? (s : List Char) : Option Value :=
  let (sign, digits) := Numeral.takeSign s
  let signed := fun (n : Nat) => if sign = some '-' then -(n : Int) else n
  let whole := fun (base : Nat) (digits : List Char) =>
    let digits := digits.filter (· ≠ '_')
    if digits.isEmpty then none else ((radix? base digits).map signed).map Value.integer
  match digits with
  | '_' :: _ => none
  | '0' :: 'x' :: rest => whole 16 rest
  | '0' :: 'o' :: rest => whole 8 rest
  | '0' :: 'b' :: rest => whole 2 rest
  | ['i', 'n', 'f'] => some (.notFinite (if sign = some '-' then "-inf" else "inf"))
  | ['N', 'a', 'N'] => some (.notFinite "NaN")
  | _ =>
    (Numeral.ofText? (s.filter (· ≠ '_'))).map fun n =>
      let k := signed n.mantissa
      if n.isInteger && -9223372036854775808 ≤ k && k < 18446744073709551616 then .integer k
      else n.decimalValue

mutual

/-- The value that a text begins with, and what follows it. A name alone is nothing. -/
def tree? (fuel : Nat) (s : List Char) : Option (Tree × List Char) :=
  match fuel, s with
  | 0, _ | _, [] => none
  | fuel + 1, c :: rest =>
    match quote? s with
    | some (text, rest) => some (.scalar (.text text), rest)
    | none =>
      if c = '[' then (next? rest).bind (elements? fuel ']')
      else if c = '\x7b' then (next? rest).bind (entries? fuel false [])
      else if c = '(' then
        if rest.head? = some ')' then some (.scalar .null, rest.tail)
        else (next? rest).bind (group? fuel)
      else if c.isDigit || ['+', '-', '.'].contains c then
        (number? (s.takeWhile isNumberChar)).map fun v =>
          (.scalar v, s.dropWhile isNumberChar)
      else
        match name? s with
        | none => none
        | some ("true", rest) => some (.scalar (.boolean true), rest)
        | some ("false", rest) => some (.scalar (.boolean false), rest)
        | some ("None", rest) => some (.scalar .null, rest)
        | some ("inf", rest) => some (.scalar (.notFinite "inf"), rest)
        | some ("NaN", rest) => some (.scalar (.notFinite "NaN"), rest)
        | some ("Some", rest) => do
          let (tree, rest) ← tree? fuel (← mark? '(' rest)
          let rest ← next? rest
          let rest := if rest.head? = some ',' then rest.tail else rest
          (mark? ')' rest).map fun rest => (tree, rest)
        | some (_, rest) => do
          let rest ← next? rest
          if rest.head? = some '(' then (next? rest.tail).bind (group? fuel)
          else some (.scalar .null, rest)

def group? (fuel : Nat) (s : List Char) : Option (Tree × List Char) :=
  match fuel with
  | 0 => none
  | fuel + 1 => if (field? s).isSome then entries? fuel true [] s else elements? fuel ')' s

def elements? (fuel : Nat) (closing : Char) (s : List Char) : Option (Tree × List Char) :=
  match fuel with
  | 0 => none
  | fuel + 1 => do
    if s.head? = some closing then some (.scalar .nested, s.tail)
    else
      let (_, rest) ← tree? fuel s
      match ← next? rest with
      | ',' :: rest => elements? fuel closing (← next? rest)
      | c :: rest => if c = closing then some (.scalar .nested, rest) else none
      | [] => none

/-- The fields up to the closing parenthesis, or the keys and values up to the closing brace, and
what follows it. A key in braces is a text. -/
def entries? (fuel : Nat) (areFields : Bool) (entries : Entries) (s : List Char) :
    Option (Tree × List Char) :=
  match fuel with
  | 0 => none
  | fuel + 1 => do
    let closing := if areFields then ')' else '\x7d'
    if s.head? = some closing then some (.table entries, s.tail)
    else
      let (key, rest) ←
        if areFields then field? s
        else
          match ← tree? fuel s with
          | (.scalar (.text key), rest) => (mark? ':' rest).map fun rest => (key, rest)
          | _ => none
      let (value, rest) ← tree? fuel rest
      let entries := (key, value.value) :: entries
      match ← next? rest with
      | ',' :: rest => entries? fuel areFields entries (← next? rest)
      | c :: rest => if c = closing then some (.table entries, rest) else none
      | [] => none

end

def extensions : List String :=
  ["unwrap_newtypes", "implicit_some", "unwrap_variant_newtypes", "explicit_struct_names"]

/-- What follows the lines in which a file allows itself something. -/
def skipExtensions? (fuel : Nat) (s : List Char) : Option (List Char) :=
  match fuel, s with
  | fuel + 1, '#' :: _ =>
    let line := (s.takeWhile (· ≠ ']')).filter fun c => !isBlank c
    let names := Text.pieces ',' ((line.drop "#![enable(".length).dropLast)
    if "#![enable(".toList.isPrefixOf line && line.getLast? == some ')' &&
        names.all fun name => extensions.contains (String.ofList name) then
      (next? (s.dropWhile (· ≠ ']')).tail).bind (skipExtensions? fuel)
    else none
  | _, _ => some s

def parse? (s : List Char) : Option Entries := do
  let rest ← skipExtensions? s.length (← next? s)
  let (tree, rest) ← tree? (4 * s.length + 4) rest
  match tree, ← next? rest with
  | .table entries, [] => some entries
  | _, _ => none

end Taskbook.Settings.Ron
