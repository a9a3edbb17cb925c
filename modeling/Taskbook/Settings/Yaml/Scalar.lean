import Taskbook.Settings.Quote
import Taskbook.Settings.Yaml.Place
import Taskbook.Text.Split

/-! Single values in YAML: plain texts, texts between quotes, blocks of lines, and what plain texts
mean. -/

set_option autoImplicit false

namespace Taskbook.Settings.Yaml

/-- What stands between two words of a text. -/
structure Gap where
  /-- The blanks in front of the first line's end. -/
  blanks : List Char
  /-- How many lines end. -/
  breaks : Nat
  /-- Whether the lines are joined without a blank. -/
  isJoined : Bool
  /-- Whether a tab stands where the last line has to be indented. -/
  hasTab : Bool
  deriving DecidableEq, Repr

namespace Gap

def none : Gap := ⟨[], 0, false, false⟩

def joint : Gap := ⟨[], 0, true, false⟩

def isLong (g : Gap) : Bool := g.isJoined || g.breaks != 0

def endLine (g : Gap) : Gap := { g with breaks := g.breaks + 1, hasTab := false }

def push (low column : Nat) (c : Char) (g : Gap) : Gap :=
  if g.isLong then { g with hasTab := g.hasTab || c == '\t' && column < low }
  else { g with blanks := g.blanks ++ [c] }

/-- What the gap leaves in the text: the end of one line is a space, and each line left empty ends
with a line break. -/
def text (g : Gap) : List Char :=
  if g.isJoined then List.replicate g.breaks '\n'
  else
    match g.breaks with
    | 0 => g.blanks
    | 1 => [' ']
    | n + 1 => List.replicate n '\n'

end Gap

def isColon (inBrackets : Bool) : List Char → Bool
  | ':' :: rest => startsBlank rest || inBrackets && startsWithMark rest
  | _ => false

/-- Whether a plain text ends before a word. Outside of brackets its lines are indented. -/
def endsPlain (inBrackets : Bool) (low column : Nat) (gap : Gap) (s : List Char) : Bool :=
  isColon inBrackets s || inBrackets && startsWithMark s ||
    gap.isLong && (!inBrackets && column < low || column == 0 && isAnyBorder s)

def readPlain? (inBrackets : Bool) (low column : Nat) (gap : Gap) :
    List Char → Option (List Char × Place)
  | [] => some ([], ⟨[], column, gap.isLong⟩)
  | c :: rest =>
    if c = '\n' then readPlain? inBrackets low 0 gap.endLine rest
    else if isBlank c then readPlain? inBrackets low (column + 1) (gap.push low column c) rest
    else if c = '#' ∧ gap ≠ .none then some ([], ⟨c :: rest, column, gap.isLong⟩)
    else if gap.hasTab then none
    else if endsPlain inBrackets low column gap (c :: rest) then
      some ([], ⟨c :: rest, column, gap.isLong⟩)
    else
      (readPlain? inBrackets low (column + 1) .none rest).map fun (text, place) =>
        (gap.text ++ c :: text, place)

/-- The text up to a quote and the place behind that. The lines are joined, and escapes are left as
they stand. -/
def readQuoted? (quote : Char) (low column : Nat) (gap : Gap) :
    List Char → Option (List Char × Place)
  | [] => none
  | c :: rest =>
    let further := fun (taken : List Char) (result : Option (List Char × Place)) =>
      result.map fun (text, place) => (gap.text ++ taken ++ text, place)
    if c = '\n' then readQuoted? quote low 0 gap.endLine rest
    else if isBlank c then
      if (gap.push low column c).hasTab then none
      else readQuoted? quote low (column + 1) (gap.push low column c) rest
    else if gap.isLong ∧ (column < low ∨ column = 0 ∧ isAnyBorder (c :: rest) = true) then none
    else if c = quote then
      match rest with
      | '\'' :: rest =>
        if quote = '\'' then further [c] (readQuoted? quote low (column + 2) .none rest)
        else some (gap.text, ⟨'\'' :: rest, column + 1, false⟩)
      | _ => some (gap.text, ⟨rest, column + 1, false⟩)
    else if c = '\\' ∧ quote = '"' then
      match rest with
      | [] => none
      | '\n' :: rest => further [] (readQuoted? quote low 0 .joint rest)
      | d :: rest => further [c, d] (readQuoted? quote low (column + 2) .none rest)
    else further [c] (readQuoted? quote low (column + 1) .none rest)

def doubleQuoting : Quoting where
  closing := ['"']
  hasEscapes := true
  letters := [('0', '\x00'), ('a', '\x07'), ('b', '\x08'), ('t', '\t'), ('\t', '\t'), ('n', '\n'),
    ('v', '\x0B'), ('f', '\x0C'), ('r', '\r'), ('e', '\x1B'), (' ', ' '), ('"', '"'), ('/', '/'),
    ('\\', '\\'), ('N', '\u0085'), ('_', '\u00A0'), ('L', '\u2028'), ('P', '\u2029')]
  numbers := [('x', 2), ('u', 4), ('U', 8)]
  hasPairs := false
  keepsOther := fun _ => false
  isPlain := fun _ => true

def quoted? (low : Nat) (p : Place) : Option (String × Place) :=
  match p.rest with
  | [] => none
  | c :: rest =>
    match readQuoted? c low (p.column + 1) .none rest with
    | none => none
    | some (raw, place) =>
      if c = '"' then (doubleQuoting.read? (raw ++ ['"'])).map fun (text, _) => (text, place)
      else some (String.ofList raw, place)

/-- What becomes of the line breaks at the end of a block. -/
inductive Chomping where
  /-- All of them are cut off. -/
  | strip
  /-- The first one is kept. -/
  | clip
  | keep
  deriving DecidableEq, Repr

/-- What the marks behind the beginning of a block say: what becomes of its end, and how far it is
indented, with zero if they do not say that. -/
def blockMarks? (marks : List Char) : Option (Chomping × Nat) :=
  match marks.filter (!·.isDigit), marks.filter Char.isDigit with
  | [], [] => some (.clip, 0)
  | [c], [] => some (if c = '-' then .strip else .keep, 0)
  | [], [d] => if d = '0' then none else some (.clip, d.toNat - '0'.toNat)
  | [c], [d] =>
    if d = '0' then none else some (if c = '-' then .strip else .keep, d.toNat - '0'.toNat)
  | _, _ => none

/-- A block without its end, and what its end is. -/
structure Block where
  text : List Char
  /-- Whether the last line ends. -/
  hasBreak : Bool
  /-- How many empty lines follow. -/
  empties : Nat
  /-- Whether the file ends within the block. -/
  isUnended : Bool
  /-- The place behind the block. -/
  place : Place

def indentation (line : List Char) : Nat := (line.takeWhile (· = ' ')).length

def joinLines (lines : List (List Char)) : List Char := ['\n'].intercalate lines

def blockJoint (isFolded hasBreak isIndented : Bool) (empties : Nat) : List Char :=
  if isFolded = true ∧ hasBreak = true ∧ isIndented = false then
    if empties = 0 then [' '] else List.replicate empties '\n'
  else List.replicate (empties + if hasBreak then 1 else 0) '\n'

/-- The block that the lines begin with. Lines that begin with a blank are not folded. -/
def readBlock (isFolded : Bool) (indent : Nat) (hasBreak wasIndented : Bool) (empties : Nat) :
    List (List Char) → Block
  | [] => ⟨[], hasBreak, empties, false, ⟨[], 0, true⟩⟩
  | line :: rest =>
    let spaces := min indent (indentation line)
    let content := line.drop spaces
    if content.isEmpty then
      if rest.isEmpty then ⟨[], hasBreak, empties, max indent 1 ≤ spaces, ⟨[], spaces, true⟩⟩
      else readBlock isFolded indent hasBreak wasIndented (empties + 1) rest
    else if spaces < indent then
      ⟨[], hasBreak, empties, false, ⟨joinLines (content :: rest), spaces, true⟩⟩
    else
      let isIndented := content.head?.any isBlank
      let joined := blockJoint isFolded hasBreak (wasIndented || isIndented) empties ++ content
      if rest.isEmpty then ⟨joined, false, 0, true, ⟨[], line.length, true⟩⟩
      else
        let block := readBlock isFolded indent true isIndented 0 rest
        { block with text := joined ++ block.text }

/-- How far a block is indented, if nothing says it: as far as its first line with a text, or an
empty line before. -/
def blockIndent (low : Nat) (lines : List (List Char)) : Nat :=
  let empties := lines.takeWhile fun line => line.all (· = ' ')
  ((lines.take (empties.length + 1)).map indentation).foldl max low

def Block.ending (b : Block) : Chomping → List Char
  | .strip => []
  | .clip => List.replicate ((if b.hasBreak then 1 else 0) + if b.isUnended then 1 else 0) '\n'
  | .keep =>
    List.replicate ((if b.hasBreak then 1 else 0) + (if b.isUnended then 1 else 0) + b.empties) '\n'

def block? (low : Nat) (p : Place) : Option (String × Place) :=
  let isFolded := p.rest.head? == some '>'
  let marks := p.rest.tail.takeWhile fun c => c.isDigit || c == '+' || c == '-'
  let header := p.rest.tail.drop marks.length
  match blockMarks? marks, Text.pieces '\n' (header.dropWhile (· ≠ '\n')).tail with
  | some (chomping, given), lines =>
    if !isOver header || lines.head?.any (fun line => line.head? == some '\t') then none
    else
      let indent := if given = 0 then blockIndent low lines else low - 1 + given
      let first := lines.find? fun line => !(line.drop (min indent (indentation line))).isEmpty
      match first with
      | none =>
        -- Only line breaks follow up to the end of the file.
        let breaks := match chomping with
          | .strip => 0
          | .clip => 1
          | .keep => max 1 (lines.length - 1)
        let breaks := if header.contains '\n' then breaks else 0
        some (String.ofList (List.replicate breaks '\n'), ⟨[], 0, true⟩)
      | some line =>
        if low ≤ indentation line ∧ indentation line < indent then none
        else
          let block := readBlock isFolded indent false false 0 lines
          some (String.ofList (block.text ++ block.ending chomping), block.place)
  | none, _ => none

/-- The whole number of 64 bits that a text is to a base, with a sign or without. -/
def signed? (base : Nat) (s : List Char) : Option Int :=
  let (sign, digits) := Numeral.takeSign s
  if digits.isEmpty then none
  else
    ((radix? base digits).map fun n => if sign = some '-' then -(n : Int) else n).filter isShort

/-- The number that a plain text is, if it is one. A plus sign may stand before another sign. -/
def number? (s : List Char) : Option Value :=
  let whole := match s with
    | '0' :: 'x' :: digits => signed? 16 digits
    | '0' :: 'o' :: digits => signed? 8 digits
    | '+' :: rest => signed? 10 rest
    | _ => signed? 10 s
  (whole.map Value.integer) <|> (Numeral.ofText? s).map Numeral.decimalValue

def refusedNames : List String :=
  let infinite := [".inf", ".Inf", ".INF"]
  infinite ++ infinite.map ("+" ++ ·) ++ infinite.map ("-" ++ ·) ++ [".nan", ".NAN"]

def plainValue? (s : List Char) : Option Value :=
  match String.ofList s with
  | "" | "~" | "null" => some .null
  | "true" => some (.boolean true)
  | "false" => some (.boolean false)
  | "NaN" => some (.notFinite "NaN")
  | text => if refusedNames.contains text then none else some ((number? s).getD (.text text))

/-- The value of a plain text that is said to be of a kind. What it cannot be is nothing. -/
def taggedValue? (kind : String) (s : List Char) : Option Value :=
  match kind with
  | "null" => some .null
  | "bool" =>
    match plainValue? s with
    | some (.boolean b) => some (.boolean b)
    | _ => some .null
  | "int" => some (((signed? 10 s).map Value.integer).getD .null)
  | "float" =>
    match plainValue? s with
    | none => none
    | some (.notFinite name) => some (.notFinite name)
    | some _ => some (((Numeral.ofText? s).map Numeral.decimalValue).getD .null)
  | _ => some (.text (String.ofList s))

end Taskbook.Settings.Yaml
