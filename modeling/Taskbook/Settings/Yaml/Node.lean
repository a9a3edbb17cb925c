import Taskbook.Settings.Value
import Taskbook.Settings.Yaml.Scalar

/-! Values, lists and tables in YAML. Both lists and tables can be written on lines of their own,
where indentation tells what belongs together, and in brackets. -/

set_option autoImplicit false

namespace Taskbook.Settings.Yaml

inductive Node where
  | scalar (v : Value)
  | list
  /-- The keys and values of a table, the latest first. -/
  | table (entries : List (Value × Value))
  deriving DecidableEq, Repr

def Node.value : Node → Value
  | scalar v => v
  | list | table _ => .nested

/-- The entries with one more. Each key is given once, and it is a single value. -/
def addEntry? (entries : List (Value × Value)) (key value : Value) :
    Option (List (Value × Value)) :=
  if key = .null ∨ key = .nested ∨ (entries.lookup key).isSome = true then none
  else some ((key, value) :: entries)

structure Reading extends Place where
  /-- The values that have a name, the latest first. -/
  names : List (String × Value)
  /-- The column that nothing in brackets may stand in front of. -/
  margin : Nat
  /-- How many brackets are open. -/
  depth : Nat

/-- What can stand in front of a value: a name for it, and what it is said to be. -/
structure Properties where
  name? : Option String
  kind? : Option String
  deriving DecidableEq, Repr

namespace Properties

def none : Properties := ⟨.none, .none⟩

/-- What a tag says of a value. Every tag that is not one of the language itself makes a text. -/
def ofTag? (tag : List Char) : Option String :=
  match tag with
  | '!' :: kind => if kind.isEmpty || kind.contains '!' then .none else some (String.ofList kind)
  | '<' :: _ => if tag.getLast? = some '>' then some "" else .none
  | _ => if tag.contains '!' then .none else some ""

def value? (p : Properties) (s : List Char) : Option Value :=
  match p.kind? with
  | .none => plainValue? s
  | some kind => taggedValue? kind s

end Properties

namespace Reading

def skip (n : Nat) (r : Reading) : Reading := { r with toPlace := r.toPlace.skip n }

def seek? (low : Nat) (r : Reading) : Option Reading :=
  (r.toPlace.seek? low).map fun place => { r with toPlace := place }

def skipBlanks (r : Reading) : Reading := r.skip (r.rest.takeWhile isBlank).length

/-- The place behind one mark, which no comment may follow at once. -/
def skipMark? (r : Reading) : Option Reading :=
  if (r.skip 1).rest.head? = some '#' then none else some (r.skip 1)

def seekInside? (r : Reading) : Option Reading :=
  (r.seek? r.margin).filter fun r => !r.isEnd && r.margin ≤ r.column

def isBroken (before behind : Reading) : Bool :=
  (before.rest.take (before.rest.length - behind.rest.length)).contains '\n'

def define (p : Properties) (v : Value) (r : Reading) : Reading :=
  match p.name? with
  | none => r
  | some name => { r with names := (name, v) :: r.names }

def isAtProperty (r : Reading) : Bool := r.rest.head?.any fun c => c == '&' || c == '!'

/-- Adds one name or tag. A value has at most one of each. -/
def property? (inBrackets : Bool) (p : Properties) (r : Reading) : Option (Properties × Reading) :=
  let isWhole := ['!', '<'].isPrefixOf r.rest
  let isInWord := fun c => !isSpace c && if isWhole then c != '>' else !isMark c
  let length := (r.rest.takeWhile isInWord).length + if isWhole then 1 else 0
  let behind := r.skip length
  match r.rest.take length with
  | '&' :: name =>
    if name.isEmpty || p.name?.isSome then none
    else some ({ p with name? := some (String.ofList name) }, behind)
  | '!' :: tag =>
    if p.kind?.isSome || !(startsBlank behind.rest || inBrackets && startsWithMark behind.rest) then
      none
    else (Properties.ofTag? tag).map fun kind => ({ p with kind? := some kind }, behind)
  | _ => none

def keyProperty? (p : Properties) (r : Reading) : Option (Properties × Reading) :=
  if r.isAtProperty then (r.property? false p).map fun (p, r) => (p, r.skipBlanks) else some (p, r)

/-- The value that has a name. It takes no properties. -/
def named? (p : Properties) (r : Reading) : Option (Node × Reading) :=
  let name := r.rest.tail.takeWhile fun c => !isSpace c && !isMark c
  if p = .none then
    (r.names.lookup (String.ofList name)).map fun v => (.scalar v, r.skip (name.length + 1))
  else none

def refusesPlain (inBrackets : Bool) (r : Reading) : Bool :=
  match r.rest with
  | [] => true
  | c :: rest =>
    isMark c || ['#', '%', '@', '\x60'].contains c || !inBrackets && (c == '|' || c == '>') ||
      (c == '-' || c == '?') && startsBlank rest || isColon inBrackets r.rest ||
      inBrackets && c == '-' && startsWithMark rest

def plain? (inBrackets : Bool) (low : Nat) (p : Properties) (r : Reading) :
    Option (Node × Reading) :=
  if r.refusesPlain inBrackets || inBrackets && r.column < low then none
  else
    match readPlain? inBrackets low r.column .none r.rest with
    | none => none
    | some (text, place) =>
      (p.value? text).map fun v =>
        let margin := if inBrackets then low - 1 else r.margin
        (.scalar v, ({ r with toPlace := place, margin := margin } : Reading).define p v)

def isEnclosed (r : Reading) : Bool :=
  r.rest.head?.any fun c => ['"', '\'', '[', '\x7b'].contains c

/-- Whether the key in brackets between two places has a colon behind it. -/
def endsKey (before behind colon : Reading) : Bool :=
  colon.rest.head? == some ':' &&
    (isColon true colon.rest || before.isEnclosed && !behind.isBroken colon)

/-- What follows a colon. A tab alone does not divide a key from a word. -/
def skipColon? (r : Reading) : Option Reading :=
  let blanks := (r.skip 1).rest.takeWhile isBlank
  let next := ((r.skip 1).rest.drop blanks.length).head?
  if blanks.head? = some '\t' ∧ ' ' ∉ blanks ∧
      next.any (fun c => c.isAlphanum || c == '_' || c == '-') = true then none
  else some (r.skip 1)

end Reading

def maxDepth : Nat := 255

mutual

/-- A value that is neither a block nor on lines of its own. -/
def content? (fuel : Nat) (inBrackets : Bool) (low : Nat) (p : Properties) (r : Reading) :
    Option (Node × Reading) :=
  match fuel, r.rest with
  | 0, _ | _, [] => none
  | fuel + 1, c :: _ =>
    if c = '*' then r.named? p
    else if c = '"' ∨ c = '\'' then do
      let (text, place) ← quoted? (if inBrackets then r.margin else low) r.toPlace
      let behind := { r with toPlace := place }
      if place.rest.head? = some '#' then none
      else some (.scalar (.text text), behind.define p (.text text))
    else if c = '[' ∨ c = '\x7b' then
      if r.depth = maxDepth then none
      else do
        let opened ← r.skipMark?
        let margin := if inBrackets then r.margin else low
        let inside := { opened with margin := margin, depth := r.depth + 1 }
        let (node, behind) ←
          if c = '[' then (listRest? fuel low inside).map fun behind => (Node.list, behind)
          else (tableRest? fuel low [] inside).map fun (entries, behind) =>
            (Node.table entries, behind)
        some (node, ({ behind with depth := r.depth } : Reading).define p node.value)
    else r.plain? inBrackets low p

/-- A value in brackets, with its name and its tag. Without any text it is empty. -/
def inside? (fuel : Nat) (low : Nat) (p : Properties) (r : Reading) : Option (Node × Reading) :=
  match fuel with
  | 0 => none
  | fuel + 1 =>
    if r.isAtProperty then do
      let (p, r) ← r.property? true p
      inside? fuel low p (← r.seekInside?)
    else if p ≠ .none ∧ (startsWithMark r.rest && !r.isEnclosed || isColon true r.rest) then
      (p.value? []).map fun v => (.scalar v, r.define p v)
    else content? fuel true low p r

/-- A key in brackets with its value, which can be left out. -/
def pair? (fuel : Nat) (low : Nat) (inTable : Bool) (r : Reading) :
    Option ((Value × Value) × Reading) :=
  match fuel with
  | 0 => none
  | fuel + 1 => do
    let isMarked := r.rest.head? == some '?' && startsBlank r.rest.tail
    let before ← if isMarked then (r.skip 1).seekInside? else some r
    let (key, behind) ← inside? fuel low .none before
    let colon ← behind.seekInside?
    if before.endsKey behind colon then
      if !inTable && !isMarked && before.isBroken colon then none
      else
        let r ← (← colon.skipColon?).seekInside?
        if startsWithMark r.rest && !r.isEnclosed then some ((key.value, .null), r)
        else (inside? fuel low .none r).map fun (node, r) => ((key.value, node.value), r)
    else some ((key.value, .null), colon)

/-- What follows a list, from its bracket or one of its commas on. -/
def listRest? (fuel : Nat) (low : Nat) (r : Reading) : Option Reading :=
  match fuel with
  | 0 => none
  | fuel + 1 => do
    let r ← r.seekInside?
    if r.rest.head? = some ']' then r.skipMark?
    else
      let (_, r) ← pair? fuel low false r
      let r ← r.seekInside?
      match r.rest.head? with
      | some ',' => listRest? fuel low (← r.skipMark?)
      | some ']' => r.skipMark?
      | _ => none

def tableRest? (fuel : Nat) (low : Nat) (entries : List (Value × Value)) (r : Reading) :
    Option (List (Value × Value) × Reading) :=
  match fuel with
  | 0 => none
  | fuel + 1 => do
    let r ← r.seekInside?
    if r.rest.head? = some '\x7d' then (r.skipMark?).map fun r => (entries, r)
    else
      let ((key, value), r) ← pair? fuel low true r
      let entries ← addEntry? entries key value
      let r ← r.seekInside?
      match r.rest.head? with
      | some ',' => tableRest? fuel low entries (← r.skipMark?)
      | some '\x7d' => (r.skipMark?).map fun r => (entries, r)
      | _ => none

end

/-- The key that a line goes on with, up to its colon. -/
def key? (fuel low : Nat) (r : Reading) : Option (Value × Reading) := do
  let (p, r) ← r.keyProperty? .none
  let (p, r) ← r.keyProperty? p
  let (node, behind) ← content? fuel false low p r
  let colon := behind.skipBlanks
  if isColon false colon.rest && !r.isBroken colon then some (node.value, colon) else none

mutual

/-- A value that stands at a place, with at least `low` columns in front on each further line. -/
def node? (fuel low : Nat) (p : Properties) (r : Reading) : Option (Node × Reading) :=
  match fuel with
  | 0 => none
  | fuel + 1 =>
    let isMarkedKey := r.rest.head? == some '?' && startsBlank r.rest.tail
    if r.isOpen && isElement r.rest then do
      let r' ← elements? fuel r.column false r
      some (.list, r'.define p .nested)
    else if r.isOpen && (isMarkedKey || (key? fuel low r).isSome) then do
      let (entries, r') ← entries? fuel r.column [] r
      some (.table entries, r'.define p .nested)
    else if r.isAtProperty then do
      let (p, r) ← r.property? false p
      let r ← r.seek? low
      if r.isEnd || r.column < low then
        if r.isOpen && r.column + 1 == low && isElement r.rest && !r.isEnd then
          let r' ← elements? fuel r.column true r
          some (.list, r'.define p .nested)
        else (p.value? []).map fun v => (.scalar v, r.define p v)
      else node? fuel low p r
    else if r.rest.head?.any fun c => c == '|' || c == '>' then
      (block? low r.toPlace).map fun (text, place) =>
        (.scalar (.text text), ({ r with toPlace := place } : Reading).define p (.text text))
    else content? fuel false low p r

/-- The elements of a list on lines of their own, each behind a hyphen at the same column, and what
follows them. A list that is the value of a key can stand at the column of that key. -/
def elements? (fuel column : Nat) (isAtKey : Bool) (r : Reading) : Option Reading :=
  match fuel with
  | 0 => none
  | fuel + 1 => do
    let behind := r.skip 1
    let r ← ({ behind with isOpen := true } : Reading).seek? (column + 1)
    let r ← if r.isEnd || r.column ≤ column then some r
      else (node? fuel (column + 1) .none r).map (·.2)
    let r ← r.seek? column
    if r.isEnd || r.column < column then some r
    else if r.isOpen && r.column == column then
      if isElement r.rest then elements? fuel column isAtKey r
      else if isAtKey then some r
      else none
    else none

def valueAt? (fuel column : Nat) (r : Reading) : Option (Value × Reading) :=
  match fuel with
  | 0 => none
  | fuel + 1 => do
    let r ← r.seek? (column + 1)
    if r.isEnd then some (.null, r)
    else if column < r.column then
      (node? fuel (column + 1) .none r).map fun (node, r) => (node.value, r)
    else if r.column == column && isElement r.rest then
      (elements? fuel column true r).map fun r => (.nested, r)
    else some (.null, r)

/-- The entries of a table on lines of their own, each with its key at the same column, and what
follows them. -/
def entries? (fuel column : Nat) (entries : List (Value × Value)) (r : Reading) :
    Option (List (Value × Value) × Reading) :=
  match fuel with
  | 0 => none
  | fuel + 1 => do
    let (key, r) ← markedKey? fuel column r <|> key? fuel column r
    let isOpen := r.isOpen
    let behind ← r.skipColon?
    let (value, r) ← valueAt? fuel column { behind with isOpen := isOpen }
    let entries ← addEntry? entries key value
    let r ← r.seek? column
    if r.isEnd || r.column < column then some (entries, r)
    else if r.isOpen && r.column == column then entries? fuel column entries r
    else none

/-- A key behind a question mark, up to the colon on a line of its own. -/
def markedKey? (fuel column : Nat) (r : Reading) : Option (Value × Reading) :=
  match fuel with
  | 0 => none
  | fuel + 1 =>
    if r.rest.head? == some '?' && startsBlank r.rest.tail then do
      let behind := r.skip 1
      let r ← ({ behind with isOpen := true } : Reading).seek? (column + 1)
      if r.isEnd || r.column ≤ column then none
      else
        let (key, r) ← node? fuel (column + 1) .none r
        let r ← r.seek? column
        if r.isOpen && r.column == column && isColon false r.rest then some (key.value, r) else none
    else none

end

end Taskbook.Settings.Yaml
