/-! Places in a text in YAML, where it counts how far a line is indented. -/

set_option autoImplicit false

namespace Taskbook.Settings.Yaml

def isBlank (c : Char) : Bool := c == ' ' || c == '\t'

def dropBlanks (s : List Char) : List Char := s.dropWhile isBlank

def isSpace (c : Char) : Bool := isBlank c || c == '\n'

def startsBlank (s : List Char) : Bool := s.head?.all isSpace

/-- The brackets and the comma. They are marks within brackets. -/
def isMark (c : Char) : Bool := [',', '[', ']', '\x7b', '\x7d'].contains c

def startsWithMark (s : List Char) : Bool := s.head?.any isMark

def isOver (line : List Char) : Bool :=
  startsBlank line && (dropBlanks line).head?.all fun c => c == '\n' || c == '#'

def isIdle (line : List Char) : Bool := (dropBlanks line).head?.all (· == '#')

/-- Whether a line begins with three of a character that stand for themselves. -/
def isBorder (c : Char) (line : List Char) : Bool :=
  [c, c, c].isPrefixOf line && startsBlank (line.drop 3)

def isAnyBorder (line : List Char) : Bool := isBorder '-' line || isBorder '.' line

def isElement : List Char → Bool
  | '-' :: rest => startsBlank rest
  | _ => false

structure Place where
  rest : List Char
  /-- How many characters of the line stand before the place. -/
  column : Nat
  /-- Whether a key or an element can begin here. -/
  isOpen : Bool
  deriving DecidableEq, Repr

namespace Place

def isEnd (p : Place) : Bool := p.rest.isEmpty || p.column == 0 && isAnyBorder p.rest

def skip (n : Nat) (p : Place) : Place := ⟨p.rest.drop n, p.column + n, false⟩

/-- The place of the next word, from a place in a line. A word cannot follow a tab that stands
where its line has to be indented. -/
def seekFrom? (low : Nat) (isOpen inComment hasTab : Bool) (column : Nat) :
    List Char → Option Place
  | [] => some ⟨[], column, isOpen⟩
  | c :: rest =>
    if c = '\n' then seekFrom? low true false false 0 rest
    else if inComment = true ∨ c = ' ' then
      seekFrom? low isOpen inComment hasTab (column + 1) rest
    else if c = '\t' then
      seekFrom? low isOpen false (hasTab || isOpen && column < low) (column + 1) rest
    else if c = '#' then seekFrom? low isOpen true hasTab (column + 1) rest
    else if hasTab then none
    else some ⟨c :: rest, column, isOpen⟩

/-- The place of the next word, behind whitespace and comments. Lines have to be indented up to
column `low`. -/
def seek? (low : Nat) (p : Place) : Option Place :=
  seekFrom? low p.isOpen false false p.column p.rest

end Place

end Taskbook.Settings.Yaml
