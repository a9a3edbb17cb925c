import Taskbook.Text.Split

/-! Paths as they are typed. A path keeps every piece of its text, so that it is shown as it was
given; empty pieces and single dots lead nowhere. -/

set_option autoImplicit false

namespace Taskbook

/-- The pieces of a path's text between its slashes. -/
structure Path where
  pieces : List String
  deriving DecidableEq, Repr

namespace Path

def ofText (text : String) : Path := ⟨(Text.pieces '/' text.toList).map String.ofList⟩

def text (p : Path) : String := String.intercalate "/" p.pieces

def isAbsolute (p : Path) : Bool :=
  match p.pieces with
  | "" :: _ :: _ => true
  | _ => false

def isEmpty (p : Path) : Bool := p.text.isEmpty

/-- A piece that leads nowhere. -/
def isIdle (piece : String) : Bool := piece = "" || piece = "."

/-- A path whose text ends in a slash or a single dot; it can only lead to a folder. -/
def asksForFolder (p : Path) : Bool :=
  match p.pieces.getLast? with
  | some piece => isIdle piece
  | none => false

def steps (p : Path) : List String := p.pieces.filter fun piece => !isIdle piece

/-- The pieces without the idle ones at the end. -/
def core (p : Path) : List String := (p.pieces.reverse.dropWhile isIdle).reverse

/-- The last name, unless the path ends by stepping back. -/
def fileName? (p : Path) : Option String :=
  match p.steps.getLast? with
  | some ".." => none
  | last => last

def parent? (p : Path) : Option Path :=
  if p.steps.isEmpty then none else some ⟨p.core.dropLast ++ [""]⟩

/-- A path read from the place that another one leads to. -/
def join (p q : Path) : Path :=
  if q.isAbsolute then q
  else if p.pieces.getLast? = some "" then ⟨p.pieces.dropLast ++ q.pieces⟩
  else ⟨p.pieces ++ q.pieces⟩

/-- A name cut before its last dot. A dot at the start is part of the name. -/
def splitName (name : List Char) : List Char × Option (List Char) :=
  let back := name.reverse
  let ending := back.takeWhile (· ≠ '.')
  match back.drop ending.length with
  | _ :: front => if front.isEmpty then (name, none) else (front.reverse, some ending.reverse)
  | [] => (name, none)

def extension? (p : Path) : Option String :=
  p.fileName?.bind fun name => (splitName name.toList).2.map String.ofList

def cutExtension (p : Path) : Path :=
  match p.pieces.reverse with
  | name :: front =>
    match splitName name.toList with
    | (stem, some _) => ⟨((String.ofList stem ++ ".") :: front).reverse⟩
    | (_, none) => p
  | [] => p

/-- The path with an extension for its last name, in place of the one that the name has; without a
last name it stays the same. -/
def setExtension (p : Path) (extension : String) : Path :=
  match p.fileName? with
  | none => p
  | some name =>
    ⟨p.core.dropLast ++ [String.ofList (splitName name.toList).1 ++ "." ++ extension]⟩

/-- The path with another extension for its last name. The old one is cut off first; if that leaves
two dots there is no name any more, and none gets the new extension. -/
def withExtension (p : Path) (extension : String) : Path :=
  (if p.asksForFolder then p else p.cutExtension).setExtension extension

def addExtension (p : Path) (extension : String) : Path :=
  match p.pieces.reverse with
  | name :: front => ⟨((name ++ "." ++ extension) :: front).reverse⟩
  | [] => p

end Path

end Taskbook
