/-! Cutting a sequence at a separator, a text at a place, and a text or a byte stream into its
lines. -/

set_option autoImplicit false

namespace Taskbook.Text

/-- Puts an element in front of the first piece; with no piece it becomes one. -/
def extendFirst {α : Type} (x : α) : List (List α) → List (List α)
  | [] => [[x]]
  | piece :: rest => (x :: piece) :: rest

/-- The pieces between separators, one more than there are separators. -/
def pieces {α : Type} [DecidableEq α] (sep : α) : List α → List (List α)
  | [] => [[]]
  | x :: rest => if x = sep then [] :: pieces sep rest else extendFirst x (pieces sep rest)

/-- The lines of a sequence. A newline ends a line, together with one return just before it; what
follows the last newline is a line unless it is empty. -/
def lines {α : Type} [DecidableEq α] (newline carriage : α) : List α → List (List α)
  | [] => []
  | x :: rest =>
    if x = newline then [] :: lines newline carriage rest
    else if x = carriage ∧ rest.head? = some newline then lines newline carriage rest
    else extendFirst x (lines newline carriage rest)

def textLines (s : String) : List String :=
  (lines '\n' '\r' s.toList).map String.ofList

/-- The lines of a byte stream; one that is not well-formed UTF-8 is `none`. -/
def streamLines (bytes : ByteArray) : List (Option String) :=
  (lines 10 13 bytes.data.toList).map fun line => String.fromUTF8? ⟨line.toArray⟩

def byteCount (s : List Char) : Nat := s.foldr (fun c n => c.utf8Size + n) 0

/-- A text in two parts, the first of `n` bytes, unless they end within a character. -/
def splitAt? (n : Nat) (s : List Char) : Option (List Char × List Char) :=
  match s with
  | [] => if n = 0 then some ([], []) else none
  | c :: rest =>
    if n = 0 then some ([], s)
    else if c.utf8Size ≤ n then
      (splitAt? (n - c.utf8Size) rest).map fun (taken, rest) => (c :: taken, rest)
    else none

end Taskbook.Text
