import Taskbook.Date.Calendar
import Taskbook.Text.Trim

/-! Reading a date in one of the known layouts. A layout is a list of parts; a reader works through
it from left to right, each part taking as much as it may, and the text has to be used up. -/

set_option autoImplicit false

namespace Taskbook.Date

open Taskbook.Text

inductive Part where
  | year
  | month
  | day
  /-- The first three letters of a month's name. -/
  | monthName
  /-- Any whitespace, or none. -/
  | gap
  | mark (c : Char)
  deriving DecidableEq, Repr

/-- The layouts tried, in this order. -/
def layouts : List (List Part) := [
  [.year, .mark '-', .month, .mark '-', .day],
  [.year, .mark '/', .month, .mark '/', .day],
  [.day, .mark '/', .month, .mark '/', .year],
  [.day, .mark '-', .month, .mark '-', .year],
  [.monthName, .gap, .day, .gap, .year]]

structure Numbers where
  year : Int
  month : Nat
  day : Nat

def decimal (digits : List Char) : Nat :=
  digits.foldl (fun n c => 10 * n + (c.toNat - '0'.toNat)) 0

/-- A number of at least one and at most `width` ASCII digits, or of any number of them. -/
def takeNumber? (width : Option Nat) (s : List Char) : Option (Nat × List Char) :=
  let run := s.takeWhile Char.isDigit
  let digits := match width with
    | some n => run.take n
    | none => run
  if digits.isEmpty then none else some (decimal digits, s.drop digits.length)

/-- A year: up to four digits, or a sign and any number of digits. -/
def takeYear? (s : List Char) : Option (Int × List Char) :=
  match s with
  | '-' :: rest => (takeNumber? none rest).map fun (n, rest) => (-(n : Int), rest)
  | '+' :: rest => (takeNumber? none rest).map fun (n, rest) => ((n : Int), rest)
  | _ => (takeNumber? (some 4) s).map fun (n, rest) => ((n : Int), rest)

/-- The first letters of the months, in lower case and in order. -/
def monthNames : List (List Char) :=
  ["jan", "feb", "mar", "apr", "may", "jun", "jul", "aug", "sep", "oct", "nov", "dec"].map
    String.toList

/-- The number of the month whose name begins with the first three characters, in any case. -/
def takeMonthName? (s : List Char) : Option (Nat × List Char) :=
  match monthNames.idxOf? ((s.take 3).map Char.toLower) with
  | some i => some (i + 1, s.drop 3)
  | none => none

/-- One part read from the front of the text. Whitespace before a number is skipped. -/
def readPart (part : Part) (n : Numbers) (s : List Char) : Option (Numbers × List Char) :=
  match part with
  | .year => (takeYear? (trimStart s)).map fun (y, rest) => ({ n with year := y }, rest)
  | .month =>
    (takeNumber? (some 2) (trimStart s)).map fun (m, rest) => ({ n with month := m }, rest)
  | .day => (takeNumber? (some 2) (trimStart s)).map fun (d, rest) => ({ n with day := d }, rest)
  | .monthName => (takeMonthName? s).map fun (m, rest) => ({ n with month := m }, rest)
  | .gap => some (n, trimStart s)
  | .mark c =>
    match s with
    | x :: rest => if x = c then some (n, rest) else none
    | [] => none

def readParts : List Part → Numbers → List Char → Option Numbers
  | [], n, s => if s.isEmpty then some n else none
  | part :: parts, n, s =>
    match readPart part n s with
    | some (n, rest) => readParts parts n rest
    | none => none

def readLayout (layout : List Part) (s : List Char) : Option Date :=
  match readParts layout ⟨0, 0, 0⟩ s with
  | some n => ofNumbers? n.year n.month n.day
  | none => none

/-- The date that a text denotes, whitespace around it aside, in the first layout that fits. -/
def ofText? (text : String) : Option Date :=
  layouts.findSome? fun layout => readLayout layout (trim text.toList)

end Taskbook.Date
