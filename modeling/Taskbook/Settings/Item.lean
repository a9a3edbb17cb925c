import Taskbook.Settings.Scan
import Taskbook.Settings.Value

/-! The items of a settings file with brackets, and the tables that they make.

Only the outermost table is of interest. What stands in brackets inside it is checked to be
well-formed, and counts as nested. -/

set_option autoImplicit false

namespace Taskbook.Settings

inductive Bracket where
  | list
  | table
  deriving DecidableEq, Repr

inductive Item where
  | opening (bracket : Bracket)
  | closing (bracket : Bracket)
  | comma
  /-- What stands between a key and its value. -/
  | separator
  | lineBreak
  | word (text : String)
  | quote (text : String)
  /-- A key in a form that no value has. -/
  | name (text : String)
  deriving DecidableEq, Repr

structure Grammar where
  /-- The value of a word; quotes are texts in every grammar. -/
  word? : String → Option Value
  /-- Whether a word can be a key; a quote always can. -/
  isKey : String → Bool
  /-- Whether a comma may stand before the closing bracket. -/
  allowsLastComma : Bracket → Bool
  /-- How many brackets can be open at once in a value, if there is a limit. -/
  maxDepth : Option Nat

namespace Grammar

def allowsDepth (g : Grammar) (depth : Nat) : Bool := g.maxDepth.all fun limit => depth ≤ limit

def scalar? (g : Grammar) : Item → Option Value
  | .word text => g.word? text
  | .quote text => some (.text text)
  | _ => none

def key? (g : Grammar) : Item → Option String
  | .word text => if g.isKey text then some text else none
  | .quote text | .name text => some text
  | _ => none

/-- What is due at a place inside brackets. -/
inductive Due where
  | value
  | valueOrEnd
  | key
  | keyOrEnd
  | separator
  | commaOrEnd
  deriving DecidableEq, Repr

def dueAfterOpening : Bracket → Due
  | .list => .valueOrEnd
  | .table => .keyOrEnd

def dueAfterComma (g : Grammar) : Bracket → Due
  | .list => if g.allowsLastComma .list then .valueOrEnd else .value
  | .table => if g.allowsLastComma .table then .keyOrEnd else .key

/-- The items behind the last of the open brackets, if those before it are well-formed. -/
def skip? (g : Grammar) : List Bracket → Due → List Item → Option (List Item)
  | [], _, items => some items
  | _ :: _, _, [] => none
  | b :: outer, due, item :: rest =>
    match due, item with
    | .valueOrEnd, .closing b' | .keyOrEnd, .closing b' | .commaOrEnd, .closing b' =>
      if b' = b then skip? g outer .commaOrEnd rest else none
    | .value, .opening b' | .valueOrEnd, .opening b' =>
      if g.allowsDepth (outer.length + 2) then
        skip? g (b' :: b :: outer) (dueAfterOpening b') rest
      else none
    | .value, _ | .valueOrEnd, _ =>
      if (g.scalar? item).isSome then skip? g (b :: outer) .commaOrEnd rest else none
    | .key, _ | .keyOrEnd, _ =>
      if (g.key? item).isSome then skip? g (b :: outer) .separator rest else none
    | .separator, .separator => skip? g (b :: outer) .value rest
    | .commaOrEnd, .comma => skip? g (b :: outer) (g.dueAfterComma b) rest
    | .separator, _ | .commaOrEnd, _ => none

def value? (g : Grammar) : List Item → Option (Value × List Item)
  | [] => none
  | .opening b :: rest => (g.skip? [b] (dueAfterOpening b) rest).map fun rest => (.nested, rest)
  | item :: rest => (g.scalar? item).map fun value => (value, rest)

/-- A key and its value, with the comma behind them if there is one. -/
def member? (g : Grammar) : List Item → Option ((String × Value) × List Item)
  | key :: .separator :: rest =>
    match g.key? key, g.value? rest with
    | some key, some (value, []) => some ((key, value), [])
    | some key, some (value, [.comma]) =>
      if g.allowsLastComma .table then some ((key, value), []) else none
    | some key, some (value, .comma :: rest) => some ((key, value), rest)
    | _, _ => none
  | _ => none

/-- The table that the items are, from its opening bracket to its closing one. -/
def table? (g : Grammar) : List Item → Option Entries
  | .opening .table :: rest =>
    if rest.getLast? = some (.closing .table) then
      (readAll g.member? rest.dropLast).map List.reverse
    else none
  | _ => none

end Grammar

end Taskbook.Settings
