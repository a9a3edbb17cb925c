import Taskbook.Log
import Taskbook.Text.Trim

/-! The rules by which entries of the log are chosen, and how a rule is read: a level, the name of
a part, or `part[span{field}]=level` with some of its pieces left out. -/

set_option autoImplicit false

namespace Taskbook.Log

/-- The least severe level that passes in the places that a rule describes. -/
structure Rule where
  /-- How the names of the parts begin to which the rule applies. -/
  target : String
  /-- The span within which an entry has to stand. -/
  span : Option String
  /-- The field that an entry has to have, perhaps with its value. -/
  field : Option String
  /-- Nothing passes a rule without a level. -/
  level : Option Level
  deriving DecidableEq, Repr

inductive RuleError where
  | form
  | level
  /-- A piece of the rule would begin or end within a character. -/
  | split
  deriving DecidableEq, Repr

def RuleError.message : RuleError → String
  | form => "invalid filter directive"
  | level => "error parsing level filter: expected one of " ++
      "\"off\", \"error\", \"warn\", \"info\", \"debug\", \"trace\", or a number 0-5"
  | split => "a piece of a log rule is not cut between characters"

/-- The levels of rules by name. The place of a level is its number. -/
def levels : List (String × Option Level) := [
  ("off", none), ("error", some .error), ("warn", some .warn), ("info", some .info),
  ("debug", some .debug), ("trace", some .trace)]

/-- The level of a name in any case, or of a number. The outer option tells whether it is a level
at all; `off` lets nothing through. -/
def level? (text : String) : Option (Option Level) :=
  let digits := match text.toList with
    | '+' :: rest => rest
    | s => s
  if !digits.isEmpty && digits.all Char.isDigit then
    (levels[Date.decimal digits]?).map fun l => l.2
  else levels.lookup (String.ofList (text.toList.map Char.toLower))

namespace Rule

/-! The marks of a rule are looked for in the text without the whitespace around it, but their
places are counted in the whole text: whitespace in front shifts every piece towards the start. -/

def piece (text : List Char) (start stop : Nat) : Except RuleError String :=
  match (Text.splitAt? stop text).bind fun (s, _) => Text.splitAt? start s with
  | some (_, s) => .ok (String.ofList s)
  | none => .error .split

/-- The level at the end of a rule, whose rest is at a place: without one everything passes. -/
def ending (text : List Char) (place : Nat) : List Char → Except RuleError (Option Level)
  | [] => .ok (some .trace)
  | '=' :: _ => do
    let word ← piece text (place + 1) (Text.byteCount text)
    if word = "" then return some .trace
    match level? word with
    | some level => return level
    | none => .error .level
  | _ => .error .form

def bracket (target : String) (text : List Char) (place : Nat) (s : List Char) :
    Except RuleError Rule := do
  let isInner := fun c => c ≠ ']' ∧ c ≠ '\x7b'
  let stop := place + Text.byteCount (s.takeWhile isInner)
  match s.dropWhile isInner with
  | ']' :: rest =>
    let span ← piece text place stop
    return ⟨target, some span, none, ← ending text (stop + 1) rest⟩
  | '\x7b' :: rest =>
    let span ← piece text place stop
    let isField := fun c => c ≠ '\x7d'
    let last := stop + 1 + Text.byteCount (rest.takeWhile isField)
    match rest.dropWhile isField with
    | '\x7d' :: rest =>
      let field ← piece text (stop + 1) last
      match rest with
      | ']' :: rest =>
        if field = "" then .error .form
        else
          let level ← ending text (last + 2) rest
          return ⟨target, if span = "" then none else some span, some field, level⟩
      | _ => .error .form
    | _ => .error .form
  | _ => .error .form

def isNameStart (c : Char) : Bool := Text.isAlphanumeric c || c == '-' || c == ':' || c == '_'

/-- The rule that a text is. A text without marks is a level, or else the name of a part. -/
def ofText (text : List Char) : Except RuleError Rule := do
  let bare := Text.trim text
  let isName := fun c => c ≠ '=' ∧ c ≠ '['
  let stop := Text.byteCount (bare.takeWhile isName)
  if !(bare.head?.any fun c => isNameStart c || c == '[') then .error .form
  else
    match bare.dropWhile isName with
    | [] =>
      let word := String.ofList text
      match level? word with
      | some level => return ⟨"", none, none, level⟩
      | none => return ⟨word, none, none, some .trace⟩
    | '[' :: rest => bracket (← piece text 0 stop) text (stop + 1) rest
    | rest => return ⟨← piece text 0 stop, none, none, ← ending text stop rest⟩

/-- Whether a rule applies to the entries of a part. They stand in no span, and their message is
their only field. -/
def covers (r : Rule) (target : String) : Bool :=
  r.target.toList.isPrefixOf target.toList && r.span.isNone && r.field.all (· == "message")

/-- How closely a rule describes its places: by the length of the name, then by the field. -/
def weight (r : Rule) : Nat := 2 * r.target.length + if r.field.isSome then 1 else 0

end Rule

end Taskbook.Log
