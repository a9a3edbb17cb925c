import Taskbook.Command
import Taskbook.Token.Lexer

/-! Reading a command from tokens.

Every command has a form: the slots that its tokens have to fill, one after the other. A reader goes
along the tokens and stops at the first one that does not fit its slot. It looks at nothing behind
the first token that ends a command. -/

set_option autoImplicit false

namespace Taskbook

inductive Usage where
  | bye
  | list
  | listView
  | mark
  | unmark
  | delete
  | todo
  | deadline
  | event
  deriving DecidableEq, Repr

def Usage.text : Usage → String
  | .bye => "Usage: bye"
  | .list => "Usage: list"
  | .listView => "Usage: list /view [type] /attribute [attribute]"
  | .mark => "Usage: mark [number]"
  | .unmark => "Usage: unmark [number]"
  | .delete => "Usage: delete [number]"
  | .todo => "Usage: todo [description]"
  | .deadline => "Usage: deadline [description] /by [date]"
  | .event => "Usage: event [description] /from [date] /to [date]"

inductive Missing where
  | description
  | start
  | finish
  deriving DecidableEq, Repr

def Missing.text : Missing → String
  | .description => "Description missing."
  | .start => "Start date missing."
  | .finish => "End date missing."

inductive ParseError where
  | emptyLine
  | unknownCommand (word : String)
  | usage (usage : Usage)
  | missing (what : Missing) (usage : Usage)
  | unknownView
  | notAnInteger (argument : String)
  deriving DecidableEq, Repr

def ParseError.message : ParseError → String
  | .emptyLine => "Say something."
  | .unknownCommand word =>
    "'" ++ word ++
      "' is not recognized as a command.\nThat is the weirdest thing you've ever said."
  | .usage u => u.text
  | .missing what u => what.text ++ "\n" ++ u.text
  | .unknownView => "Invalid type"
  | .notAnInteger argument =>
    "One, two, three, four, get the kid back through the door!\n'" ++ argument ++
      "' is not an integer Sulley..."

structure Mismatch where
  expected : TokenKind
  position : Nat
  found : Token
  deriving DecidableEq, Repr

/-- Why a command was not accepted, and the token of the wrong kind if that was the reason. -/
structure Refusal where
  error : ParseError
  mismatch : Option Mismatch
  deriving DecidableEq, Repr

/-- A reader's place among the tokens: how many were read, those that are left, and the token that
ends the command. -/
structure Cursor where
  position : Nat
  ahead : List Token
  closing : Token
  deriving DecidableEq, Repr

namespace Cursor

/-- The start of a sequence of tokens. Where no token ends the command, the end of the sequence
does. -/
def ofTokens (tokens : List Token) : Cursor where
  position := 0
  ahead := tokens.takeWhile fun t => t.kind != .endOfCommand
  closing := (tokens.find? fun t => t.kind == .endOfCommand).getD Token.endOfCommand

/-- The next token; the end of the command is never passed. -/
def peek (c : Cursor) : Token := c.ahead.head?.getD c.closing

def mismatch (c : Cursor) (expected : TokenKind) : Mismatch := ⟨expected, c.position, c.peek⟩

/-- The text of the next token, if it is of the kind expected, and the cursor behind it. -/
def take? (c : Cursor) (kind : TokenKind) : Option (String × Cursor) :=
  match c.ahead with
  | [] => none
  | t :: rest => if t.kind = kind then some (t.text, ⟨c.position + 1, rest, c.closing⟩) else none

end Cursor

inductive Slot where
  | dash
  /-- The name of a parameter. -/
  | name (word : String)
  /-- A literal with more than whitespace in it. -/
  | text (missing : Option Missing)
  /-- A literal that has to be this word, the only view there is. -/
  | view (word : String)
  /-- Any literal. -/
  | argument
  deriving DecidableEq, Repr

namespace Slot

def kind : Slot → TokenKind
  | dash => .forwardDash
  | name _ => .param
  | text _ | view _ | argument => .literal

def complaint (usage : Usage) : Slot → ParseError
  | text (some what) => .missing what usage
  | _ => .usage usage

def check (usage : Usage) (slot : Slot) (content : String) : Except ParseError Unit :=
  match slot with
  | dash | argument => .ok ()
  | name word => if content = word then .ok () else .error (slot.complaint usage)
  | text _ => if Text.trimmed content = "" then .error (slot.complaint usage) else .ok ()
  | view word =>
    if Text.trimmed content = "" then .error (slot.complaint usage)
    else if Text.trimmed content = word then .ok ()
    else .error .unknownView

/-- What a command is made from: the texts of the slots that hold one. -/
def Build : List Slot → Type
  | [] => Except ParseError Command
  | text _ :: rest | argument :: rest => String → Build rest
  | _ :: rest => Build rest

/-- The build that is left when a slot was filled. -/
def feed {rest : List Slot} (content : String) : (slot : Slot) → Build (slot :: rest) → Build rest
  | dash, build => build
  | name _, build => build
  | view _, build => build
  | text _, build => build (Text.trimmed content)
  | argument, build => build (Text.trimmed content)

end Slot

structure Form where
  usage : Usage
  slots : List Slot
  build : Slot.Build slots

namespace Form

def bye : Form := ⟨.bye, [], .ok .exit⟩

def list : Form := ⟨.list, [], .ok (.list .all)⟩

def listView : Form where
  usage := .listView
  slots := [.dash, .name "view", .view "date", .dash, .name "attribute", .text none]
  build := fun (field : String) => .ok (.list (.byDate field))

def numbered (usage : Usage) (make : TaskNumber → Command) : Form where
  usage := usage
  slots := [.argument]
  build := fun (argument : String) =>
    match TaskNumber.ofText? argument with
    | some number => .ok (make number)
    | none => .error (.notAnInteger argument)

def todo : Form where
  usage := .todo
  slots := [.text (some .description)]
  build := fun (description : String) => .ok (.addTodo description)

def deadline : Form where
  usage := .deadline
  slots := [.text (some .description), .dash, .name "by", .text none]
  build := fun (description due : String) => .ok (.addDeadline description due)

def event : Form where
  usage := .event
  slots := [.text (some .description), .dash, .name "from", .text (some .start), .dash, .name "to",
    .text (some .finish)]
  build := fun (description start finish : String) => .ok (.addEvent description start finish)

/-- The form that a command's first token asks for, given the kind of the token after it. -/
def ofKind? (kind next : TokenKind) : Option Form :=
  match kind with
  | .exit => some bye
  | .list => some (if next = .forwardDash then listView else list)
  | .mark => some (numbered .mark .mark)
  | .unmark => some (numbered .unmark .unmark)
  | .delete => some (numbered .delete .delete)
  | .todo => some todo
  | .deadline => some deadline
  | .event => some event
  | .forwardDash | .param | .literal | .endOfCommand => none

/-- Fills the slots from left to right; then the command has to end. -/
def readSlots (usage : Usage) :
    (slots : List Slot) → Slot.Build slots → Cursor → Except Refusal Command × Cursor
  | [], result, c =>
    if c.ahead.isEmpty then (result.mapError (⟨·, none⟩), c)
    else (.error ⟨.usage usage, some (c.mismatch .endOfCommand)⟩, c)
  | slot :: rest, build, c =>
    match c.take? slot.kind with
    | none => (.error ⟨slot.complaint usage, some (c.mismatch slot.kind)⟩, c)
    | some (content, c') =>
      match slot.check usage content with
      | .error error => (.error ⟨error, none⟩, c')
      | .ok () => readSlots usage rest (slot.feed content build) c'

def read (form : Form) (c : Cursor) : Except Refusal Command × Cursor :=
  readSlots form.usage form.slots form.build c

end Form

namespace Cursor

/-- Reads one command, and says where the reader stands afterwards. -/
def parse (c : Cursor) : Except Refusal Command × Cursor :=
  match c.ahead with
  | [] => (.error ⟨.emptyLine, none⟩, c)
  | t :: rest =>
    let c' : Cursor := ⟨c.position + 1, rest, c.closing⟩
    match Form.ofKind? t.kind c'.peek.kind with
    | none => (.error ⟨.unknownCommand t.text, none⟩, c')
    | some form => form.read c'

end Cursor

namespace Command

def ofTokens (tokens : List Token) : Except Refusal Command := (Cursor.ofTokens tokens).parse.1

def ofLine (line : String) : Except Refusal Command := ofTokens (Lexer.tokenize line)

end Command

end Taskbook
