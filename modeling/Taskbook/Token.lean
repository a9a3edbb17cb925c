/-! The tokens of a command line. -/

set_option autoImplicit false

namespace Taskbook

inductive TokenKind where
  | exit
  | list
  | mark
  | unmark
  | todo
  | deadline
  | event
  | delete
  | forwardDash
  | param
  | literal
  | endOfCommand
  deriving DecidableEq, Repr

namespace TokenKind

def label : TokenKind → String
  | .exit => "EXIT"
  | .list => "LIST"
  | .mark => "MARK"
  | .unmark => "UNMARK"
  | .todo => "TODO"
  | .deadline => "DEADLINE"
  | .event => "EVENT"
  | .delete => "DELETE"
  | .forwardDash => "FORWARD_DASH"
  | .param => "PARAM"
  | .literal => "LITERAL"
  | .endOfCommand => "END_OF_COMMAND"

def name : TokenKind → String
  | .exit => "Exit"
  | .list => "List"
  | .mark => "Mark"
  | .unmark => "Unmark"
  | .todo => "Todo"
  | .deadline => "Deadline"
  | .event => "Event"
  | .delete => "Delete"
  | .forwardDash => "ForwardDash"
  | .param => "Param"
  | .literal => "Literal"
  | .endOfCommand => "EndOfCommand"

def all : List TokenKind :=
  [exit, list, mark, unmark, todo, deadline, event, delete, forwardDash, param, literal,
    endOfCommand]

/-- The word that names a command; kinds that are no command have none. -/
def keyword? : TokenKind → Option String
  | .exit => some "bye"
  | .list => some "list"
  | .mark => some "mark"
  | .unmark => some "unmark"
  | .todo => some "todo"
  | .deadline => some "deadline"
  | .event => some "event"
  | .delete => some "delete"
  | .forwardDash | .param | .literal | .endOfCommand => none

def ofKeyword? (word : String) : Option TokenKind :=
  all.find? fun kind => kind.keyword? = some word

end TokenKind

structure Token where
  kind : TokenKind
  text : String
  deriving DecidableEq, Repr

namespace Token

def endOfCommand : Token := ⟨.endOfCommand, ""⟩

def render (t : Token) : String := t.kind.label ++ " " ++ t.text

end Token

end Taskbook
