import Taskbook.Session.Conversation
import Taskbook.Text.Inert

/-! The log: what is noted about each stage of the work. Every entry names the part of the program
that it comes from, so that entries can be chosen by level and by part. -/

set_option autoImplicit false

namespace Taskbook.Log

inductive Level where
  | error
  | warn
  | info
  | debug
  | trace
  deriving DecidableEq, Repr

namespace Level

def name : Level → String
  | error => "ERROR"
  | warn => "WARN"
  | info => "INFO"
  | debug => "DEBUG"
  | trace => "TRACE"

def rank : Level → Nat
  | error => 1
  | warn => 2
  | info => 3
  | debug => 4
  | trace => 5

end Level

structure Entry where
  level : Level
  target : String
  message : String
  deriving DecidableEq, Repr

def Entry.text (e : Entry) : String := Text.inert e.message

def Entry.line (e : Entry) : String := e.level.name ++ " " ++ e.text ++ "\n"

/-- The parts of the program, by the names under which they log. -/
def programTarget : String := "mike"
def sessionTarget : String := "mike::session"
def settingsTarget : String := "mike::config"
def crashTarget : String := "mike::errors"
def commandTarget : String := "mike_core::command"
def readerTarget : String := "mike_core::parser::command_parser"
def lexerTarget : String := "mike_core::parser::tokenizer"
def storeTarget : String := "mike_core::storage"
def coreSettingsTarget : String := "mike_core::config"
def logTarget : String := "mike_core::logging"

def showToken (t : Token) : String :=
  "Token \x7b kind: " ++ t.kind.name ++ ", text: " ++ Text.quoted t.text ++ " \x7d"

def tokenized (line : String) (tokens : List Token) : Entry :=
  ⟨.trace, lexerTarget, "Tokenized " ++ Text.quoted line ++ " into [" ++
    String.intercalate ", " (tokens.map showToken) ++ "]"⟩

/-- What reading a command from tokens leaves in the log. -/
def parsed : Except Refusal Command → List Entry
  | .ok command => [⟨.debug, readerTarget, "Parsed " ++ command.shown⟩]
  | .error ⟨_, some m⟩ =>
    [⟨.debug, readerTarget, "Expected " ++ m.expected.label ++ " at " ++ toString m.position ++
      ", found " ++ m.found.render⟩]
  | .error ⟨_, none⟩ => []

def ofLine (line : String) : List Entry :=
  let tokens := Lexer.tokenize line
  tokenized line tokens :: parsed (Command.ofTokens tokens)

def executing (command : Command) : Entry :=
  ⟨.debug, commandTarget, "Executing " ++ command.shown⟩

def loaded (file : Path) : Except LoadError (Option TaskList) → List Entry
  | .ok none =>
    [⟨.info, storeTarget, "No task file at " ++ file.text ++ ", starting with an empty list"⟩]
  | .ok (some tasks) =>
    [⟨.info, storeTarget, "Loaded " ++ toString tasks.length ++ " tasks from " ++ file.text⟩]
  | .error _ => []

def saved (file : Path) (tasks : TaskList) : Except SaveError Unit → List Entry
  | .ok () =>
    [⟨.debug, storeTarget, "Saved " ++ toString tasks.length ++ " tasks to " ++ file.text⟩]
  | .error _ => []

def started (file : Path) (result : Except LoadError (Option TaskList)) : List Entry :=
  match result with
  | .ok _ => loaded file result
  | .error e =>
    [⟨.warn, sessionTarget, "Failed to load tasks from " ++ file.text ++ ": " ++ e.message⟩]

def sessionSaved (s : Session) (result : Except SaveError Unit) : List Entry :=
  match result with
  | .ok () => saved s.file s.tasks result
  | .error e => [⟨.warn, sessionTarget, "Failed to save tasks: " ++ e.message⟩]

def turn (s : Session) (t : Turn) : List Entry :=
  ofLine t.line ++
    match t.outcome with
    | .rejected refusal =>
      [⟨.debug, sessionTarget,
        "Rejected " ++ Text.quoted t.line ++ ": " ++ refusal.error.message⟩]
    | .failed command error =>
      [executing command,
        ⟨.debug, sessionTarget, "Failed to execute " ++ command.shown ++ ": " ++ error.message⟩]
    | .done command _ tasks =>
      executing command ::
        match t.save with
        | some result => sessionSaved { s with tasks } result
        | none => []

def endOfInput : Entry := ⟨.info, sessionTarget, "End of input"⟩

def round (r : Round) : List Entry :=
  r.turn.toList.flatMap (turn r.session) ++
    if r.ending = some .endOfInput then [endOfInput] else []

def parted (p : Parting) : List Entry :=
  match p.closing with
  | some result => sessionSaved p.session result
  | none => []

/-- What a conversation leaves in the log. -/
def run (r : Run) : List Entry :=
  r.talk.turns.flatMap (turn r.session) ++
    (if r.talk.ending = .endOfInput then [endOfInput] else []) ++
    match r.closing with
    | some result => sessionSaved r.session result
    | none => []

end Taskbook.Log
