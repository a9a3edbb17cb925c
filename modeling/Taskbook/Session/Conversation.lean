import Taskbook.Session
import Taskbook.Text.Split

/-! A conversation from beginning to end: lines come in from a stream, answers go out to a sink that
may refuse them. -/

set_option autoImplicit false

namespace Taskbook

/-- Where a conversation is shown: the pieces shown so far, and whether another one is accepted
after them. -/
structure Sink where
  accepts : List String → String → Bool
  shown : List String

namespace Sink

def unlimited : Sink := ⟨fun _ _ => true, []⟩

def full : Sink := ⟨fun _ piece => piece.isEmpty, []⟩

def put? (k : Sink) (piece : String) : Option Sink :=
  if k.accepts k.shown piece then some { k with shown := k.shown ++ [piece] } else none

def text (k : Sink) : String := String.join k.shown

end Sink

class HasTerminal (m : Type → Type) where
  /-- Shows a text, and tells whether it could be shown. -/
  present : String → m Bool
  /-- The next line, if there is one. Inside, `none` stands for a line that is not UTF-8. -/
  hear : m (Option (Option String))

/-- A terminal: where texts go, and the lines that are still to come. -/
structure Terminal where
  sink : Sink
  lines : List (Option String)

namespace Terminal

def present (t : Terminal) (text : String) : Bool × Terminal :=
  match t.sink.put? text with
  | some sink => (true, { t with sink })
  | none => (false, t)

def hear (t : Terminal) : Option (Option String) × Terminal :=
  (t.lines.head?, { t with lines := t.lines.tail })

end Terminal

instance : HasTerminal (StateM Terminal) where
  present text := modifyGet fun t => t.present text
  hear := modifyGet Terminal.hear

instance {m : Type → Type} [Monad m] [HasTerminal m] : HasTerminal (StateT Disk m) where
  present text := StateT.lift (HasTerminal.present text)
  hear := StateT.lift HasTerminal.hear

/-- What comes of work on a disk and at a terminal. -/
def onStage {α : Type} (work : StateT Disk (StateM Terminal) α) (d : Disk) (k : Sink)
    (lines : List (Option String)) : α × Disk × Sink :=
  let ((x, d), t) := (work.run d).run ⟨k, lines⟩
  (x, d, t.sink)

section Stage

variable {α : Type} {d : Disk} {k : Sink} {lines : List (Option String)}

@[simp] theorem onStage_pure (x : α) : onStage (pure x) d k lines = (x, d, k) := rfl

@[simp] theorem onStage_present (text : String) (next : Bool → StateT Disk (StateM Terminal) α) :
    onStage (HasTerminal.present text >>= next) d k lines =
      match k.put? text with
      | some k => onStage (next true) d k lines
      | none => onStage (next false) d k lines := by
  have shown : onStage (HasTerminal.present text >>= next) d k lines =
      let (isShown, t) := Terminal.present ⟨k, lines⟩ text
      onStage (next isShown) d t.sink t.lines := rfl
  rw [shown, Terminal.present]
  cases k.put? text <;> rfl

private theorem exists_onStage_bind {β : Type} (work : StateT Disk (StateM Terminal) β)
    (next : β → StateT Disk (StateM Terminal) α) (d : Disk) (k : Sink)
    (lines : List (Option String)) :
    ∃ rest, onStage (work >>= next) d k lines =
      let (x, d, k) := onStage work d k lines
      onStage (next x) d k rest :=
  ⟨_, rfl⟩

@[simp] theorem onStage_hear (next : Option (Option String) → StateT Disk (StateM Terminal) α) :
    onStage (HasTerminal.hear >>= next) d k lines = onStage (next lines.head?) d k lines.tail := rfl

end Stage

inductive Ending where
  | bye
  | endOfInput
  | notUtf8
  | unwritable
  deriving DecidableEq, Repr

structure Round where
  /-- The line and its answer, if there was a line. -/
  turn : Option Turn
  session : Session
  /-- Why there is no round after this one, if there is none. -/
  ending : Option Ending

structure Talk where
  turns : List Turn
  ending : Ending
  session : Session
  disk : Disk
  sink : Sink

inductive RunError where
  | notUtf8
  | unwritable
  deriving DecidableEq, Repr

def RunError.message : RunError → String
  | .notUtf8 => ReadError.notUtf8.message
  | .unwritable => DiskError.noSpace.message

/-- What comes after the last line of a conversation: a save, if one was attempted, and whether the
conversation ended well. -/
structure Parting where
  closing : Option (Except SaveError Unit)
  result : Except RunError Unit
  session : Session

/-- A conversation that is over, with what came of the save at its end if one was attempted. -/
structure Run where
  talk : Talk
  closing : Option (Except SaveError Unit)
  result : Except RunError Unit
  session : Session
  disk : Disk
  sink : Sink

namespace Session

def greeting : String := "Hello, I'm Mike Wazowski.\nWhat can I do for you?"

section World

variable {m : Type → Type} [Monad m] [HasDisk m] [HasTerminal m]

def greetM (s : Session) : m Bool :=
  if s.options.greet then HasTerminal.present (greeting ++ "\n") else return true

/-- Shows the prompt, reads a line and shows its answer. -/
def roundM [Text.HasCollation] (s : Session) : m Round := do
  if ← HasTerminal.present s.options.prompt then
    match ← HasTerminal.hear with
    | none => return ⟨none, s, some .endOfInput⟩
    | some none => return ⟨none, s, some .notUtf8⟩
    | some (some line) =>
      let (turn, s) ← s.answerM line
      if ← HasTerminal.present (turn.response ++ "\n") then
        return ⟨some turn, s, if turn.isExit then some .bye else none⟩
      else return ⟨some turn, s, some .unwritable⟩
  else return ⟨none, s, some .unwritable⟩

/-- Saves what is unsaved when the lines have come to their end, and reports a failure. -/
def closeM (s : Session) : m Parting := do
  if s.unsaved then
    let (saved, s) ← s.saveM
    match saved with
    | .ok () => return ⟨some saved, .ok (), s⟩
    | .error e =>
      if ← HasTerminal.present (e.message ++ "\n") then return ⟨some saved, .ok (), s⟩
      else return ⟨some saved, .error .unwritable, s⟩
  else return ⟨none, .ok (), s⟩

/-- The end of a conversation: a regular one is closed, any other is left as it stands. -/
def finishM (s : Session) : Ending → m Parting
  | .bye | .endOfInput => s.closeM
  | .notUtf8 => return ⟨none, .error .notUtf8, s⟩
  | .unwritable => return ⟨none, .error .unwritable, s⟩

/-- A round with something done after it. The session goes on, or the conversation has come to its
end. -/
def continueM [Text.HasCollation] (afterwards : Round → m Unit) (s : Session) :
    m (Except (Ending × Session) Session) := do
  let round ← s.roundM
  afterwards round
  match round.ending with
  | some ending => return .error (ending, round.session)
  | none => return .ok round.session

def roundsM [Text.HasCollation] (afterwards : Round → m Unit) :
    Nat → Session → m (Ending × Session)
  | 0, s => return (.endOfInput, s)
  | n + 1, s => do
    match ← s.continueM afterwards with
    | .error ended => return ended
    | .ok s => roundsM afterwards n s

/-- A conversation from beginning to end, given how rounds follow each other. -/
def runM (rounds : Session → m (Ending × Session)) (s : Session) : m Parting := do
  if ← s.greetM then
    let (ending, s) ← rounds s
    s.finishM ending
  else s.finishM .unwritable

end World

/-- Rounds until the lines end or one of them ends the conversation. -/
def converse [Text.HasCollation] (s : Session) (d : Disk) (k : Sink)
    (lines : List (Option String)) : Talk :=
  let (round, d, k) := onStage s.roundM d k lines
  match round.ending, lines with
  | some ending, _ => ⟨round.turn.toList, ending, round.session, d, k⟩
  | none, [] => ⟨round.turn.toList, .endOfInput, round.session, d, k⟩
  | none, _ :: rest =>
    let talk := converse round.session d k rest
    { talk with turns := round.turn.toList ++ talk.turns }

def close (talk : Talk) : Run :=
  let (parting, d, k) := onStage talk.session.closeM talk.disk talk.sink []
  ⟨talk, parting.closing, parting.result, parting.session, d, k⟩

def finish (talk : Talk) : Run :=
  let (parting, d, k) := onStage (talk.session.finishM talk.ending) talk.disk talk.sink []
  ⟨talk, parting.closing, parting.result, parting.session, d, k⟩

def run [Text.HasCollation] (s : Session) (d : Disk) (k : Sink) (input : ByteArray) : Run :=
  let lines := Text.streamLines input
  let (isGreeted, d, k) := onStage s.greetM d k lines
  finish (if isGreeted then s.converse d k lines else ⟨[], .unwritable, s, d, k⟩)

section Equations

variable {α : Type} {d : Disk} {k : Sink} {lines : List (Option String)}

@[simp] theorem onStage_answerM [Text.HasCollation] (s : Session) (line : String)
    (next : Turn × Session → StateT Disk (StateM Terminal) α) :
    onStage (s.answerM line >>= next) d k lines =
      let (turn, s, d) := s.handleLine d line
      onStage (next (turn, s)) d k lines := by
  simp only [onStage, StateT.run_bind, run_answerM, pure_bind]

@[simp] theorem onStage_saveM (s : Session)
    (next : Except SaveError Unit × Session → StateT Disk (StateM Terminal) α) :
    onStage (s.saveM >>= next) d k lines =
      let (result, s, d) := s.save d
      onStage (next (result, s)) d k lines := by
  simp only [onStage, StateT.run_bind, run_saveM, pure_bind]

theorem converse_eq [Text.HasCollation] (s : Session) (d : Disk) (k : Sink)
    (lines : List (Option String)) :
    s.converse d k lines =
      match k.put? s.options.prompt with
      | none => ⟨[], .unwritable, s, d, k⟩
      | some k =>
        match lines with
        | [] => ⟨[], .endOfInput, s, d, k⟩
        | none :: _ => ⟨[], .notUtf8, s, d, k⟩
        | some line :: rest =>
          let (turn, s, d) := s.handleLine d line
          match k.put? (turn.response ++ "\n") with
          | none => ⟨[turn], .unwritable, s, d, k⟩
          | some k =>
            if turn.isExit then ⟨[turn], .bye, s, d, k⟩
            else
              let talk := converse s d k rest
              { talk with turns := turn :: talk.turns } := by
  conv =>
    lhs
    unfold converse
  rw [roundM, onStage_present]
  cases k.put? s.options.prompt with
  | none => rfl
  | some k =>
    simp only [if_true, onStage_hear]
    match lines with
    | [] => rfl
    | none :: _ => rfl
    | some line :: rest =>
      simp only [List.head?_cons, onStage_answerM, onStage_present]
      cases k.put? ((s.handleLine d line).1.response ++ "\n") with
      | none => rfl
      | some k =>
        simp only [if_true, onStage_pure]
        cases (s.handleLine d line).1.isExit <;> rfl

theorem close_eq (talk : Talk) :
    close talk =
      if talk.session.unsaved then
        let (saved, s, d) := talk.session.save talk.disk
        match saved with
        | .ok () => ⟨talk, some saved, .ok (), s, d, talk.sink⟩
        | .error e =>
          match talk.sink.put? (e.message ++ "\n") with
          | some k => ⟨talk, some saved, .ok (), s, d, k⟩
          | none => ⟨talk, some saved, .error .unwritable, s, d, talk.sink⟩
      else ⟨talk, none, .ok (), talk.session, talk.disk, talk.sink⟩ := by
  rw [close, closeM]
  cases talk.session.unsaved with
  | false => rfl
  | true =>
    simp only [if_true, onStage_saveM]
    rcases talk.session.save talk.disk with ⟨_ | _, s, d⟩
    · simp only [onStage_present]
      cases talk.sink.put? _ <;> rfl
    · rfl

theorem finish_eq (talk : Talk) :
    finish talk =
      match talk.ending with
      | .bye | .endOfInput => close talk
      | .notUtf8 => ⟨talk, none, .error .notUtf8, talk.session, talk.disk, talk.sink⟩
      | .unwritable => ⟨talk, none, .error .unwritable, talk.session, talk.disk, talk.sink⟩ := by
  rw [finish]
  cases talk.ending <;> rfl

theorem run_eq [Text.HasCollation] (s : Session) (d : Disk) (k : Sink) (input : ByteArray) :
    s.run d k input =
      let lines := Text.streamLines input
      if s.options.greet then
        match k.put? (greeting ++ "\n") with
        | some k => finish (s.converse d k lines)
        | none => finish ⟨[], .unwritable, s, d, k⟩
      else finish (s.converse d k lines) := by
  rw [run, greetM]
  cases s.options.greet with
  | false => rfl
  | true =>
    dsimp only
    rw [if_pos rfl, if_pos rfl, ← bind_pure (HasTerminal.present _), onStage_present]
    cases k.put? _ <;> rfl

private theorem onStage_finishM (s : Session) (ending : Ending) (lines : List (Option String)) :
    onStage (s.finishM ending) d k lines = onStage (s.finishM ending) d k [] := by
  have closed : onStage s.closeM d k lines = onStage s.closeM d k [] := by
    rw [closeM]
    cases s.unsaved with
    | false => rfl
    | true =>
      simp only [if_true, onStage_saveM]
      rcases s.save d with ⟨_ | _, s, d⟩
      · simp only [onStage_present]
        cases k.put? _ <;> rfl
      · rfl
  cases ending with
  | bye | endOfInput => exact closed
  | notUtf8 | unwritable => rfl

private theorem onStage_roundsM [Text.HasCollation] {n : Nat} (s : Session)
    (enough : lines.length < n) :
    onStage (roundsM (fun _ => pure ()) n s) d k lines =
      let talk := s.converse d k lines
      ((talk.ending, talk.session), talk.disk, talk.sink) := by
  induction n generalizing s d k lines with
  | zero => exact absurd enough (Nat.not_lt_zero _)
  | succ n ih =>
    rw [converse_eq, roundsM, continueM, roundM]
    simp only [bind_assoc, onStage_present]
    cases k.put? s.options.prompt with
    | none => rfl
    | some k =>
      simp only [if_true, bind_assoc, onStage_hear]
      match lines with
      | [] => rfl
      | none :: _ => rfl
      | some line :: rest =>
        simp only [List.head?_cons, bind_assoc, onStage_answerM, onStage_present]
        cases k.put? ((s.handleLine d line).1.response ++ "\n") with
        | none => rfl
        | some k =>
          cases (s.handleLine d line).1.isExit with
          | true => simp
          | false =>
            have behind := ih (d := (s.handleLine d line).2.2) (k := k) (s.handleLine d line).2.1
              (Nat.lt_of_succ_lt_succ enough)
            simpa using behind

/-- A conversation that is held round by round comes to what `run` says. -/
theorem onStage_runM [Text.HasCollation] {n : Nat} (s : Session) (input : ByteArray)
    (enough : (Text.streamLines input).length < n) :
    onStage (s.runM (roundsM (fun _ => pure ()) n)) d k (Text.streamLines input) =
      let run := s.run d k input
      (⟨run.closing, run.result, run.session⟩, run.disk, run.sink) := by
  have talked (k : Sink) : onStage (do
        let (ending, s) ← roundsM (fun _ => pure ()) n s
        s.finishM ending) d k (Text.streamLines input) =
      let run := finish (s.converse d k (Text.streamLines input))
      (⟨run.closing, run.result, run.session⟩, run.disk, run.sink) := by
    obtain ⟨rest, joined⟩ := exists_onStage_bind (roundsM (fun _ => pure ()) n s)
      (fun ended => ended.2.finishM ended.1) d k (Text.streamLines input)
    rw [joined, onStage_roundsM s enough]
    exact onStage_finishM _ _ rest
  rw [run_eq, runM, greetM]
  cases s.options.greet with
  | false => exact talked k
  | true =>
    simp only [if_true, onStage_present]
    cases k.put? (greeting ++ "\n") with
    | none => rfl
    | some k => exact talked k

end Equations

end Session

end Taskbook
