import Taskbook.Proofs.Command.Execute
import Taskbook.Session.Conversation

/-! What is asked of a session while it lasts: lines to answer and conversations to hold, in any
order. Each of them is told as a list of cases, and later proofs go by these. -/

set_option autoImplicit false

namespace Taskbook

inductive Call where
  | line (text : String)
  | run (sink : Sink) (input : ByteArray)

inductive Reply where
  | turn (turn : Turn)
  | run (run : Run)

/-- The saves that were attempted in a conversation, the one at its end included. -/
def Run.saves (r : Run) : List (Except SaveError Unit) :=
  r.talk.turns.filterMap Turn.save ++ r.closing.toList

def Reply.saves : Reply → List (Except SaveError Unit)
  | .turn t => t.save.toList
  | .run r => r.saves

structure Visit where
  replies : List Reply
  session : Session
  disk : Disk

namespace Session

def answer [Text.HasCollation] (s : Session) (d : Disk) : Call → Reply × Session × Disk
  | .line text =>
    let (turn, s, d) := s.handleLine d text
    (.turn turn, s, d)
  | .run sink input =>
    let run := s.run d sink input
    (.run run, run.session, run.disk)

def visit [Text.HasCollation] (s : Session) (d : Disk) : List Call → Visit
  | [] => ⟨[], s, d⟩
  | call :: rest =>
    let (reply, s, d) := s.answer d call
    let visit := visit s d rest
    { visit with replies := reply :: visit.replies }

variable {s : Session} {d : Disk} {line : String}

theorem after_of_not_change [Text.HasCollation]
    (quiet : (Outcome.ofLine s.tasks line).isChange = false) :
    s.after (Outcome.ofLine s.tasks line) = s := by
  have same : (Outcome.ofLine s.tasks line).tasksAfter s.tasks = s.tasks := by
    cases outcome : Outcome.ofLine s.tasks line with
    | rejected refusal => rfl
    | failed command error => rfl
    | done command response tasks =>
      rw [outcome] at quiet
      unfold Outcome.ofLine at outcome
      split at outcome
      · exact absurd outcome (by simp)
      · split at outcome
        · exact absurd outcome (by simp)
        · next executed =>
          obtain ⟨rfl, rfl, rfl⟩ := Outcome.done.inj outcome
          exact Command.execute_eq_of_not_mutating executed quiet
  simp [after, same, quiet]

/-- All that a line can do: nothing, a change that is left unsaved, or a change and a save. -/
theorem handleLine_cases [Text.HasCollation] (s : Session) (d : Disk) (line : String) :
    let outcome := Outcome.ofLine s.tasks line
    outcome.isChange = false ∧ s.handleLine d line = (⟨line, outcome, none⟩, s, d) ∨
      outcome.isChange = true ∧ s.options.autosave = false ∧
        s.handleLine d line = (⟨line, outcome, none⟩, s.after outcome, d) ∨
      outcome.isChange = true ∧ s.options.autosave = true ∧
        s.handleLine d line =
          (⟨line, outcome, some ((s.after outcome).save d).1⟩, ((s.after outcome).save d).2) := by
  intro outcome
  cases change : outcome.isChange with
  | false =>
    exact .inl ⟨rfl, by simp [handleLine_eq, savesAfter, outcome, change, after_of_not_change]⟩
  | true =>
    cases auto : s.options.autosave with
    | false => exact .inr (.inl ⟨rfl, rfl, by simp [handleLine_eq, savesAfter, outcome, change, auto]⟩)
    | true => exact .inr (.inr ⟨rfl, rfl, by simp [handleLine_eq, savesAfter, outcome, change, auto]⟩)

@[simp] theorem options_after (s : Session) (outcome : Outcome) :
    (s.after outcome).options = s.options := rfl

@[simp] theorem options_save (s : Session) (d : Disk) : (s.save d).2.1.options = s.options := by
  rw [save_eq]
  unfold settle
  dsimp only
  split <;> rfl

@[simp] theorem file_save (s : Session) (d : Disk) : (s.save d).2.1.file = s.file := by
  rw [save_eq]
  unfold settle
  dsimp only
  split <;> rfl

theorem unsaved_save_iff {s : Session} {d : Disk} :
    (s.save d).2.1.unsaved = true ↔ s.unsaved = true ∧ (s.save d).1 ≠ .ok () := by
  rw [save_eq]
  unfold settle
  dsimp only
  split
  · next ok => simp [ok]
  · next e failed => simp [failed]

theorem options_handleLine [Text.HasCollation] (s : Session) (d : Disk) (line : String) :
    (s.handleLine d line).2.1.options = s.options := by
  rcases handleLine_cases s d line with ⟨_, same⟩ | ⟨_, _, same⟩ | ⟨_, _, same⟩ <;> simp [same]

theorem save_eq_of_ok (ok : (s.save d).1 = .ok ()) :
    ∃ d', Store.save d s.file s.tasks = (.ok (), d') ∧
      s.save d = (.ok (), { s with unsaved := false }, d') := by
  rw [save_eq] at ok ⊢
  cases stored : Store.save d s.file s.tasks with
  | mk result d' =>
    rw [stored] at ok
    obtain rfl : result = .ok () := ok
    exact ⟨d', rfl, rfl⟩

/-- How a conversation on some lines comes to its end, turn by turn. -/
inductive Held [Text.HasCollation] : Session → Disk → Sink → List (Option String) → Talk → Prop
  | unprompted {s : Session} {d : Disk} {k : Sink} {lines : List (Option String)}
      (full : k.put? s.options.prompt = none) : Held s d k lines ⟨[], .unwritable, s, d, k⟩
  | endOfInput {s : Session} {d : Disk} {k k₁ : Sink} (shown : k.put? s.options.prompt = some k₁) :
      Held s d k [] ⟨[], .endOfInput, s, d, k₁⟩
  | notUtf8 {s : Session} {d : Disk} {k k₁ : Sink} {rest : List (Option String)}
      (shown : k.put? s.options.prompt = some k₁) :
      Held s d k (none :: rest) ⟨[], .notUtf8, s, d, k₁⟩
  | unanswered {s s₁ : Session} {d d₁ : Disk} {k k₁ : Sink} {line : String} {turn : Turn}
      {rest : List (Option String)} (shown : k.put? s.options.prompt = some k₁)
      (answered : s.handleLine d line = (turn, s₁, d₁))
      (full : k₁.put? (turn.response ++ "\n") = none) :
      Held s d k (some line :: rest) ⟨[turn], .unwritable, s₁, d₁, k₁⟩
  | bye {s s₁ : Session} {d d₁ : Disk} {k k₁ k₂ : Sink} {line : String} {turn : Turn}
      {rest : List (Option String)} (shown : k.put? s.options.prompt = some k₁)
      (answered : s.handleLine d line = (turn, s₁, d₁))
      (shown' : k₁.put? (turn.response ++ "\n") = some k₂) (exit : turn.isExit = true) :
      Held s d k (some line :: rest) ⟨[turn], .bye, s₁, d₁, k₂⟩
  | turn {s s₁ : Session} {d d₁ : Disk} {k k₁ k₂ : Sink} {line : String} {turn : Turn}
      {rest : List (Option String)} {talk : Talk} (shown : k.put? s.options.prompt = some k₁)
      (answered : s.handleLine d line = (turn, s₁, d₁))
      (shown' : k₁.put? (turn.response ++ "\n") = some k₂) (goesOn : turn.isExit = false)
      (more : Held s₁ d₁ k₂ rest talk) :
      Held s d k (some line :: rest) { talk with turns := turn :: talk.turns }

theorem held_converse [Text.HasCollation] (s : Session) (d : Disk) (k : Sink)
    (lines : List (Option String)) :
    Held s d k lines (s.converse d k lines) := by
  induction lines generalizing s d k with
  | nil =>
    rw [converse_eq]
    cases shown : k.put? s.options.prompt with
    | none => exact .unprompted shown
    | some k₁ => exact .endOfInput shown
  | cons first rest ih =>
    rw [converse_eq]
    cases shown : k.put? s.options.prompt with
    | none => exact .unprompted shown
    | some k₁ =>
      cases first with
      | none => exact .notUtf8 shown
      | some line =>
        dsimp only
        split
        · next full => exact .unanswered shown rfl full
        · next k₂ shown' =>
          split
          · next exit => exact .bye shown rfl shown' exit
          · next goesOn => exact .turn shown rfl shown' (Bool.eq_false_iff.mpr goesOn) (ih _ _ _)

/-- A conversation on the first lines of an input has the first turns of the conversation on all of
them: no turn looks ahead. -/
theorem turns_converse_take [Text.HasCollation] (s : Session) (d : Disk) (k : Sink)
    (lines : List (Option String))
    (n : Nat) : (s.converse d k (lines.take n)).turns = (s.converse d k lines).turns.take n := by
  induction lines generalizing s d k n with
  | nil =>
    have silent : (s.converse d k []).turns = [] := by
      rw [converse_eq]
      cases k.put? s.options.prompt <;> rfl
    simp [silent]
  | cons first rest ih =>
    cases n with
    | zero =>
      rw [converse_eq]
      cases k.put? s.options.prompt <;> simp
    | succ n =>
      rw [List.take_succ_cons, converse_eq s d k (first :: rest.take n),
        converse_eq s d k (first :: rest)]
      cases k.put? s.options.prompt with
      | none => simp
      | some k₁ =>
        cases first with
        | none => simp
        | some line =>
          dsimp only
          split
          · simp
          · next k₂ _ =>
            split
            · simp
            · simp [ih]

theorem close_of_unsaved {talk : Talk} (h : talk.session.unsaved = true) :
    (close talk).talk = talk ∧ (close talk).closing = some (talk.session.save talk.disk).1 ∧
      (close talk).session = (talk.session.save talk.disk).2.1 ∧
      (close talk).disk = (talk.session.save talk.disk).2.2 := by
  rw [close_eq, if_pos h]
  obtain ⟨saved, s, d⟩ := talk.session.save talk.disk
  cases saved with
  | ok => exact ⟨rfl, rfl, rfl, rfl⟩
  | error e =>
    dsimp only
    cases talk.sink.put? (e.message ++ "\n") <;> exact ⟨rfl, rfl, rfl, rfl⟩

theorem close_of_saved {talk : Talk} (h : talk.session.unsaved = false) :
    close talk = ⟨talk, none, .ok (), talk.session, talk.disk, talk.sink⟩ := by
  simp [close_eq, h]

theorem finish_cases (talk : Talk) :
    (talk.ending = .bye ∨ talk.ending = .endOfInput) ∧ talk.session.unsaved = true ∧
        (finish talk).talk = talk ∧
        (finish talk).closing = some (talk.session.save talk.disk).1 ∧
        (finish talk).session = (talk.session.save talk.disk).2.1 ∧
        (finish talk).disk = (talk.session.save talk.disk).2.2 ∨
      ((talk.ending = .notUtf8 ∨ talk.ending = .unwritable) ∧ (finish talk).result ≠ .ok () ∨
          talk.session.unsaved = false) ∧
        (finish talk).talk = talk ∧ (finish talk).closing = none ∧
        (finish talk).session = talk.session ∧ (finish talk).disk = talk.disk := by
  rw [finish_eq]
  cases ending : talk.ending with
  | bye | endOfInput =>
    cases unsaved : talk.session.unsaved with
    | false =>
      rw [close_of_saved unsaved]
      exact .inr ⟨.inr rfl, rfl, rfl, rfl, rfl⟩
    | true =>
      exact .inl ⟨by simp, rfl, close_of_unsaved unsaved⟩
  | notUtf8 | unwritable => exact .inr ⟨.inl ⟨by simp, by simp⟩, rfl, rfl, rfl, rfl⟩

theorem run_cases [Text.HasCollation] (s : Session) (d : Disk) (k : Sink) (input : ByteArray) :
    ∃ talk, s.run d k input = finish talk ∧
      (talk = ⟨[], .unwritable, s, d, k⟩ ∨
        ∃ k₁, Held s d k₁ (Text.streamLines input) talk) := by
  rw [run_eq]
  dsimp only
  split
  · split
    · exact ⟨_, rfl, .inr ⟨_, held_converse _ _ _ _⟩⟩
    · exact ⟨_, rfl, .inl rfl⟩
  · exact ⟨_, rfl, .inr ⟨_, held_converse _ _ _ _⟩⟩

end Session

end Taskbook
