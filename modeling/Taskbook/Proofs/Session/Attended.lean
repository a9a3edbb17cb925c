import Taskbook.Proofs.Session.Visit
import Taskbook.Text.Lexical

/-! Changes that nobody tries to save. In a conversation every change should be followed by an
attempt to save it, even by one that fails; where a conversation breaks off, it may not be. -/

set_option autoImplicit false

namespace Taskbook

/-- What counts for a list of tasks that is kept in a file. -/
inductive Event where
  | change
  | attempt (result : Except SaveError Unit)

/-- The change in a turn comes before the save. -/
def Turn.events (t : Turn) : List Event :=
  (if t.outcome.isChange then [.change] else []) ++ t.save.toList.map .attempt

def Run.events (r : Run) : List Event :=
  r.talk.turns.flatMap Turn.events ++ r.closing.toList.map .attempt

/-- What is unsaved at the start is a change that was not attended to. -/
def Session.pending (s : Session) : List Event := if s.unsaved then [.change] else []

/-- After the last change, if there is one, a save was attempted. -/
def Attended (events : List Event) : Prop :=
  ∀ front back, events = front ++ .change :: back → .change ∉ back →
    ∃ result, .attempt result ∈ back

namespace Event

/-- Whether a save is owed after an event, given whether it was before. -/
def owes (_ : Bool) : Event → Bool
  | change => true
  | attempt _ => false

end Event

variable {events : List Event} {s s₁ : Session} {d d₁ : Disk} {k : Sink} {line : String}
  {turn : Turn}

private theorem attended_iff : Attended events ↔ events.foldl Event.owes false = false := by
  rcases List.eq_nil_or_concat events with rfl | ⟨before, e, rfl⟩
  · simp [Attended]
  · rw [List.concat_eq_append, List.foldl_append]
    cases e with
    | change =>
      refine iff_of_false (fun attended => ?_) (by simp [Event.owes])
      obtain ⟨result, mem⟩ := attended before [] rfl (by simp)
      simp at mem
    | attempt result =>
      refine iff_of_true (fun front back split _ => ⟨result, ?_⟩) (by simp [Event.owes])
      have ends := congrArg List.getLast? split
      rw [List.getLast?_concat, List.getLast?_append_cons] at ends
      cases back with
      | nil => simp at ends
      | cons e back =>
        rw [List.getLast?_cons_cons] at ends
        exact List.mem_of_getLast? ends.symm

def Turn.isChange (t : Turn) : Bool := t.outcome.isChange

private theorem owed_handleLine [Text.HasCollation]
    (answered : s.handleLine d line = (turn, s₁, d₁)) (owed : Bool) :
    turn.events.foldl Event.owes owed =
      if s.options.autosave then owed && !turn.isChange else owed || turn.isChange := by
  rcases Session.handleLine_cases s d line with ⟨quiet, same⟩ | ⟨change, manual, same⟩ |
    ⟨change, auto, same⟩
  all_goals
    obtain ⟨rfl, _⟩ := Prod.mk.inj (answered.symm.trans same)
  · cases s.options.autosave <;> simp [Turn.events, Turn.isChange, quiet]
  · simp [Turn.events, Turn.isChange, change, manual, Event.owes]
  · simp [Turn.events, Turn.isChange, change, auto, Event.owes]

/-- What turns owe: with automatic saves what was owed before, unless there was a change; otherwise
also every change. -/
private theorem owed_of_held [Text.HasCollation] {lines : List (Option String)} {talk : Talk}
    (held : s.Held d k lines talk) (owed : Bool) :
    (talk.turns.flatMap Turn.events).foldl Event.owes owed =
      if s.options.autosave then owed && !talk.turns.any Turn.isChange
      else owed || talk.turns.any Turn.isChange := by
  induction held generalizing owed with
  | unprompted | endOfInput | notUtf8 => simp
  | unanswered _ answered | bye _ answered => simp [owed_handleLine answered]
  | @turn s s₁ d d₁ _ _ _ line turn _ _ _ answered _ _ _ ih =>
    have options : s₁.options = s.options := by
      have same := Session.options_handleLine s d line
      rwa [answered] at same
    rw [List.flatMap_cons, List.foldl_append, ih, owed_handleLine answered, options]
    cases s.options.autosave <;> simp [Bool.and_assoc, Bool.or_assoc]

private theorem unsaved_handleLine [Text.HasCollation]
    (answered : s.handleLine d line = (turn, s₁, d₁)) {owed : Bool}
    (before : owed = true → s.unsaved = true)
    (owes : turn.events.foldl Event.owes owed = true) : s₁.unsaved = true := by
  rcases Session.handleLine_cases s d line with ⟨quiet, same⟩ | ⟨change, manual, same⟩ |
    ⟨change, auto, same⟩
  all_goals
    obtain ⟨rfl, left⟩ := Prod.mk.inj (answered.symm.trans same)
  · obtain ⟨rfl, rfl⟩ := Prod.mk.inj left
    exact before (by simpa [Turn.events, quiet] using owes)
  · obtain ⟨rfl, rfl⟩ := Prod.mk.inj left
    simp [Session.after, change]
  · simp [Turn.events, change, Event.owes] at owes

private theorem unsaved_of_held [Text.HasCollation] {lines : List (Option String)} {talk : Talk}
    (held : s.Held d k lines talk) {owed : Bool} (before : owed = true → s.unsaved = true)
    (owes : (talk.turns.flatMap Turn.events).foldl Event.owes owed = true) :
    talk.session.unsaved = true := by
  induction held generalizing owed with
  | unprompted | endOfInput | notUtf8 => exact before owes
  | unanswered _ answered | bye _ answered =>
    exact unsaved_handleLine answered before (by simpa using owes)
  | turn _ answered _ _ _ ih =>
    rw [List.flatMap_cons, List.foldl_append] at owes
    exact ih (unsaved_handleLine answered before) owes

/-- A conversation attends to the last change exactly if it comes to a regular end, or if it breaks
off with nothing to attend to: with automatic saves that is so after a change, and else without
any. -/
theorem attended_run_iff [Text.HasCollation] (s : Session) (d : Disk) (k : Sink)
    (input : ByteArray) :
    let r := s.run d k input
    Attended (s.pending ++ r.events) ↔
      (r.talk.ending = .bye ∨ r.talk.ending = .endOfInput) ∨
        if s.options.autosave then s.unsaved = false ∨ ∃ t ∈ r.talk.turns, t.isChange = true
        else s.unsaved = false ∧ ∀ t ∈ r.talk.turns, t.isChange = false := by
  intro r
  obtain ⟨talk, same, shape⟩ := s.run_cases d k input
  -- A save is still owed at the end of the lines only if something is unsaved there; then a regular
  -- end attempts one.
  have pending : s.pending.foldl Event.owes false = s.unsaved := by
    cases unsaved : s.unsaved <;> simp [Session.pending, unsaved, Event.owes]
  have owed : (talk.turns.flatMap Turn.events).foldl Event.owes s.unsaved =
      if s.options.autosave then s.unsaved && !talk.turns.any Turn.isChange
      else s.unsaved || talk.turns.any Turn.isChange := by
    rcases shape with rfl | ⟨k₁, held⟩
    · simp
    · exact owed_of_held held s.unsaved
  have unsaved : (talk.turns.flatMap Turn.events).foldl Event.owes s.unsaved = true →
      talk.session.unsaved = true := by
    rcases shape with rfl | ⟨k₁, held⟩
    · exact id
    · exact unsaved_of_held held id
  have nothing : (talk.turns.flatMap Turn.events).foldl Event.owes s.unsaved = false ↔
      if s.options.autosave then s.unsaved = false ∨ ∃ t ∈ talk.turns, t.isChange = true
      else s.unsaved = false ∧ ∀ t ∈ talk.turns, t.isChange = false := by
    rw [owed]
    cases s.options.autosave <;> cases s.unsaved <;> simp
  have finished : r = Session.finish talk := same
  rw [attended_iff, List.foldl_append, pending, Run.events, List.foldl_append, finished]
  rcases Session.finish_cases talk with ⟨regular, _, talk_eq, closing, _⟩ |
    ⟨shut, talk_eq, closing, _⟩
  · rw [talk_eq, closing]
    exact iff_of_true rfl (.inl regular)
  · rw [talk_eq, closing]
    refine nothing.trans ⟨.inr, fun h => h.elim (fun regular => nothing.mp ?_) id⟩
    rcases shut with ⟨broken, _⟩ | saved
    · rcases regular with ending | ending <;> simp [ending] at broken
    · exact Bool.eq_false_iff.mpr fun owes => by simp [unsaved owes] at saved

/-- A change, and behind it a line that is not valid UTF-8: with saves on request, none is
attempted. -/
theorem not_attended_run_of_notUtf8 :
    let s : Session := ⟨[], ⟨["tasks.txt"]⟩, ⟨"", false, false⟩, false⟩
    let d : Disk := ⟨["home"], [(["home"], .folder)], []⟩
    let input : ByteArray := "todo a\n".toUTF8.push 0xFF
    ¬ Attended (s.pending ++ (s.run d .unlimited input).events) := by
  intro s d input
  rw [attended_iff]
  decide +kernel

end Taskbook
