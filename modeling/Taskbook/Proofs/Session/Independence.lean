import Taskbook.Proofs.Command.Chronicle
import Taskbook.Proofs.Session.Autosave

/-! What lines do to the list and what they are answered, whatever becomes of the saves. Both go by
the commands alone, and the disk is left as it is unless a change has succeeded and is saved at
once. -/

set_option autoImplicit false

namespace Taskbook

/-- What a line comes to on a list that is kept nowhere. -/
structure Effect where
  text : String
  tasks : TaskList
  isExit : Bool
  /-- Whether a command that changes lists has succeeded. -/
  isChange : Bool

/-- The command on a line is read and, if there is one, carried out. -/
def TaskList.effect [Text.HasCollation] (tasks : TaskList) (line : String) : Effect :=
  match Command.ofLine line with
  | .error refusal => ⟨refusal.error.message, tasks, false, false⟩
  | .ok command =>
    match command.execute tasks with
    | .error error => ⟨error.message, tasks, false, false⟩
    | .ok (response, changed) => ⟨response, changed, command.isExit, command.isMutating⟩

private theorem TaskList.effect_eq [Text.HasCollation] (tasks : TaskList) (line : String) :
    let outcome := Outcome.ofLine tasks line
    tasks.effect line =
      ⟨outcome.text, outcome.tasksAfter tasks, outcome.isExit, outcome.isChange⟩ := by
  unfold TaskList.effect Outcome.ofLine
  cases Command.ofLine line with
  | error refusal => rfl
  | ok command =>
    dsimp only
    cases command.execute tasks with
    | error error => rfl
    | ok done => rfl

private theorem Turn.response_eq (turn : Turn) :
    turn.response = turn.outcome.text ++ (match turn.save with
      | some (.error e) => "\n" ++ e.message
      | _ => "") := by
  unfold Turn.response
  cases turn.save with
  | none => exact String.append_empty.symm
  | some result =>
    cases result with
    | ok done => exact String.append_empty.symm
    | error e => exact String.append_assoc

namespace Session

/-- A session that answers lines while others do to the disk what they like: with every line it comes
to another disk. -/
def answerOn [Text.HasCollation] (s : Session) (lines : List (Disk × String)) : Session :=
  lines.foldl (fun s entry => (s.handleLine entry.1 entry.2).2.1) s

theorem tasks_answerOn [Text.HasCollation] (s : Session) (lines : List (Disk × String)) :
    (s.answerOn lines).tasks =
      (s.tasks.carryOut (lines.filterMap fun entry => (Command.ofLine entry.2).toOption)).tasks := by
  induction lines generalizing s with
  | nil => rfl
  | cons entry rest ih =>
    have step := tasks_handleLine s entry.1 entry.2
    have later := ih (s.handleLine entry.1 entry.2).2.1
    unfold answerOn Outcome.ofLine at *
    rw [List.foldl_cons, later, step]
    cases read : Command.ofLine entry.2 with
    | error refusal =>
      rw [List.filterMap_cons_none (by simp [read, Except.toOption])]
      rfl
    | ok command =>
      rw [List.filterMap_cons_some (b := command) (by simp [read, Except.toOption])]
      rw [TaskList.carryOut]
      dsimp only
      cases command.execute s.tasks with
      | error error => rfl
      | ok done => rfl

/-- The list, the answer and the end of the conversation go by the command alone. A save is attempted
after a change where saves are automatic, its failure is reported below the answer, and nothing else
ever touches the disk; where nothing was changed the session is as it was before. -/
theorem handleLine_eq_effect [Text.HasCollation] (s : Session) (d : Disk) (line : String) :
    let effect := s.tasks.effect line
    let stored := Store.save d s.file effect.tasks
    let turn := (s.handleLine d line).1
    let s' := (s.handleLine d line).2.1
    let d' := (s.handleLine d line).2.2
    s'.tasks = effect.tasks ∧ turn.isExit = effect.isExit ∧
      turn.response = effect.text ++ (match turn.save with
        | some (.error e) => "\n" ++ e.message
        | _ => "") ∧
      (if effect.isChange = true ∧ s.options.autosave = true then
        turn.save = some stored.1 ∧ d' = stored.2
      else turn.save = none ∧ d' = d) ∧
      (effect.isChange = false → s' = s ∧ d' = d) := by
  intro effect stored turn s' d'
  have effect_eq : effect = _ := s.tasks.effect_eq line
  have asked : turn.outcome = Outcome.ofLine s.tasks line := outcome_handleLine s d line
  have list : s'.tasks = effect.tasks := by
    rw [effect_eq]
    exact tasks_handleLine s d line
  have exit : turn.isExit = effect.isExit := by
    rw [effect_eq, Turn.isExit, asked]
  have answer := turn.response_eq
  rw [asked, show (Outcome.ofLine s.tasks line).text = effect.text by rw [effect_eq]] at answer
  refine ⟨list, exit, answer, ?_⟩
  have change : effect.isChange = (Outcome.ofLine s.tasks line).isChange := by rw [effect_eq]
  simp only [turn, s', d', change]
  rcases handleLine_cases s d line with ⟨quiet, same⟩ | ⟨made, manual, same⟩ | ⟨made, auto, same⟩
  · rw [same, if_neg (by simp [quiet])]
    exact ⟨⟨rfl, rfl⟩, fun _ => ⟨rfl, rfl⟩⟩
  · rw [same, if_neg (by simp [manual])]
    exact ⟨⟨rfl, rfl⟩, by simp [made]⟩
  · rw [same, if_pos ⟨made, auto⟩]
    have kept : effect.tasks = (s.after (Outcome.ofLine s.tasks line)).tasks := by
      rw [effect_eq]
      rfl
    refine ⟨?_, by simp [made]⟩
    simp only [stored, kept]
    exact ⟨rfl, rfl⟩

end Session

end Taskbook
