import Taskbook.Command.Execute
import Taskbook.Proofs.Command.Spelling
import Taskbook.Proofs.Record

/-! What a command makes of a list of tasks: where its tasks come from, and which commands leave the
list as it was. -/

set_option autoImplicit false

namespace Taskbook

variable {c : Command} {tasks changed : TaskList} {response : String} {t : Task}

namespace Command

theorem execute_eq_of_not_mutating [Text.HasCollation]
    (h : c.execute tasks = .ok (response, changed))
    (quiet : c.isMutating = false) : changed = tasks := by
  cases c with
  | exit => exact (Prod.mk.inj (Except.ok.inj h)).2.symm
  | list view =>
    rw [execute] at h
    split at h
    · exact absurd h (by simp)
    · split at h
      · exact (Prod.mk.inj (Except.ok.inj h)).2.symm
      · exact absurd h (by simp)
  | mark | unmark | addTodo | addDeadline | addEvent | delete =>
    exact absurd quiet (by simp [isMutating])

end Command

inductive Deed where
  | nothing
  | add (task : Task)
  | mark (number : TaskNumber) (done : Bool)
  | remove (number : TaskNumber)

def Command.deed : Command → Deed
  | .exit | .list _ => .nothing
  | .mark number => .mark number true
  | .unmark number => .mark number false
  | .addTodo description => .add (.todo description)
  | .addDeadline description due => .add (.deadline description due)
  | .addEvent description start finish => .add (.event description start finish)
  | .delete number => .remove number

/-- The list before a deed and the one after it. A number that is used is one more than the position
of a task in the list. -/
inductive Deed.Does : Deed → TaskList → TaskList → Prop
  | nothing (tasks : TaskList) : Does .nothing tasks tasks
  | add (tasks : TaskList) (task : Task) : Does (.add task) tasks (tasks ++ [task])
  | mark (tasks : TaskList) (number : TaskNumber) (done : Bool) (index : Fin tasks.length)
      (counted : number.value = (index : Nat) + 1) :
      Does (.mark number done) tasks (tasks.set index { tasks[index] with isDone := done })
  | remove (tasks : TaskList) (number : TaskNumber) (index : Fin tasks.length)
      (counted : number.value = (index : Nat) + 1) :
      Does (.remove number) tasks (tasks.eraseIdx index)

section Deeds

variable {number : TaskNumber}

private theorem TaskList.value_of_position {action : String} {index : Fin tasks.length}
    (h : tasks.position number action = .ok index) : number.value = (index : Nat) + 1 := by
  unfold position at h
  split at h
  · exact absurd h (by simp)
  · split at h
    · obtain rfl := Except.ok.inj h
      dsimp only
      omega
    · exact absurd h (by simp)

private theorem of_map_position {α : Type} {action : String} {f : Fin tasks.length → α} {result : α}
    (h : (tasks.position number action).map f = .ok result) :
    ∃ index : Fin tasks.length, number.value = (index : Nat) + 1 ∧ result = f index := by
  cases position : tasks.position number action with
  | error e => simp [position, Except.map] at h
  | ok index =>
    rw [position] at h
    exact ⟨index, TaskList.value_of_position position, (Except.ok.inj h).symm⟩

/-- All that a command can do to a list. -/
theorem Command.does_of_execute [Text.HasCollation]
    (h : c.execute tasks = .ok (response, changed)) :
    c.deed.Does tasks changed := by
  cases c with
  | exit | list =>
    obtain rfl := execute_eq_of_not_mutating h rfl
    exact .nothing changed
  | mark number | unmark number =>
    obtain ⟨index, counted, same⟩ := of_map_position h
    obtain ⟨_, rfl⟩ := Prod.mk.inj same
    exact .mark tasks number _ index counted
  | addTodo | addDeadline | addEvent =>
    obtain ⟨_, rfl⟩ := Prod.mk.inj (Except.ok.inj h)
    exact .add tasks _
  | delete number =>
    obtain ⟨index, counted, same⟩ := of_map_position h
    obtain ⟨_, rfl⟩ := Prod.mk.inj same
    exact .remove tasks number index counted

private theorem Deed.Does.of_mem {deed : Deed} (does : deed.Does tasks changed)
    (mem : t ∈ changed) :
    (∃ t₀ ∈ tasks, t = t₀ ∨ ∃ done, t = t₀.mark done) ∨ deed = .add t := by
  cases does with
  | nothing => exact .inl ⟨t, mem, .inl rfl⟩
  | add _ task =>
    rcases List.mem_append.mp mem with mem | mem
    · exact .inl ⟨t, mem, .inl rfl⟩
    · exact .inr (List.mem_singleton.mp mem ▸ rfl)
  | mark _ _ done index =>
    rcases List.mem_or_eq_of_mem_set mem with mem | rfl
    · exact .inl ⟨t, mem, .inl rfl⟩
    · exact .inl ⟨tasks[index], List.getElem_mem index.isLt, .inr ⟨done, rfl⟩⟩
  | remove => exact .inl ⟨t, List.mem_of_mem_eraseIdx mem, .inl rfl⟩

theorem Command.of_mem_execute [Text.HasCollation] (h : c.execute tasks = .ok (response, changed))
    (mem : t ∈ changed) :
    (∃ t₀ ∈ tasks, t = t₀ ∨ ∃ done, t = t₀.mark done) ∨ t.texts = c.texts := by
  rcases (does_of_execute h).of_mem mem with old | added
  · exact .inl old
  · cases c with
    | addTodo | addDeadline | addEvent =>
      obtain rfl := Deed.add.inj added
      exact .inr rfl
    | exit | list | mark | unmark | delete => exact absurd added (by simp [deed])

end Deeds

end Taskbook
