import Taskbook.Proofs.Command.Execute
import Taskbook.Proofs.TaskList
import Mathlib.Data.List.FinRange

/-! The numbers that a view shows are those that commands take. A view may leave tasks out and put
them in another order, but the number in front of a task is its place in the whole list, and so it
addresses that task. -/

set_option autoImplicit false

namespace Taskbook

/-- The views that can be shown, with the date that they go by. Every date has two names. -/
inductive View.GoesBy : View → Option DateField → Prop
  | all : GoesBy .all none
  | byDate {name : String} {field : DateField}
      (named : name = field.name ∨ name = field.parameterName) :
      GoesBy (.byDate name) (some field)

def Task.IsShown (t : Task) : Option DateField → Prop
  | none => True
  | some field => (t.date? field).isSome = true

variable {tasks : TaskList} {view : View} {field : DateField} {date : Option DateField}
  {number : TaskNumber}

theorem DateField.ofName?_eq_some_iff {name : String} :
    ofName? name = some field ↔ name = field.name ∨ name = field.parameterName := by
  constructor
  · intro found
    have named := List.find?_some found
    simp only [Bool.or_eq_true, decide_eq_true_eq] at named
    exact named.imp Eq.symm Eq.symm
  · rintro (rfl | rfl) <;> cases field <;> decide

namespace TaskList

section Entries

variable {entries : List (Nat × Task)}

private theorem exists_places (there : ∀ entry ∈ entries, tasks[entry.1]? = some entry.2) :
    ∃ shown : List (Fin tasks.length), entries = shown.map fun i => (i.val, tasks.get i) := by
  induction entries with
  | nil => exact ⟨[], rfl⟩
  | cons entry entries ih =>
    obtain ⟨shown, rfl⟩ := ih fun other mem => there other (List.mem_cons_of_mem _ mem)
    obtain ⟨inside, same⟩ := List.getElem?_eq_some_iff.mp (there entry List.mem_cons_self)
    exact ⟨⟨entry.1, inside⟩ :: shown, by simp [same]⟩

private theorem numbered_eq (tasks : TaskList) :
    tasks.numbered = (List.finRange tasks.length).map fun i => (i.val, tasks.get i) := by
  apply List.ext_getElem
  · simp [numbered]
  · intro i h h'
    simp [numbered]

private theorem exists_places_numberedByDate [Text.HasCollation] (tasks : TaskList)
    (field : DateField) :
    ∃ shown : List (Fin tasks.length),
      tasks.numberedByDate field = shown.map (fun i => (i.val, tasks.get i)) ∧ shown.Nodup ∧
        ∀ i, i ∈ shown ↔ (tasks.get i).IsShown (some field) := by
  have there : ∀ entry ∈ tasks.numberedByDate field, tasks[entry.1]? = some entry.2 :=
    fun entry mem => (mem_numberedBy_iff.mp mem).1
  obtain ⟨shown, same⟩ := exists_places there
  have nodup : ((tasks.numberedByDate field).map Prod.fst).Nodup := nodup_numberedBy _ tasks field
  rw [same, List.map_map] at nodup
  refine ⟨shown, same, nodup.of_map _, fun i => ?_⟩
  have mem : i ∈ shown ↔ (i.val, tasks.get i) ∈ tasks.numberedByDate field := by
    rw [same, List.mem_map]
    constructor
    · intro mem
      exact ⟨i, mem, rfl⟩
    · rintro ⟨j, mem, same⟩
      obtain rfl := Fin.ext (Prod.mk.inj same).1
      exact mem
  apply (mem.trans mem_numberedBy_iff).trans
  exact and_iff_right (List.getElem?_eq_getElem i.isLt)

theorem view_byDate [Text.HasCollation] {name : String}
    (named : DateField.ofName? name = some field) :
    tasks.view (.byDate name) =
      if (tasks.numberedByDate field).isEmpty then
        .ok ("\nNo task has a date for '" ++ field.name ++ "'.")
      else .ok (entriesText (tasks.numberedByDate field)) := by
  rw [view, named]

/-- The lines of a view. Without any there is a line that says so, unless all tasks are shown. -/
def shownText (tasks : TaskList) (date : Option DateField) (shown : List (Fin tasks.length)) :
    String :=
  match date, shown with
  | some field, [] => "\nNo task has a date for '" ++ field.name ++ "'."
  | _, _ => String.join (shown.map fun i =>
      "\n" ++ toString (i.val + 1) ++ ". " ++ (tasks.get i).render)

private theorem entriesText_places (shown : List (Fin tasks.length)) :
    entriesText (shown.map fun i => (i.val, tasks.get i)) =
      String.join (shown.map fun i =>
        "\n" ++ toString (i.val + 1) ++ ". " ++ (tasks.get i).render) := by
  rw [entriesText, List.map_map]
  rfl

private theorem exists_places_view_byDate [Text.HasCollation] {name : String}
    (named : DateField.ofName? name = some field) :
    ∃ shown : List (Fin tasks.length), shown.Nodup ∧
      (∀ i, i ∈ shown ↔ (tasks.get i).IsShown (some field)) ∧
      tasks.view (.byDate name) = .ok (tasks.shownText (some field) shown) := by
  obtain ⟨shown, same, nodup, mem⟩ := exists_places_numberedByDate tasks field
  refine ⟨shown, nodup, mem, ?_⟩
  rw [view_byDate named, same]
  cases shown with
  | nil => rfl
  | cons i shown => exact congrArg Except.ok (entriesText_places (i :: shown))

private theorem exists_places_view [Text.HasCollation] (tasks : TaskList)
    (goes : view.GoesBy date) :
    ∃ shown : List (Fin tasks.length), shown.Nodup ∧ (∀ i, i ∈ shown ↔ (tasks.get i).IsShown date) ∧
      (date = none → shown = List.finRange tasks.length) ∧
      tasks.view view = .ok (tasks.shownText date shown) := by
  cases goes with
  | all =>
    refine ⟨List.finRange tasks.length, List.nodup_finRange _, fun i => ?_, fun _ => rfl, ?_⟩
    · exact iff_of_true (List.mem_finRange i) trivial
    · rw [view, numbered_eq, entriesText_places]
      rfl
  | byDate named =>
    obtain ⟨shown, nodup, mem, text⟩ :=
      exists_places_view_byDate (DateField.ofName?_eq_some_iff.mpr named)
    exact ⟨shown, nodup, mem, fun no => absurd no (by simp), text⟩

end Entries

private theorem position_of_value {index : Fin tasks.length}
    (counted : number.value = (index : Nat) + 1)
    (action : String) : tasks.position number action = .ok index := by
  have some : tasks.isEmpty = false := by
    cases tasks with
    | nil => exact index.elim0
    | cons => rfl
  have inside : 1 ≤ number.value ∧ number.value ≤ tasks.length := by omega
  unfold position
  rw [some, dif_pos inside]
  simp only [Bool.false_eq_true, if_false]
  congr
  omega

end TaskList

/-- A number that addresses the task at a place in every command that takes a number: the answer
shows this task, and no other one is changed. -/
structure TaskNumber.Addresses [Text.HasCollation] (number : TaskNumber) (tasks : TaskList)
    (i : Fin tasks.length) :
    Prop where
  counted : number.value = i.val + 1
  mark : (Command.mark number).execute tasks =
    .ok ("Nice! I've marked this task as done:\n  " ++ { tasks.get i with isDone := true }.render,
      tasks.set i { tasks.get i with isDone := true })
  unmark : (Command.unmark number).execute tasks =
    .ok ("OK, I've marked this task as not done yet:\n  " ++
        { tasks.get i with isDone := false }.render,
      tasks.set i { tasks.get i with isDone := false })
  delete : (Command.delete number).execute tasks =
    .ok ("Noted. I've removed this task:\n  " ++ (tasks.get i).render ++ "\nNow you have " ++
        countText (tasks.length - 1) ++ " in the list.",
      tasks.eraseIdx i)

theorem TaskNumber.addresses_of_value [Text.HasCollation] {i : Fin tasks.length}
    (counted : number.value = i.val + 1) :
    number.Addresses tasks i where
  counted := counted
  mark := by
    change (tasks.position number "mark").map _ = _
    rw [TaskList.position_of_value counted]
    rfl
  unmark := by
    change (tasks.position number "mark").map _ = _
    rw [TaskList.position_of_value counted]
    rfl
  delete := by
    have shorter : (tasks.eraseIdx i).length = tasks.length - 1 :=
      List.length_eraseIdx_of_lt i.isLt
    change (tasks.position number "delete").map _ = _
    rw [TaskList.position_of_value counted, ← shorter]
    simp [Except.map, TaskList.remove, TaskList.countLine, String.append_assoc]

/-- Whoever is shown under a number is addressed by it. -/
theorem view_numbers_address [Text.HasCollation] (tasks : TaskList) (view : View)
    (date : Option DateField) (goes : view.GoesBy date) (small : tasks.length ≤ 2147483647) :
    ∃ shown : List (Fin tasks.length), shown.Nodup ∧ (∀ i, i ∈ shown ↔ (tasks.get i).IsShown date) ∧
      (date = none → shown = List.finRange tasks.length) ∧
      tasks.view view = .ok (tasks.shownText date shown) ∧
      ∀ i ∈ shown, ∃ number : TaskNumber, number.Addresses tasks i := by
  obtain ⟨shown, nodup, mem, all, text⟩ := tasks.exists_places_view goes
  refine ⟨shown, nodup, mem, all, text, fun i _ => ?_⟩
  have inside := i.isLt
  let number : TaskNumber := ⟨i.val + 1, by omega, by omega⟩
  have counted : number.value = i.val + 1 := rfl
  exact ⟨number, TaskNumber.addresses_of_value counted⟩

/-- A view that leaves a task out and shows the last one first, as it is due first. -/
theorem view_numbers_address_by_due_date :
    let tasks : TaskList := [.deadline "a" "2024-10-15", .todo "b", .deadline "c" "2024-04-30"]
    View.GoesBy (.byDate "by") (some .due) ∧ tasks.length ≤ 2147483647 ∧
      ∃ shown : List (Fin tasks.length), shown.Nodup ∧
        (∀ i, i ∈ shown ↔ (tasks.get i).IsShown (some .due)) ∧
        (some DateField.due = none → shown = List.finRange tasks.length) ∧
        tasks.view (.byDate "by") = .ok (tasks.shownText (some .due) shown) ∧
        ∀ i ∈ shown, ∃ number : TaskNumber, number.Addresses tasks i := by
  intro tasks
  have goes : View.GoesBy (.byDate "by") (some .due) := .byDate (.inr rfl)
  have small : tasks.length ≤ 2147483647 := by decide
  exact ⟨goes, small, view_numbers_address tasks _ _ goes small⟩

end Taskbook
