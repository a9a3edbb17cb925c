import Taskbook.Proofs.Command.Numbering

/-! A command carried out a step at a time, on a list that each step may change. A number is held
against the list in 64 bits, and the task is then looked up once more; so on the way the arithmetic
could leave its range, the task could be missing, and the list could be changed before something
fails. None of this happens: the steps end in what `execute` says, and a command that fails leaves
the list as it was. -/

set_option autoImplicit false

namespace Taskbook

inductive Stop where
  | told (error : ExecuteError)
  /-- The number was let through, and then there was no such task. -/
  | disappeared (number : TaskNumber)
  /-- A difference that 64 bits do not hold. -/
  | overflow
  deriving DecidableEq, Repr

/-- Steps on a list of tasks. What they make of the list stays, whether they succeed or not. -/
abbrev Steps := EStateM Stop TaskList

variable {tasks changed : TaskList} {command : Command} {number : TaskNumber} {response : String}
  {error : ExecuteError}

section Words

def difference? (a b : Int64) : Option Int64 :=
  if (a - b).toInt = a.toInt - b.toInt then some (a - b) else none

def position? (n : Int64) : Option Nat :=
  if n < 0 then none else some n.toNatClampNeg

private theorem position?_eq (n : Int64) :
    position? n = if n.toInt < 0 then none else some n.toInt.toNat := by
  have negative : n < 0 ↔ n.toInt < 0 := Int64.lt_iff_toInt_lt
  simp only [position?, negative, Int64.toNat_toInt]

namespace TaskNumber

def word (number : TaskNumber) : Int64 := Int64.ofInt number.value

private theorem toInt_word (number : TaskNumber) : number.word.toInt = number.value := by
  have least := number.least
  have greatest := number.greatest
  apply Int64.toInt_ofInt_of_le <;> omega

private theorem toInt_word_sub_one (number : TaskNumber) :
    (number.word - 1).toInt = number.value - 1 := by
  have least := number.least
  have greatest := number.greatest
  have one : (1 : Int64).toInt = 1 := by decide
  rw [Int64.toInt_sub, toInt_word, one]
  apply Int.bmod_eq_of_le <;> omega

private theorem difference?_word (number : TaskNumber) :
    difference? number.word 1 = some (number.word - 1) := by
  have one : (1 : Int64).toInt = 1 := by decide
  have exact : (number.word - 1).toInt = number.word.toInt - (1 : Int64).toInt := by
    rw [toInt_word_sub_one, toInt_word, one]
  exact if_pos exact

end TaskNumber

end Words

section Stepwise

/-- The position that a number stands for in the list as it is now. -/
def TaskNumber.place (number : TaskNumber) (action : String) : Steps Nat := do
  let tasks ← get
  if tasks.isEmpty then throw (.told (.noTasks action))
  match difference? number.word 1 with
  | none => throw .overflow
  | some before =>
    match (position? before).filter (· < tasks.length) with
    | none => throw (.told (.outOfRange tasks.length))
    | some index => pure index

namespace Command

/-- The task with a number is looked up and marked where it is. -/
def performMark (number : TaskNumber) (done : Bool) : Steps String := do
  let index ← number.place "mark"
  match (← get).mark? index done with
  | none => throw (.disappeared number)
  | some (task, changed) =>
    set changed
    return task.markedText

/-- The text about a new task is made before the task is in the list, the count after it. -/
def performAdd (task : Task) : Steps String := do
  let text := "Got it. I've added this task:\n  " ++ task.render
  modify fun tasks => tasks.add task
  return text ++ (← get).countLine

def performDelete (number : TaskNumber) : Steps String := do
  let index ← number.place "delete"
  match (← get).remove? index with
  | none => throw (.disappeared number)
  | some (task, rest) =>
    set rest
    return "Noted. I've removed this task:\n  " ++ task.render ++ (← get).countLine

def performList [Text.HasCollation] (view : View) : Steps String := do
  let tasks ← get
  if tasks.isEmpty then throw (.told .nothingToList)
  match tasks.view view with
  | .error error => throw (.told (.view error))
  | .ok text => return "You and I are a team.\nHere is the task list:" ++ text

def perform [Text.HasCollation] : Command → Steps String
  | exit => return farewell
  | list view => performList view
  | mark number => performMark number true
  | unmark number => performMark number false
  | addTodo description => performAdd (.todo description)
  | addDeadline description due => performAdd (.deadline description due)
  | addEvent description start finish => performAdd (.event description start finish)
  | delete number => performDelete number

end Command

/-- The end of the steps for what is said at once: an error leaves the list that was there. -/
def ending {α : Type} (tasks : TaskList) :
    Except ExecuteError (α × TaskList) → EStateM.Result Stop TaskList α
  | .ok (result, changed) => .ok result changed
  | .error error => .error (.told error) tasks

end Stepwise

private theorem filter_position?_word (number : TaskNumber) (tasks : TaskList) :
    (position? (number.word - 1)).filter (· < tasks.length) =
      if 1 ≤ number.value ∧ number.value ≤ tasks.length then some (number.value - 1).toNat
      else none := by
  rw [position?_eq, number.toInt_word_sub_one]
  by_cases below : number.value - 1 < 0
  · have outside : ¬ (1 ≤ number.value ∧ number.value ≤ tasks.length) := by omega
    rw [if_pos below, if_neg outside]
    rfl
  · rw [if_neg below, Option.filter_some]
    have same : (number.value - 1).toNat < tasks.length ↔
        1 ≤ number.value ∧ number.value ≤ tasks.length := by omega
    simp only [same, decide_eq_true_eq]

private theorem TaskNumber.run_place (number : TaskNumber) (action : String) (tasks : TaskList) :
    (number.place action).run tasks =
      ending tasks ((tasks.position number action).map fun index => (index.val, tasks)) := by
  unfold place TaskList.position
  rw [number.difference?_word]
  -- Both complain about an empty list before they look at the number.
  by_cases empty : tasks.isEmpty = true
  · simp only [EStateM.run_bind, EStateM.run_get, if_pos empty]
    rfl
  · simp only [EStateM.run_bind, EStateM.run_get, if_neg empty, filter_position?_word]
    by_cases inside : 1 ≤ number.value ∧ number.value ≤ tasks.length
    · rw [if_pos inside, dif_pos inside]
      rfl
    · rw [if_neg inside, dif_neg inside]
      rfl

namespace Command

private theorem run_performMark (number : TaskNumber) (done : Bool) (tasks : TaskList) :
    (performMark number done).run tasks =
      ending tasks ((tasks.position number "mark").map fun index =>
        ((tasks.mark index done).1.markedText, (tasks.mark index done).2)) := by
  rw [performMark, EStateM.run_bind, number.run_place]
  cases tasks.position number "mark" with
  | error error => rfl
  | ok index =>
    have found : tasks.mark? index done = some (tasks.mark index done) := dif_pos index.isLt
    simp only [ending, Except.map, EStateM.run_bind, EStateM.run_get, found]
    rfl

private theorem run_performDelete [Text.HasCollation] (number : TaskNumber) (tasks : TaskList) :
    (performDelete number).run tasks = ending tasks ((delete number).execute tasks) := by
  rw [performDelete, EStateM.run_bind, number.run_place]
  change _ = ending tasks ((tasks.position number "delete").map _)
  cases tasks.position number "delete" with
  | error error => rfl
  | ok index =>
    have found : tasks.remove? index = some (tasks.remove index) := dif_pos index.isLt
    simp only [ending, Except.map, EStateM.run_bind, EStateM.run_get, found]
    rfl

private theorem run_performList [Text.HasCollation] (view : View) (tasks : TaskList) :
    (performList view).run tasks = ending tasks ((list view).execute tasks) := by
  rw [performList, execute, EStateM.run_bind, EStateM.run_get]
  by_cases empty : tasks.isEmpty = true
  · simp only [if_pos empty]
    rfl
  · simp only [if_neg empty]
    cases tasks.view view <;> rfl

/-- The steps of a command end in what is said of it at once. -/
theorem run_perform [Text.HasCollation] (command : Command) (tasks : TaskList) :
    command.perform.run tasks = ending tasks (command.execute tasks) := by
  cases command with
  | list view => exact run_performList view tasks
  | mark number => exact run_performMark number true tasks
  | unmark number => exact run_performMark number false tasks
  | delete number => exact run_performDelete number tasks
  | exit | addTodo | addDeadline | addEvent => rfl

/-- Below the least number of 32 bits there is still room. -/
example : (mark ⟨-2147483648, by decide, by decide⟩).perform.run [.todo "a"] =
    .error (.told (.outOfRange 1)) [.todo "a"] := rfl

end Command

private theorem ending_eq_ok_iff {α : Type} {said : Except ExecuteError (α × TaskList)}
    {result : α} :
    ending tasks said = .ok result changed ↔ said = .ok (result, changed) := by
  cases said with
  | error error => simp [ending]
  | ok pair => simp [ending, Prod.ext_iff]

private theorem ending_eq_error_iff {α : Type} {said : Except ExecuteError (α × TaskList)}
    {stop : Stop} {left : TaskList} :
    ending tasks said = .error stop left ↔
      left = tasks ∧ ∃ error, stop = .told error ∧ said = .error error := by
  cases said with
  | error error =>
    constructor
    · intro same
      obtain ⟨rfl, rfl⟩ := EStateM.Result.error.inj same
      exact ⟨rfl, error, rfl, rfl⟩
    · rintro ⟨rfl, _, rfl, same⟩
      obtain rfl := Except.error.inj same
      rfl
  | ok pair => simp [ending]

section Failing

private theorem DateField.exists_ofName?_iff {name : String} :
    (∃ field, ofName? name = some field) ↔ name ∈ ["due", "by", "start", "from", "end", "to"] := by
  simp only [ofName?_eq_some_iff]
  constructor
  · rintro ⟨field, rfl | rfl⟩ <;> cases field <;> decide
  · intro mem
    simp only [List.mem_cons, List.not_mem_nil, or_false] at mem
    rcases mem with named | named | named | named | named | named
    · exact ⟨due, .inl named⟩
    · exact ⟨due, .inr named⟩
    · exact ⟨start, .inl named⟩
    · exact ⟨start, .inr named⟩
    · exact ⟨finish, .inl named⟩
    · exact ⟨finish, .inr named⟩

namespace TaskList

private theorem view_eq_error_iff [Text.HasCollation] {view : View} {error : ViewError} :
    tasks.view view = .error error ↔ ∃ name, view = .byDate name ∧
      name ∉ ["due", "by", "start", "from", "end", "to"] ∧ error = .unknownField name := by
  cases view with
  | all =>
    constructor
    · intro failed
      cases failed
    · rintro ⟨name, same, -⟩
      cases same
  | byDate name =>
    simp only [← DateField.exists_ofName?_iff, View.byDate.injEq, exists_eq_left']
    cases known : DateField.ofName? name with
    | none => simp [view, known, eq_comm]
    | some field =>
      rw [view_byDate known]
      split <;> simp

private theorem position_eq_error_iff {action : String} :
    tasks.position number action = .error error ↔
      tasks = [] ∧ error = .noTasks action ∨
        tasks ≠ [] ∧ ¬ (1 ≤ number.value ∧ number.value ≤ tasks.length) ∧
          error = .outOfRange tasks.length := by
  unfold position
  by_cases empty : tasks = []
  · rw [if_pos (List.isEmpty_iff.mpr empty)]
    simp [empty, eq_comm]
  · rw [if_neg (mt List.isEmpty_iff.mp empty)]
    by_cases inside : 1 ≤ number.value ∧ number.value ≤ tasks.length
    · rw [dif_pos inside]
      simp [empty, inside]
    · rw [dif_neg inside, Except.error.injEq]
      constructor
      · intro same
        exact .inr ⟨empty, inside, same.symm⟩
      · rintro (⟨none, -⟩ | ⟨-, -, same⟩)
        · exact absurd none empty
        · exact same.symm

end TaskList

namespace Command

def number? : Command → Option TaskNumber
  | mark number | unmark number | delete number => some number
  | exit | list _ | addTodo _ | addDeadline _ _ | addEvent _ _ _ => none

/-- The word for what a command does to the task that it is about. Tasks are also said to be marked
when a mark is taken away. -/
def action : Command → String
  | delete _ => "delete"
  | _ => "mark"

/-- The errors of a command on a list, each with its reason. -/
inductive Fails (tasks : TaskList) : Command → ExecuteError → Prop
  | nothingToList (empty : tasks = []) (view : View) : Fails tasks (list view) .nothingToList
  | noTasks (empty : tasks = []) {command : Command} {number : TaskNumber}
      (about : command.number? = some number) : Fails tasks command (.noTasks command.action)
  | outOfRange (nonempty : tasks ≠ []) {command : Command} {number : TaskNumber}
      (about : command.number? = some number)
      (outside : ¬ (1 ≤ number.value ∧ number.value ≤ tasks.length)) :
      Fails tasks command (.outOfRange tasks.length)
  | unknownField (nonempty : tasks ≠ []) {name : String}
      (unknown : name ∉ ["due", "by", "start", "from", "end", "to"]) :
      Fails tasks (list (.byDate name)) (.view (.unknownField name))

private theorem execute_eq_error_iff_position [Text.HasCollation]
    (about : command.number? = some number) :
    command.execute tasks = .error error ↔
      tasks.position number command.action = .error error := by
  have mapped {α : Type} (found : Except ExecuteError (Fin tasks.length))
      (f : Fin tasks.length → α) : found.map f = .error error ↔ found = .error error := by
    cases found <;> simp [Except.map]
  cases command with
  | mark | unmark | delete =>
    obtain rfl := Option.some.inj about
    exact mapped _ _
  | exit | list | addTodo | addDeadline | addEvent => exact absurd about (by simp [number?])

private theorem execute_list_eq_error_iff [Text.HasCollation] {view : View} :
    (list view).execute tasks = .error error ↔
      tasks = [] ∧ error = .nothingToList ∨
        tasks ≠ [] ∧ ∃ reason, tasks.view view = .error reason ∧ error = .view reason := by
  rw [execute]
  by_cases empty : tasks = []
  · rw [if_pos (List.isEmpty_iff.mpr empty)]
    simp [empty, eq_comm]
  · rw [if_neg (mt List.isEmpty_iff.mp empty)]
    cases tasks.view view with
    | ok text => simp [empty]
    | error reason => simp [empty, eq_comm]

/-- A command fails for the reasons that there are, and says which. -/
theorem execute_eq_error_iff [Text.HasCollation] :
    command.execute tasks = .error error ↔ Fails tasks command error := by
  constructor
  · intro failed
    cases about : command.number? with
    | some number =>
      have lookup := (execute_eq_error_iff_position about).mp failed
      rcases TaskList.position_eq_error_iff.mp lookup with ⟨empty, rfl⟩ | ⟨nonempty, outside, rfl⟩
      · exact .noTasks empty about
      · exact .outOfRange nonempty about outside
    | none =>
      cases command with
      | list view =>
        rcases execute_list_eq_error_iff.mp failed with ⟨empty, rfl⟩ | ⟨nonempty, _, shown, rfl⟩
        · exact .nothingToList empty view
        · obtain ⟨name, rfl, unknown, rfl⟩ := TaskList.view_eq_error_iff.mp shown
          exact .unknownField nonempty unknown
      | exit | addTodo | addDeadline | addEvent => exact absurd failed (by simp [execute])
      | mark | unmark | delete => exact absurd about (by simp [number?])
  · intro fails
    cases fails with
    | nothingToList empty view => exact execute_list_eq_error_iff.mpr (.inl ⟨empty, rfl⟩)
    | noTasks empty about =>
      apply (execute_eq_error_iff_position about).mpr
      exact TaskList.position_eq_error_iff.mpr (.inl ⟨empty, rfl⟩)
    | outOfRange nonempty about outside =>
      apply (execute_eq_error_iff_position about).mpr
      exact TaskList.position_eq_error_iff.mpr (.inr ⟨nonempty, outside, rfl⟩)
    | unknownField nonempty unknown =>
      apply execute_list_eq_error_iff.mpr
      exact .inr ⟨nonempty, _, TaskList.view_eq_error_iff.mpr ⟨_, rfl, unknown, rfl⟩, rfl⟩

private theorem exists_fails_iff :
    (∃ error, Fails tasks command error) ↔
      (tasks = [] ∧ ((∃ view, command = .list view) ∨ ∃ number, command.number? = some number)) ∨
      (∃ number, command.number? = some number ∧
        ¬ (1 ≤ number.value ∧ number.value ≤ tasks.length)) ∨
      ∃ name, command = .list (.byDate name) ∧
        name ∉ ["due", "by", "start", "from", "end", "to"] := by
  constructor
  · rintro ⟨_, fails⟩
    cases fails with
    | nothingToList empty view => exact .inl ⟨empty, .inl ⟨view, rfl⟩⟩
    | noTasks empty about => exact .inl ⟨empty, .inr ⟨_, about⟩⟩
    | outOfRange _ about outside => exact .inr (.inl ⟨_, about, outside⟩)
    | unknownField _ unknown => exact .inr (.inr ⟨_, rfl, unknown⟩)
  · by_cases empty : tasks = []
    · rintro (⟨-, ⟨view, rfl⟩ | ⟨number, about⟩⟩ | ⟨number, about, -⟩ | ⟨name, rfl, -⟩)
      · exact ⟨_, .nothingToList empty view⟩
      · exact ⟨_, .noTasks empty about⟩
      · exact ⟨_, .noTasks empty about⟩
      · exact ⟨_, .nothingToList empty _⟩
    · rintro (⟨none, -⟩ | ⟨number, about, outside⟩ | ⟨name, rfl, unknown⟩)
      · exact absurd none empty
      · exact ⟨_, .outOfRange empty about outside⟩
      · exact ⟨_, .unknownField empty unknown⟩

end Command

end Failing

namespace Command

private theorem of_execute_add [Text.HasCollation] {task : Task}
    (h : command.execute tasks = .ok (response, changed)) (adds : command.deed = .add task) :
    changed = tasks ++ [task] ∧
      response = "Got it. I've added this task:\n  " ++ task.render ++ "\nNow you have " ++
        countText changed.length ++ " in the list." := by
  cases command with
  | addTodo | addDeadline | addEvent =>
    obtain rfl := Deed.add.inj adds
    obtain ⟨rfl, rfl⟩ := Prod.mk.inj (Except.ok.inj h)
    refine ⟨rfl, ?_⟩
    simp only [TaskList.countLine, String.append_assoc]
  | exit | list | mark | unmark | delete => exact absurd adds (by simp [deed])

private theorem of_execute_delete [Text.HasCollation]
    (h : (delete number).execute tasks = .ok (response, changed)) :
    ∃ i : Fin tasks.length, number.value = i.val + 1 ∧ changed = tasks.eraseIdx i ∧
      response = "Noted. I've removed this task:\n  " ++ (tasks.get i).render ++
        "\nNow you have " ++ countText changed.length ++ " in the list." := by
  cases does_of_execute h with
  | remove _ _ index counted =>
    have shorter : (tasks.eraseIdx index).length = tasks.length - 1 :=
      List.length_eraseIdx_of_lt index.isLt
    have deleted := (TaskNumber.addresses_of_value counted).delete
    rw [h] at deleted
    refine ⟨index, counted, rfl, ?_⟩
    rw [shorter]
    exact (Prod.mk.inj (Except.ok.inj deleted)).1

/-- A command fails exactly for its reasons, and then all is as it was: the steps of every command
end in an answer, or in an error that the user is told with the list that was there. -/
theorem fails_for_its_reasons_alone [Text.HasCollation] (command : Command) (tasks : TaskList) :
    ((∃ error, command.execute tasks = .error error) ↔
      (tasks = [] ∧ ((∃ view, command = .list view) ∨ ∃ number, command.number? = some number)) ∨
      (∃ number, command.number? = some number ∧
        ¬ (1 ≤ number.value ∧ number.value ≤ tasks.length)) ∨
      ∃ name, command = .list (.byDate name) ∧
        name ∉ ["due", "by", "start", "from", "end", "to"]) ∧
    (∀ stop left, command.perform.run tasks = .error stop left ↔
      left = tasks ∧ ∃ error, stop = .told error ∧ command.execute tasks = .error error) ∧
    (∀ response changed, command.perform.run tasks = .ok response changed ↔
      command.execute tasks = .ok (response, changed)) ∧
    ∀ response changed, command.execute tasks = .ok (response, changed) →
      (∀ task, command.deed = .add task → changed = tasks ++ [task] ∧
        response = "Got it. I've added this task:\n  " ++ task.render ++ "\nNow you have " ++
          countText changed.length ++ " in the list.") ∧
      (∀ number, command = .delete number → ∃ i : Fin tasks.length,
        number.value = i.val + 1 ∧ changed = tasks.eraseIdx i ∧
        response = "Noted. I've removed this task:\n  " ++ (tasks.get i).render ++
          "\nNow you have " ++ countText changed.length ++ " in the list.") ∧
      (command.isMutating = false → changed = tasks) := by
  refine ⟨?reasons, fun stop left => ?fails, fun response changed => ?succeeds,
    fun response changed h => ⟨fun task => of_execute_add h, ?deletes, execute_eq_of_not_mutating h⟩⟩
  case reasons =>
    simp only [execute_eq_error_iff]
    exact exists_fails_iff
  case fails =>
    rw [run_perform]
    exact ending_eq_error_iff
  case succeeds =>
    rw [run_perform]
    exact ending_eq_ok_iff
  case deletes =>
    rintro number rfl
    exact of_execute_delete h

end Command

end Taskbook
