import Taskbook.Proofs.Command.Execute
import Taskbook.Text.Lexical
import Mathlib.Data.List.InsertIdx
import Mathlib.Data.List.Nodup

/-! The past of a list of tasks, and that it tells the list. Positions shift with every task that is
taken out, so the past does not go by them: a task keeps the serial that it gets when it comes, and
what is done to it later is entered under that serial. -/

set_option autoImplicit false

namespace Taskbook

/-- The past of a list. A task's serial is its place among all that ever came. -/
structure Chronicle where
  /-- The tasks as they came, in the order in which they came. -/
  arrivals : List Task
  /-- The serials of the tasks that were taken out. -/
  departures : List Nat
  /-- The serials of the tasks that were marked, with what they were marked as. -/
  marks : List (Nat × Bool)

namespace Chronicle

/-- The arrivals that were not taken out, with their serials. -/
def remaining (past : Chronicle) : List (Task × Nat) :=
  past.arrivals.zipIdx.filter fun entry => !past.departures.contains entry.2

/-- Whether a task is done: as it was marked last, or else as it came. -/
def flag (past : Chronicle) (task : Task) (serial : Nat) : Bool :=
  (past.marks.reverse.find? fun mark => mark.1 = serial).elim task.isDone Prod.snd

def present (past : Chronicle) : TaskList :=
  past.remaining.map fun (task, serial) => { task with isDone := past.flag task serial }

/-- The serial of the task that a number stands for at this moment. -/
def serial? (past : Chronicle) (number : TaskNumber) : Option Nat :=
  if 1 ≤ number.value then past.remaining[(number.value - 1).toNat]?.map Prod.snd else none

def record (past : Chronicle) : Deed → Chronicle
  | .nothing => past
  | .add task => { past with arrivals := past.arrivals ++ [task] }
  | .mark number done =>
    { past with marks := past.marks ++ (past.serial? number).toList.map fun serial => (serial, done) }
  | .remove number =>
    { past with departures := past.departures ++ (past.serial? number).toList }

def ofDeeds (tasks : TaskList) (deeds : List Deed) : Chronicle := deeds.foldl record ⟨tasks, [], []⟩

end Chronicle

def Deed.task? : Deed → Option Task
  | .add task => some task
  | _ => none

def Deed.isRemoval : Deed → Bool
  | .remove _ => true
  | _ => false

structure Labour where
  deeds : List Deed
  tasks : TaskList

/-- Carries out commands, each on the list that the ones before have left. One that fails leaves the
list as it is. -/
def TaskList.carryOut [Text.HasCollation] (tasks : TaskList) : List Command → Labour
  | [] => ⟨[], tasks⟩
  | command :: rest =>
    match command.execute tasks with
    | .ok (_, changed) =>
      let labour := carryOut changed rest
      { labour with deeds := command.deed :: labour.deeds }
    | .error _ => carryOut tasks rest

namespace Chronicle

variable {past : Chronicle} {tasks changed : TaskList} {number : TaskNumber} {deed : Deed}
  {index : Nat}

private theorem eq_of_serial_eq {entry other : Task × Nat} (h : entry ∈ past.arrivals.zipIdx)
    (h' : other ∈ past.arrivals.zipIdx) (same : entry.2 = other.2) : entry = other := by
  have first : past.arrivals[entry.2]? = some entry.1 := List.mk_mem_zipIdx_iff_getElem?.mp h
  have second : past.arrivals[other.2]? = some other.1 := List.mk_mem_zipIdx_iff_getElem?.mp h'
  rw [same, second] at first
  exact Prod.ext (Option.some.inj first).symm same

private theorem nodup_remaining (past : Chronicle) : past.remaining.Nodup := by
  have serials : (past.arrivals.zipIdx.map Prod.snd).Nodup := by
    rw [List.zipIdx_map_snd]
    exact List.nodup_range'
  exact (List.Nodup.of_map Prod.snd serials).filter _

private theorem serial_inj {i j : Nat} (hi : i < past.remaining.length)
    (hj : j < past.remaining.length) :
    past.remaining[i].2 = past.remaining[j].2 ↔ i = j := by
  constructor
  · intro same
    have arrived := List.mem_of_mem_filter (List.getElem_mem hi)
    have arrived' := List.mem_of_mem_filter (List.getElem_mem hj)
    exact past.nodup_remaining.getElem_inj_iff.mp (eq_of_serial_eq arrived arrived' same)
  · rintro rfl
    rfl

private theorem of_mem_remaining {entry : Task × Nat} (h : entry ∈ past.remaining) :
    entry.2 < past.arrivals.length ∧ entry.2 ∉ past.departures := by
  obtain ⟨arrived, stays⟩ := List.mem_filter.mp h
  have bounded := List.snd_lt_of_mem_zipIdx arrived
  exact ⟨by simpa using bounded, by simpa using stays⟩

@[simp] theorem length_present (past : Chronicle) :
    past.present.length = past.remaining.length := List.length_map ..

private theorem serial?_eq (inside : index < past.remaining.length)
    (counted : number.value = (index : Nat) + 1) :
    past.serial? number = some past.remaining[index].2 := by
  have place : (number.value - 1).toNat = index := by omega
  rw [serial?, if_pos (by omega), place, List.getElem?_eq_getElem inside, Option.map_some]

private theorem flag_of_unmarked {serial : Nat} (task : Task)
    (h : ∀ mark ∈ past.marks, mark.1 ≠ serial) :
    past.flag task serial = task.isDone := by
  have nobody : past.marks.reverse.find? (fun mark => mark.1 = serial) = none :=
    List.find?_eq_none.mpr fun mark mem => by simpa using h mark (List.mem_reverse.mp mem)
  rw [flag, nobody, Option.elim_none]

private theorem flag_record_mark (inside : index < past.remaining.length)
    (counted : number.value = (index : Nat) + 1) (done : Bool) (task : Task) (serial : Nat) :
    (past.record (.mark number done)).flag task serial =
      if past.remaining[index].2 = serial then done else past.flag task serial := by
  simp only [flag, record, serial?_eq inside counted, Option.toList_some, List.map_singleton,
    List.reverse_append, List.reverse_singleton, List.singleton_append, List.find?_cons]
  split <;> simp_all

private theorem departures_record_remove (inside : index < past.remaining.length)
    (counted : number.value = (index : Nat) + 1) :
    (past.record (.remove number)).departures = past.departures ++ [past.remaining[index].2] := by
  simp [record, serial?_eq inside counted]

private theorem remaining_record_remove (inside : index < past.remaining.length)
    (counted : number.value = (index : Nat) + 1) :
    (past.record (.remove number)).remaining = past.remaining.eraseIdx index := by
  have arrived := List.mem_of_mem_filter (List.getElem_mem inside)
  calc (past.record (.remove number)).remaining
      = past.arrivals.zipIdx.filter fun entry =>
          !(past.departures ++ [past.remaining[index].2]).contains entry.2 := by
        rw [← departures_record_remove inside counted]
        rfl
    _ = past.arrivals.zipIdx.filter fun entry =>
          entry != past.remaining[index] && !past.departures.contains entry.2 := by
        refine List.filter_congr fun entry mem => ?_
        by_cases same : entry = past.remaining[index]
        · simp [same]
        · have other := mt (eq_of_serial_eq mem arrived) same
          simp [same, other]
    _ = past.remaining.eraseIdx index := by
        have nodup := past.nodup_remaining
        rw [← nodup.erase_getElem index inside, nodup.erase_eq_filter]
        exact List.filter_filter.symm

/-- A past that led to a list. Every serial in it is that of a task, no task was taken out twice, and
whoever came has remained or was taken out. -/
structure LedTo (past : Chronicle) (tasks : TaskList) : Prop where
  present_eq : past.present = tasks
  nodup : past.departures.Nodup
  arrived : ∀ serial ∈ past.departures, serial < past.arrivals.length
  marked : ∀ mark ∈ past.marks, mark.1 < past.arrivals.length
  length : tasks.length + past.departures.length = past.arrivals.length

namespace LedTo

private theorem add (led : past.LedTo tasks) (task : Task) :
    (past.record (.add task)).LedTo (tasks ++ [task]) := by
  have last : past.arrivals.length ∉ past.departures :=
    fun mem => absurd (led.arrived _ mem) (lt_irrefl _)
  have remaining : (past.record (.add task)).remaining =
      past.remaining ++ [(task, past.arrivals.length)] := by
    simp [Chronicle.remaining, record, List.zipIdx_append, last]
  have flag : past.flag task past.arrivals.length = task.isDone :=
    flag_of_unmarked task fun mark mem => (led.marked mark mem).ne
  have longer : (past.record (.add task)).arrivals.length = past.arrivals.length + 1 :=
    List.length_append
  refine ⟨?_, led.nodup, fun serial mem => ?_, fun mark mem => ?_, ?_⟩
  · change (past.record (.add task)).remaining.map _ = _
    rw [remaining, List.map_append, List.map_singleton, ← led.present_eq]
    exact congrArg (fun done => past.present ++ [{ task with isDone := done }]) flag
  · exact longer ▸ Nat.lt_succ_of_lt (led.arrived serial mem)
  · exact longer ▸ Nat.lt_succ_of_lt (led.marked mark mem)
  · have before := led.length
    rw [longer, List.length_append, List.length_singleton]
    change tasks.length + 1 + past.departures.length = _
    omega

private theorem mark (led : past.LedTo tasks) (done : Bool) (index : Fin tasks.length)
    (counted : number.value = (index : Nat) + 1) :
    (past.record (.mark number done)).LedTo (tasks.mark index done).2 := by
  obtain ⟨index, inside⟩ := index
  obtain rfl := led.present_eq
  have inside' : index < past.remaining.length := past.length_present ▸ inside
  refine ⟨?_, led.nodup, led.arrived, fun mark mem => ?_, ?_⟩
  · unfold TaskList.mark Task.mark
    refine List.ext_getElem ?_ fun i h _ => ?_
    · rw [List.length_set, length_present, length_present]
      rfl
    · have h' : i < past.remaining.length := by
        rw [length_present] at h
        exact h
      have remaining : (past.record (.mark number done)).remaining = past.remaining := rfl
      have flag := flag_record_mark inside' counted done past.remaining[i].1 past.remaining[i].2
      rw [List.getElem_set]
      simp only [present, List.getElem_map, remaining, flag]
      by_cases same : index = i
      · obtain rfl := same
        rw [if_pos rfl, if_pos rfl]
        simp only [Fin.getElem_fin, List.getElem_map]
      · rw [if_neg same, if_neg (mt (serial_inj inside' h').mp same)]
  · simp only [record, serial?_eq inside' counted] at mem
    rcases List.mem_append.mp mem with mem | mem
    · exact led.marked mark mem
    · obtain rfl : mark = (past.remaining[index].2, done) := by simpa using mem
      exact (of_mem_remaining (List.getElem_mem inside')).1
  · rw [TaskList.mark, List.length_set]
    exact led.length

private theorem remove (led : past.LedTo tasks) (index : Fin tasks.length)
    (counted : number.value = (index : Nat) + 1) :
    (past.record (.remove number)).LedTo (tasks.eraseIdx index) := by
  obtain ⟨index, inside⟩ := index
  obtain rfl := led.present_eq
  have inside' : index < past.remaining.length := past.length_present ▸ inside
  have departures := departures_record_remove inside' counted
  obtain ⟨arrived, stays⟩ := of_mem_remaining (List.getElem_mem inside')
  refine ⟨?_, ?_, ?_, led.marked, ?_⟩
  · change (past.record (.remove number)).remaining.map _ = (past.remaining.map _).eraseIdx index
    rw [remaining_record_remove inside' counted, List.eraseIdx_map]
    rfl
  · rw [departures]
    exact led.nodup.append (List.nodup_singleton _) (by simpa using stays)
  · rw [departures]
    intro serial mem
    rcases List.mem_append.mp mem with mem | mem
    · exact led.arrived serial mem
    · rw [List.mem_singleton.mp mem]
      exact arrived
  · have before := led.length
    have shorter := List.length_eraseIdx_add_one inside
    rw [departures, List.length_append, List.length_singleton]
    change (past.present.eraseIdx index).length + _ = past.arrivals.length
    omega

private theorem record (led : past.LedTo tasks) (does : deed.Does tasks changed) :
    (past.record deed).LedTo changed := by
  cases does with
  | nothing => exact led
  | add _ task => exact led.add task
  | mark _ number done index counted => exact led.mark done index counted
  | remove _ number index counted => exact led.remove index counted

private theorem carryOut [Text.HasCollation] (led : past.LedTo tasks) (commands : List Command) :
    ((tasks.carryOut commands).deeds.foldl Chronicle.record past).LedTo
      (tasks.carryOut commands).tasks := by
  induction commands generalizing past tasks with
  | nil => exact led
  | cons command rest ih =>
    unfold TaskList.carryOut
    split
    · next executed => exact ih (led.record (Command.does_of_execute executed))
    · exact ih led

end LedTo

private theorem arrivals_foldl_record (past : Chronicle) (deeds : List Deed) :
    (deeds.foldl record past).arrivals = past.arrivals ++ deeds.filterMap Deed.task? := by
  induction deeds generalizing past with
  | nil => simp
  | cons deed rest ih =>
    rw [List.foldl_cons, ih]
    cases deed <;> simp [record, Deed.task?, List.filterMap_cons]

end Chronicle

namespace TaskList

private theorem length_of_does {tasks changed : TaskList} {deed : Deed}
    (does : deed.Does tasks changed) :
    changed.length + (if deed.isRemoval then 1 else 0) = tasks.length + deed.task?.toList.length := by
  cases does with
  | nothing => simp [Deed.isRemoval, Deed.task?]
  | add => simp [Deed.isRemoval, Deed.task?]
  | mark => simp [Deed.isRemoval, Deed.task?]
  | remove _ number index =>
    have shorter := List.length_eraseIdx_add_one index.isLt
    simpa [Deed.isRemoval, Deed.task?] using shorter

private theorem length_carryOut [Text.HasCollation] (tasks : TaskList) (commands : List Command) :
    let labour := tasks.carryOut commands
    labour.tasks.length + labour.deeds.countP Deed.isRemoval =
      tasks.length + (labour.deeds.filterMap Deed.task?).length := by
  induction commands generalizing tasks with
  | nil => rfl
  | cons command rest ih =>
    unfold carryOut
    split
    · next response changed executed =>
      have step := length_of_does (Command.does_of_execute executed)
      have more := ih changed
      have added : ((command.deed :: (carryOut changed rest).deeds).filterMap Deed.task?).length =
          command.deed.task?.toList.length +
            ((carryOut changed rest).deeds.filterMap Deed.task?).length := by
        cases given : command.deed.task? with
        | none => simp [given]
        | some task =>
          simp [given]
          omega
      dsimp only at more ⊢
      rw [List.countP_cons, added]
      omega
    · exact ih tasks

private theorem isDone_of_mem_deeds [Text.HasCollation] {tasks : TaskList} {commands : List Command}
    {deed : Deed} {task : Task} (mem : deed ∈ (tasks.carryOut commands).deeds)
    (added : deed.task? = some task) :
    task.isDone = false := by
  induction commands generalizing tasks with
  | nil => exact absurd mem (by simp [carryOut])
  | cons command rest ih =>
    unfold carryOut at mem
    split at mem
    · rcases List.mem_cons.mp mem with rfl | mem
      · cases command <;> cases added <;> rfl
      · exact ih mem
    · exact ih mem

/-- After any commands the list is what its past says: the tasks at the start and those added since,
in the order in which they came, without those that were taken out, each as it came but for whether
it is done, which is as the last mark under its serial says. -/
theorem carryOut_eq_present [Text.HasCollation] (tasks : TaskList) (commands : List Command) :
    let labour := tasks.carryOut commands
    let added := labour.deeds.filterMap Deed.task?
    let removals := labour.deeds.countP Deed.isRemoval
    let past := Chronicle.ofDeeds tasks labour.deeds
    labour.tasks = past.present ∧
      past.arrivals = tasks ++ added ∧ (∀ task ∈ added, task.isDone = false) ∧
      past.departures.Nodup ∧ (∀ serial ∈ past.departures, serial < past.arrivals.length) ∧
      past.departures.length = removals ∧
      labour.tasks.length + removals = tasks.length + added.length := by
  intro labour added removals past
  have began : (⟨tasks, [], []⟩ : Chronicle).LedTo tasks := by
    refine ⟨?_, List.nodup_nil, by simp, by simp, rfl⟩
    have everyone : (⟨tasks, [], []⟩ : Chronicle).remaining = tasks.zipIdx := by
      simp [Chronicle.remaining]
    rw [Chronicle.present, everyone]
    exact List.zipIdx_map_fst 0 tasks
  have led : past.LedTo labour.tasks := began.carryOut commands
  have arrivals : past.arrivals = tasks ++ added := Chronicle.arrivals_foldl_record _ labour.deeds
  have size : labour.tasks.length + removals = tasks.length + added.length :=
    length_carryOut tasks commands
  have counted := led.length
  rw [arrivals, List.length_append] at counted
  refine ⟨led.present_eq.symm, arrivals, fun task mem => ?_, led.nodup, led.arrived, by omega, size⟩
  obtain ⟨deed, mem, added⟩ := List.mem_filterMap.mp mem
  exact isDone_of_mem_deeds mem added

/-- A number stands for another task after one was taken out in front of it. -/
example :
    let first : TaskNumber := ⟨1, by decide, by decide⟩
    (TaskList.carryOut [.todo "a", .todo "b"] [.delete first, .mark first, .list .all]).tasks =
      [⟨"b", true, .todo⟩] := by decide

end TaskList

end Taskbook
