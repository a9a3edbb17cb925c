import Taskbook.Proofs.Store.RoundTrip

/-! A list loaded from a file, saved to that file and loaded once more. The first load takes one
return off the end of a line; the line that the save writes may end in another one, and the second
load takes off that one. So a round gives back the list exactly if no last date in it ends in a
return. -/

set_option autoImplicit false

namespace Taskbook.Store

variable {d d' : Disk} {file : Path} {tasks : TaskList}

private theorem newline_not_mem_of_load (loaded : (load d file).1 = .ok (some tasks)) :
    ∀ t ∈ tasks, ∀ text ∈ t.texts, '\n' ∉ text.toList := by
  obtain ⟨_, _, parsed⟩ := readText_of_load loaded
  intro t ht text mem
  exact (of_mem_parse? parsed t ht text mem).1

/-- A list that was loaded from a file and saved there comes back chopped, and so it comes back as it
was exactly if there is nothing to chop. Only an empty list may be lost, to a device in the place of
the draft. -/
theorem load_save_load (loaded : (load d file).1 = .ok (some tasks))
    (saved : save (load d file).2 file tasks = (.ok (), d')) :
    ((tasks = [] → d'.isFile file = true) →
        (load d' file).1 = .ok (some (tasks.map Task.chopped))) ∧
      ((load d' file).1 = .ok (some tasks) ↔
        (∀ t ∈ tasks, ∀ date ∈ t.lastDate?, date.toList.getLast? ≠ some '\r') ∧
          (tasks = [] → d'.isFile file = true)) := by
  rcases holds_of_save saved with there | ⟨rfl, device⟩
  · have regular : d'.isFile file = true := by simp [Disk.isFile, there]
    have oneLine := newline_not_mem_of_load loaded
    rw [load_of_lookup_file there, parse?_content oneLine]
    refine ⟨fun _ => rfl, ?_⟩
    simp only [Except.ok.injEq, Option.some.injEq, map_chopped_eq_self_iff, regular, implies_true,
      and_true]
  · have irregular : d'.isFile file = false := by simp [Disk.isFile, device]
    simp [load_of_lookup_full device, irregular]

private def diskWith (text : String) : Disk :=
  ⟨["home"], [(["home"], .folder), (["home", "tasks.txt"], .file text.toUTF8)], []⟩

/-- Returns before newlines, a blank line, escapes, a field too many and no newline at the end. -/
theorem load_save_load_by_hand :
    let file : Path := ⟨["tasks.txt"]⟩
    let d := diskWith "Todo,eat\\, sleep,true\r\n \r\nDeadline,C:\\notes,no,a\rb,more"
    let tasks : TaskList := [⟨"eat, sleep", true, .todo⟩, .deadline "C:\\notes" "a\rb"]
    let d' := (save (load d file).2 file tasks).2
    ((load d file).1 = .ok (some tasks) ∧ save (load d file).2 file tasks = (.ok (), d')) ∧
      (load d' file).1 = .ok (some tasks) := by
  intro file d tasks d'
  have loaded : (load d file).1 = .ok (some tasks) := by decide +kernel
  have saved : save (load d file).2 file tasks = (.ok (), d') := by decide +kernel
  refine ⟨⟨loaded, saved⟩, (load_save_load loaded saved).2.mpr ⟨?_, by simp [tasks]⟩⟩
  decide

/-- Two returns at the end of a date: the second one is gone after a round. -/
theorem not_load_save_load_of_two_returns :
    ¬ ∀ (d d' : Disk) (file : Path) (tasks : TaskList), (load d file).1 = .ok (some tasks) →
      save (load d file).2 file tasks = (.ok (), d') → (load d' file).1 = .ok (some tasks) := by
  intro roundKeeps
  let file : Path := ⟨["tasks.txt"]⟩
  let d := diskWith "Deadline,a,false,b\r\r\n"
  let tasks : TaskList := [.deadline "a" "b\r"]
  have again := roundKeeps d (save (load d file).2 file tasks).2 file tasks (by decide +kernel)
    (by decide +kernel)
  revert again
  decide +kernel

end Taskbook.Store
