import Taskbook.Proofs.Record.Runs
import Taskbook.Proofs.Store.RoundTrip

/-! A data file is loaded whole or not at all. If it is UTF-8 and each of its lines that is not blank
is the line of a task, the list has one task for each of these lines, in their order; and if a single
one of them is not, wherever it stands, nothing is loaded. The disk is left as it is. -/

set_option autoImplicit false

namespace Taskbook

open Text

def TaskType.leastFields : TaskType → Nat
  | .todo => 3
  | .deadline => 4
  | .event => 5

private theorem TaskType.ofName?_eq_some_iff {name : String} {type : TaskType} :
    ofName? name = some type ↔ name = type.name := by
  constructor
  · intro found
    have named := List.find?_some found
    exact (of_decide_eq_true named).symm
  · rintro rfl
    cases type <;> decide

namespace Record

/-- The fields of a line, cut and read by its runs of backslashes. -/
def HasFields (line : List Char) (fields : List String) : Prop :=
  ∃ raw, Divided line raw ∧ fields = raw.map String.ofList

/-- Fields that name a type first and are enough for it. -/
def AreRecord (fields : List String) : Prop :=
  ∃ type : TaskType, fields.head? = some type.name ∧ type.leastFields ≤ fields.length

/-- Fields, and the task that they tell. It is done exactly if its third field says `true`, and what
goes beyond its last date is not read. -/
inductive Tells : List String → Task → Prop
  | todo (description state : String) (more : List String) :
      Tells ("Todo" :: description :: state :: more) ⟨description, state = "true", .todo⟩
  | deadline (description state due : String) (more : List String) :
      Tells ("Deadline" :: description :: state :: due :: more)
        ⟨description, state = "true", .deadline due⟩
  | event (description state start finish : String) (more : List String) :
      Tells ("Event" :: description :: state :: start :: finish :: more)
        ⟨description, state = "true", .event start finish⟩

variable {line : List Char} {fields : List String} {t : Task}

private theorem hasFields_iff :
    HasFields line fields ↔ fields = (splitFields line).map String.ofList := by
  simp only [HasFields, divided_iff, exists_eq_left']

private theorem tells_iff {name : String} {rest : List String} :
    Tells (name :: rest) t ↔
      ∃ type, TaskType.ofName? name = some type ∧ ofFields? type rest = some t := by
  constructor
  · intro tells
    cases tells with
    | todo => exact ⟨.todo, by decide, rfl⟩
    | deadline => exact ⟨.deadline, by decide, rfl⟩
    | event => exact ⟨.event, by decide, rfl⟩
  · rintro ⟨type, named, made⟩
    obtain rfl := TaskType.ofName?_eq_some_iff.mp named
    unfold ofFields? at made
    split at made <;> cases made
    · exact .todo _ _ _
    · exact .deadline _ _ _ _
    · exact .event _ _ _ _ _

private theorem decode?_eq_some_iff :
    decode? (String.ofList line) = some t ↔ ∃ fields, HasFields line fields ∧ Tells fields t := by
  obtain ⟨first, more, split⟩ := exists_splitFields_eq line
  simp only [hasFields_iff, exists_eq_left]
  rw [decode?, String.toList_ofList, split, List.map_cons, tells_iff]
  exact Option.bind_eq_some_iff

private theorem exists_tells_iff : (∃ t, Tells fields t) ↔ AreRecord fields := by
  constructor
  · rintro ⟨t, tells⟩
    cases tells with
    | todo => exact ⟨.todo, rfl, by simp [TaskType.leastFields]⟩
    | deadline => exact ⟨.deadline, rfl, by simp [TaskType.leastFields]⟩
    | event => exact ⟨.event, rfl, by simp [TaskType.leastFields]⟩
  · rintro ⟨type, named, enough⟩
    cases type with
    | todo =>
      match fields, named, enough with
      | name :: description :: state :: more, named, _ =>
        obtain rfl := Option.some.inj named
        exact ⟨_, .todo description state more⟩
    | deadline =>
      match fields, named, enough with
      | name :: description :: state :: due :: more, named, _ =>
        obtain rfl := Option.some.inj named
        exact ⟨_, .deadline description state due more⟩
    | event =>
      match fields, named, enough with
      | name :: description :: state :: start :: finish :: more, named, _ =>
        obtain rfl := Option.some.inj named
        exact ⟨_, .event description state start finish more⟩

end Record

namespace Store

open Record

private theorem exists_forall₂_iff {α β : Type} {R : α → β → Prop} {xs : List α} :
    (∃ ys, List.Forall₂ R xs ys) ↔ ∀ x ∈ xs, ∃ y, R x y := by
  induction xs with
  | nil => simp
  | cons x xs ih =>
    rw [List.forall_mem_cons, ← ih]
    constructor
    · rintro ⟨_, first | ⟨first, others⟩⟩
      exact ⟨⟨_, first⟩, _, others⟩
    · rintro ⟨⟨y, first⟩, ys, others⟩
      exact ⟨y :: ys, .cons first others⟩

variable {d : Disk} {file : Path} {text : String} {tasks : TaskList}

def solidLines (lines : List (List Char)) : List (List Char) :=
  lines.filter fun line => line.any fun c => !isBlank c

private theorem mem_solidLines {lines : List (List Char)} {line : List Char} :
    line ∈ solidLines lines ↔ line ∈ lines ∧ ∃ c ∈ line, isBlank c = false := by
  simp [solidLines]

private theorem parse?_eq_some_iff :
    parse? text = some tasks ↔
      List.Forall₂ (fun line t => ∃ fields, HasFields line fields ∧ Tells fields t)
        (solidLines (lines '\n' '\r' text.toList)) tasks := by
  have solid : (textLines text).filter (fun line => !allBlank line.toList) =
      (solidLines (lines '\n' '\r' text.toList)).map String.ofList := by
    rw [textLines, List.filter_map, solidLines]
    congr 2
    funext line
    simp [allBlank, List.not_all_eq_any_not]
  rw [parse?, solid, mapM_eq_some_iff_forall₂, List.forall₂_map_left_iff]
  simp only [decode?_eq_some_iff]

private theorem exists_parse?_iff :
    (∃ tasks, parse? text = some tasks) ↔
      ∀ line ∈ lines '\n' '\r' text.toList, (∃ c ∈ line, isBlank c = false) →
        ∃ fields, HasFields line fields ∧ AreRecord fields := by
  simp only [parse?_eq_some_iff, exists_forall₂_iff, mem_solidLines, and_imp]
  refine forall_congr' fun line => forall_congr' fun _ => forall_congr' fun _ => ?_
  rw [exists_comm]
  simp only [exists_and_left, exists_tells_iff]

private theorem lined_iff {pieces : List (List Char)} :
    Lined '\n' '\r' text.toList pieces ↔ lines '\n' '\r' text.toList = pieces :=
  ⟨lines_of_lined, fun same => same ▸ lined_lines '\n' '\r' text.toList⟩

section Content

variable {content : ByteArray}

private theorem load_of_not_utf8 (there : d.lookup file = some (.file content))
    (noText : ∀ text : String, text.toUTF8 ≠ content) :
    load d file = (.error (.unreadable file .notUtf8), d) := by
  have undecoded : String.fromUTF8? content = none := by
    cases decoded : String.fromUTF8? content with
    | none => rfl
    | some text => exact absurd (toUTF8_of_fromUTF8? decoded) (noText text)
  have unreadable : readText d file = .error .notUtf8 := by
    rw [readText, Disk.read_of_lookup_file there]
    simp only [undecoded]
  rw [load_eq, if_pos (Disk.isPresent_of_lookup there), unreadable]

private theorem load_eq_some_iff (there : d.lookup file = some (.file content)) :
    (load d file).1 = .ok (some tasks) ↔
      ∃ text : String, text.toUTF8 = content ∧ parse? text = some tasks := by
  constructor
  · intro loaded
    obtain ⟨text, readable, parsed⟩ := readText_of_load loaded
    obtain ⟨bytes, read, decoded⟩ := readText_eq_ok_iff.mp readable
    rw [Disk.read_of_lookup_file there] at read
    obtain rfl := Except.ok.inj read
    exact ⟨text, toUTF8_of_fromUTF8? decoded, parsed⟩
  · rintro ⟨text, rfl, parsed⟩
    rw [load_of_lookup_file there, parsed]

/-- A file is loaded exactly if it is UTF-8 and every line of it that is not blank is the line of a
task; then these lines are the tasks. -/
theorem load_whole_or_nothing (there : d.lookup file = some (.file content)) :
    ((∃ tasks, (load d file).1 = .ok (some tasks)) ↔
        ∃ (text : String) (lines : List (List Char)), text.toUTF8 = content ∧
          Lined '\n' '\r' text.toList lines ∧
          ∀ line ∈ lines, (∃ c ∈ line, isBlank c = false) →
            ∃ fields, HasFields line fields ∧ AreRecord fields) ∧
      (∀ tasks, (load d file).1 = .ok (some tasks) ↔
        ∃ (text : String) (lines : List (List Char)), text.toUTF8 = content ∧
          Lined '\n' '\r' text.toList lines ∧
          List.Forall₂ (fun line t => ∃ fields, HasFields line fields ∧ Tells fields t)
            (solidLines lines) tasks) ∧
      (∀ text : String, text.toUTF8 = content → (∀ tasks, (load d file).1 ≠ .ok (some tasks)) →
        (load d file).1 = .error .corrupted) ∧
      ((∀ text : String, text.toUTF8 ≠ content) →
        (load d file).1 = .error (.unreadable file .notUtf8)) ∧
      (load d file).2 = d := by
  refine ⟨?_, fun tasks => ?_, ?_, ?_, load_of_present (Disk.isPresent_of_lookup there)⟩
  · simp only [load_eq_some_iff there, lined_iff, exists_and_left, exists_eq_left',
      ← exists_parse?_iff]
    rw [exists_comm]
    simp only [exists_and_left]
  · simp only [load_eq_some_iff there, lined_iff, exists_and_left, exists_eq_left',
      ← parse?_eq_some_iff]
  · rintro text rfl refused
    have result := load_of_lookup_file there
    cases parsed : parse? text with
    | none => rw [result, parsed]
    | some tasks => exact absurd (by rw [result, parsed]) (refused tasks)
  · intro noText
    rw [load_of_not_utf8 there noText]

private def diskHolding (text : String) : Disk :=
  ⟨["home"], [(["home"], .folder), (["home", "tasks.txt"], .file text.toUTF8)], []⟩

/-- Returns before newlines, a blank line, escapes and a field too many. -/
theorem load_whole_by_hand :
    let file : Path := ⟨["tasks.txt"]⟩
    let text := "Todo,eat\\, sleep,true\r\n \r\nDeadline,C:\\notes,no,a\rb,more"
    let tasks : TaskList := [⟨"eat, sleep", true, .todo⟩, .deadline "C:\\notes" "a\rb"]
    (diskHolding text).lookup file = some (.file text.toUTF8) ∧
      (load (diskHolding text) file).1 = .ok (some tasks) ∧
      ∃ (text' : String) (lines : List (List Char)), text'.toUTF8 = text.toUTF8 ∧
        Lined '\n' '\r' text'.toList lines ∧
        List.Forall₂ (fun line t => ∃ fields, HasFields line fields ∧ Tells fields t)
          (solidLines lines) tasks := by
  intro file text tasks
  have there : (diskHolding text).lookup file = some (.file text.toUTF8) := rfl
  have loaded : (load (diskHolding text) file).1 = .ok (some tasks) := by decide +kernel
  exact ⟨there, loaded, ((load_whole_or_nothing there).2.1 tasks).mp loaded⟩

end Content

end Store

end Taskbook
