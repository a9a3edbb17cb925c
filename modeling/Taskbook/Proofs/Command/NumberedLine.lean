import Taskbook.Proofs.Command.Diagnosis
import Taskbook.Proofs.Command.Perform
import Taskbook.Proofs.Token.Outline
import Taskbook.Session

/-! Lines that begin with `mark`, `unmark` or `delete`. What they come to is told by the text behind
that word and by the size of the list: the text is a number in decimal that counts to a task, and
that task is marked or deleted, or the list stays and one of four complaints is made. On the way no
token is looked up where there is none, and no number leaves its range. -/

set_option autoImplicit false

namespace Taskbook

open Text Lexer

variable {tasks : TaskList} {line name : String} {kind : TokenKind} {rest : List Char}
  {number : TaskNumber} {command : Command}

section Checked

/-- What the steps of a command come to, with the list that they leave; `none` where one fails that
was let through. -/
def Outcome.ofRun? (command : Command) :
    EStateM.Result Stop TaskList String → Option (Outcome × TaskList)
  | .ok response changed => some (.done command response changed, changed)
  | .error (.told error) left => some (.failed command error, left)
  | .error (.disappeared _) _ => none
  | .error .overflow _ => none

/-- A line read and carried out a step at a time, with every token looked up by its index; `none`
where there is no such token, or where a step of the command fails that was let through. -/
def TaskList.attempt? [Text.HasCollation] (tasks : TaskList) (line : String) :
    Option (Outcome × TaskList) :=
  (Indexed.parse? ⟨closed (tokenize line), 0⟩).bind fun parsed =>
    match parsed.1 with
    | .error refusal => some (.rejected refusal, tasks)
    | .ok command => Outcome.ofRun? command (command.perform.run tasks)

private theorem TaskList.attempt?_eq [Text.HasCollation] (tasks : TaskList) (line : String) :
    tasks.attempt? line =
      some (Outcome.ofLine tasks line, (Outcome.ofLine tasks line).tasksAfter tasks) := by
  have parsed : Indexed.parse? ⟨closed (tokenize line), 0⟩ = some (Command.ofLine line, _) :=
    Indexed.parse?_eq (Cursor.within_ofTokens (tokenize line))
  rw [attempt?, parsed, Option.bind_some, Outcome.ofLine]
  cases Command.ofLine line with
  | error refusal => rfl
  | ok command =>
    dsimp only
    rw [command.run_perform]
    cases command.execute tasks with
    | error error => rfl
    | ok done => rfl

end Checked

section Reading

def TokenKind.about? (kind : TokenKind) (number : TaskNumber) : Option Command :=
  match kind with
  | .mark => some (.mark number)
  | .unmark => some (.unmark number)
  | .delete => some (.delete number)
  | _ => none

private theorem Form.exists_numbered (numbered : kind ∈ numberKinds)
    (keyword : kind.keyword? = some name) :
    ∃ usage make, (∀ next, ofKind? kind next = some (Form.numbered usage make)) ∧
      usage.text = "Usage: " ++ name ++ " [number]" ∧
      ∀ number, kind.about? number = some (make number) := by
  simp only [List.mem_cons, List.not_mem_nil, or_false] at numbered
  rcases numbered with rfl | rfl | rfl
  · cases keyword
    exact ⟨.mark, .mark, fun _ => rfl, by decide, fun _ => rfl⟩
  · cases keyword
    exact ⟨.unmark, .unmark, fun _ => rfl, by decide, fun _ => rfl⟩
  · cases keyword
    exact ⟨.delete, .delete, fun _ => rfl, by decide, fun _ => rfl⟩

private theorem Decimal.isFree {value : Int} (h : Decimal (trim rest) value) : IsFree rest where
  solid := by
    obtain ⟨x, mem⟩ := List.exists_mem_of_ne_nil _ h.ne_nil
    obtain ⟨front, back, split, _⟩ := exists_eq_append_trim rest
    refine ⟨x, ?_, h.solid x mem⟩
    rw [split]
    exact List.mem_append_left back (List.mem_append_right front mem)
  unmarked := by
    intro w hw
    rw [← words_trim] at hw
    exact unmarked_of_solid h.solid h.ne_nil h.not_opensMarker w hw

private theorem tokenize_of_word (keyword : kind.keyword? = some name)
    (first : word (trimStart line.toList) = name.toList) :
    tokenize line =
      ⟨kind, name⟩ :: scan (afterWord (trimStart line.toList)) ++ [Token.endOfCommand] := by
  have blank : ∀ x ∈ line.toList.takeWhile isBlank, isBlank x = true :=
    fun x mem => List.mem_takeWhile_imp mem
  have split : line.toList = line.toList.takeWhile isBlank ++ name.toList ++
      afterWord (trimStart line.toList) := by
    rw [← first, List.append_assoc, word_append_afterWord, takeWhile_append_trimStart]
  exact tokenize_of_keyword? keyword blank (bordered_afterWord _) split

private theorem exists_ofLine_eq_readSlots (numbered : kind ∈ Form.numberKinds)
    (keyword : kind.keyword? = some name) (first : word (trimStart line.toList) = name.toList) :
    ∃ usage make, usage.text = "Usage: " ++ name ++ " [number]" ∧
      (∀ number, kind.about? number = some (make number)) ∧
      Command.ofLine line =
        (Form.readSlots usage (Form.numbered usage make).slots (Form.numbered usage make).build
          ⟨1, scan (afterWord (trimStart line.toList)), Token.endOfCommand⟩).1 := by
  obtain ⟨usage, make, form, text, about⟩ := Form.exists_numbered numbered keyword
  have unended : ∀ t ∈ Token.mk kind name :: scan (afterWord (trimStart line.toList)),
      t.kind ≠ .endOfCommand := by
    intro t mem
    rcases List.mem_cons.mp mem with rfl | mem
    · rintro rfl
      cases keyword
    · exact kind_ne_of_mem_scan mem
  refine ⟨usage, make, text, about, ?_⟩
  rw [Command.ofLine, tokenize_of_word keyword first, Command.ofTokens,
    Cursor.ofTokens_append_end unended, Cursor.parse]
  dsimp only
  rw [form]
  rfl

private theorem readSlots_numbered_scan_eq_ok_iff {usage : Usage} {make : TaskNumber → Command}
    {position : Nat} {closing : Token} :
    (Form.readSlots usage (Form.numbered usage make).slots (Form.numbered usage make).build
        ⟨position, scan rest, closing⟩).1 = .ok command ↔
      ∃ number, Decimal (trim rest) number.value ∧ command = make number := by
  rw [Form.readSlots_eq_ok_iff, Form.filled_numbered_iff]
  constructor
  · rintro ⟨argument, number, alone, spells, made⟩
    obtain ⟨_, rfl⟩ := scan_eq_literal_iff.mp alone
    rw [trimmed, String.toList_ofList, String.toList_ofList] at spells
    exact ⟨number, spells, made⟩
  · rintro ⟨number, spells, made⟩
    refine ⟨String.ofList rest, number, scan_of_isFree spells.isFree, ?_, made⟩
    rwa [trimmed, String.toList_ofList, String.toList_ofList]

/-- A line about a task is read as a command, or refused: for its number, if the text behind the
first word could be one, and otherwise with the usage. -/
private theorem ofLine_numbered_cases (numbered : kind ∈ Form.numberKinds)
    (keyword : kind.keyword? = some name) (first : word (trimStart line.toList) = name.toList) :
    let rest := afterWord (trimStart line.toList)
    (∃ number command, Decimal (trim rest) number.value ∧ kind.about? number = some command ∧
        Command.ofLine line = .ok command) ∨
      ∃ refusal, Command.ofLine line = .error refusal ∧
        (∀ number : TaskNumber, ¬ Decimal (trim rest) number.value) ∧
        (IsFree rest ∧ refusal.error = .notAnInteger (String.ofList (trim rest)) ∨
          ¬ IsFree rest ∧ refusal.error.message = "Usage: " ++ name ++ " [number]") := by
  intro rest
  obtain ⟨usage, make, text, about, read⟩ := exists_ofLine_eq_readSlots numbered keyword first
  rw [read]
  cases result : (Form.readSlots usage (Form.numbered usage make).slots
      (Form.numbered usage make).build ⟨1, scan rest, Token.endOfCommand⟩).1 with
  | ok command =>
    obtain ⟨number, spells, made⟩ := readSlots_numbered_scan_eq_ok_iff.mp result
    exact .inl ⟨number, command, spells, made ▸ about number, rfl⟩
  | error refusal =>
    have unread (number : TaskNumber) : ¬ Decimal (trim rest) number.value := by
      intro spells
      have asked : ∃ n : TaskNumber, Decimal (trim rest) n.value ∧ make number = make n :=
        ⟨number, spells, rfl⟩
      rw [readSlots_numbered_scan_eq_ok_iff.mpr asked] at result
      cases result
    refine .inr ⟨refusal, rfl, unread, ?_⟩
    rcases Form.error_of_readSlots_numbered (Prod.ext result rfl) with
      ⟨t, alone, literal, error⟩ | ⟨other, error⟩
    · obtain ⟨kind, text⟩ := t
      obtain rfl : kind = .literal := literal
      obtain ⟨free, rfl⟩ := scan_eq_literal_iff.mp alone
      rw [trimmed, String.toList_ofList] at error
      exact .inl ⟨free, error⟩
    · refine .inr ⟨fun free => other _ (scan_of_isFree free) rfl, ?_⟩
      rw [error, ← text]
      rfl

end Reading

section Acting

variable {i : Fin tasks.length}

/-- What a command makes of the task at a place: the answer, and the list with this task changed or
without it. -/
inductive TokenKind.ActsOn (tasks : TaskList) (i : Fin tasks.length) :
    TokenKind → String → TaskList → Prop
  | mark : ActsOn tasks i .mark
      ("Nice! I've marked this task as done:\n  " ++ { tasks.get i with isDone := true }.render)
      (tasks.set i { tasks.get i with isDone := true })
  | unmark : ActsOn tasks i .unmark
      ("OK, I've marked this task as not done yet:\n  " ++
        { tasks.get i with isDone := false }.render)
      (tasks.set i { tasks.get i with isDone := false })
  | delete : ActsOn tasks i .delete
      ("Noted. I've removed this task:\n  " ++ (tasks.get i).render ++ "\nNow you have " ++
        countText (tasks.length - 1) ++ " in the list.")
      (tasks.eraseIdx i)

/-- The complaints about a line that asks for no task of the list, by the text behind its first
word. -/
inductive Complaint (tasks : TaskList) (kind : TokenKind) (name : String) (rest : List Char) :
    String → Prop
  | usage (unfit : ¬ IsFree rest) : Complaint tasks kind name rest ("Usage: " ++ name ++ " [number]")
  | notAnInteger (free : IsFree rest)
      (unread : ∀ number : TaskNumber, ¬ Decimal (trim rest) number.value) :
      Complaint tasks kind name rest
        ("One, two, three, four, get the kid back through the door!\n'" ++
          String.ofList (trim rest) ++ "' is not an integer Sulley...")
  | noTasks (number : TaskNumber) (spells : Decimal (trim rest) number.value)
      (empty : tasks = []) :
      Complaint tasks kind name rest
        ("There are no tasks to " ++ (if kind = .delete then "delete" else "mark") ++
          ". Please add a task first.")
  | outOfRange (number : TaskNumber) (spells : Decimal (trim rest) number.value)
      (nonempty : tasks ≠ []) (outside : ¬ (1 ≤ number.value ∧ number.value ≤ tasks.length)) :
      Complaint tasks kind name rest
        ("That's suspicious. Please enter a number in the range 1-" ++ toString tasks.length ++ ".")

private theorem TokenKind.exists_actsOn [Text.HasCollation]
    (about : kind.about? number = some command) (counted : number.value = i.val + 1) :
    ∃ response changed, command.execute tasks = .ok (response, changed) ∧
      kind.ActsOn tasks i response changed := by
  have addresses := TaskNumber.addresses_of_value counted
  cases kind with
  | mark =>
    cases about
    exact ⟨_, _, addresses.mark, .mark⟩
  | unmark =>
    cases about
    exact ⟨_, _, addresses.unmark, .unmark⟩
  | delete =>
    cases about
    exact ⟨_, _, addresses.delete, .delete⟩
  | exit | list | todo | deadline | event | forwardDash | param | literal | endOfCommand =>
    cases about

private theorem TokenKind.number?_of_about? (about : kind.about? number = some command) :
    command.number? = some number ∧
      command.action = if kind = .delete then "delete" else "mark" := by
  cases kind with
  | mark | unmark | delete =>
    cases about
    exact ⟨rfl, rfl⟩
  | exit | list | todo | deadline | event | forwardDash | param | literal | endOfCommand =>
    cases about

private theorem exists_complaint [Text.HasCollation] (about : kind.about? number = some command)
    (spells : Decimal (trim rest) number.value)
    (outside : ¬ (1 ≤ number.value ∧ number.value ≤ tasks.length)) :
    ∃ error, command.execute tasks = .error error ∧
      Complaint tasks kind name rest error.message := by
  obtain ⟨number?, action⟩ := TokenKind.number?_of_about? about
  by_cases empty : tasks = []
  · have failed := Command.execute_eq_error_iff.mpr (.noTasks empty number?)
    rw [action] at failed
    exact ⟨_, failed, .noTasks number spells empty⟩
  · have failed := Command.execute_eq_error_iff.mpr (.outOfRange empty number? outside)
    exact ⟨_, failed, .outOfRange number spells empty outside⟩

end Acting

namespace Outcome

def IsDone (outcome : Outcome) : Prop :=
  ∃ command response changed, outcome = .done command response changed

private theorem not_isDone_rejected (refusal : Refusal) : ¬ (rejected refusal).IsDone := by
  rintro ⟨_, _, _, same⟩
  cases same

private theorem not_isDone_failed (command : Command) (error : ExecuteError) :
    ¬ (failed command error).IsDone := by
  rintro ⟨_, _, _, same⟩
  cases same

private theorem ofLine_of_execute_ok [Text.HasCollation] {response : String} {changed : TaskList}
    (read : Command.ofLine line = .ok command)
    (executed : command.execute tasks = .ok (response, changed)) :
    ofLine tasks line = .done command response changed := by
  rw [ofLine, read]
  dsimp only
  rw [executed]

private theorem ofLine_of_execute_error [Text.HasCollation] {error : ExecuteError}
    (read : Command.ofLine line = .ok command)
    (executed : command.execute tasks = .error error) :
    ofLine tasks line = .failed command error := by
  rw [ofLine, read]
  dsimp only
  rw [executed]

private theorem ofLine_of_refused [Text.HasCollation] {refusal : Refusal}
    (read : Command.ofLine line = .error refusal) :
    ofLine tasks line = .rejected refusal := by
  rw [ofLine, read]

end Outcome

private theorem numbered_line_cases [Text.HasCollation] (tasks : TaskList)
    (numbered : kind ∈ Form.numberKinds) (keyword : kind.keyword? = some name)
    (first : word (trimStart line.toList) = name.toList) :
    let rest := afterWord (trimStart line.toList)
    let outcome := Outcome.ofLine tasks line
    (∃ (number : TaskNumber) (i : Fin tasks.length), Decimal (trim rest) number.value ∧
        number.value = i.val + 1 ∧ outcome.IsDone ∧
        kind.ActsOn tasks i outcome.text (outcome.tasksAfter tasks)) ∨
      (∀ number : TaskNumber, Decimal (trim rest) number.value →
          ¬ (1 ≤ number.value ∧ number.value ≤ tasks.length)) ∧
        ¬ outcome.IsDone ∧ outcome.tasksAfter tasks = tasks ∧
        Complaint tasks kind name rest outcome.text := by
  intro rest outcome
  rcases ofLine_numbered_cases numbered keyword first with
    ⟨number, command, spells, about, read⟩ | ⟨refusal, read, unread, reason⟩
  · by_cases inside : 1 ≤ number.value ∧ number.value ≤ tasks.length
    · have bound : (number.value - 1).toNat < tasks.length := by omega
      have counted : number.value = (number.value - 1).toNat + 1 := by omega
      obtain ⟨response, changed, executed, acts⟩ :=
        TokenKind.exists_actsOn (i := ⟨(number.value - 1).toNat, bound⟩) about counted
      have done : outcome = .done command response changed :=
        Outcome.ofLine_of_execute_ok read executed
      rw [done]
      exact .inl ⟨number, _, spells, counted, ⟨_, _, _, rfl⟩, acts⟩
    · obtain ⟨error, executed, complaint⟩ := exists_complaint about spells inside
      have failed : outcome = .failed command error := Outcome.ofLine_of_execute_error read executed
      rw [failed]
      refine .inr ⟨fun other spells' => ?_, Outcome.not_isDone_failed _ _, rfl, complaint⟩
      rwa [TaskNumber.value_unique spells' spells]
  · have rejected : outcome = .rejected refusal := Outcome.ofLine_of_refused read
    rw [rejected]
    refine .inr ⟨fun number spells => absurd spells (unread number),
      Outcome.not_isDone_rejected _, rfl, ?_⟩
    change Complaint tasks kind name rest refusal.error.message
    rcases reason with ⟨free, error⟩ | ⟨unfit, message⟩
    · rw [error]
      exact .notAnInteger free unread
    · rw [message]
      exact .usage unfit

/-- A line about a task is carried out exactly if the text behind its first word is a number in
decimal that counts to a task and fits into 32 bits, and then it is this task that is marked or
deleted. Otherwise the list stays and one of four complaints is made. No step of this fails. -/
theorem numbered_line_acts_or_complains [Text.HasCollation] (tasks : TaskList)
    (numbered : kind ∈ Form.numberKinds) (keyword : kind.keyword? = some name)
    (first : word (trimStart line.toList) = name.toList) :
    let rest := afterWord (trimStart line.toList)
    let outcome := Outcome.ofLine tasks line
    (outcome.IsDone ↔ ∃ k : Int, Decimal (trim rest) k ∧ 1 ≤ k ∧ k ≤ tasks.length ∧
      k ≤ 2147483647) ∧
    (∀ (k : Int) (i : Fin tasks.length), Decimal (trim rest) k → k = i.val + 1 →
      k ≤ 2147483647 → kind.ActsOn tasks i outcome.text (outcome.tasksAfter tasks)) ∧
    (¬ outcome.IsDone →
      outcome.tasksAfter tasks = tasks ∧ Complaint tasks kind name rest outcome.text) ∧
    tasks.attempt? line = some (outcome, outcome.tasksAfter tasks) := by
  intro rest outcome
  have attempted := tasks.attempt?_eq line
  rcases numbered_line_cases tasks numbered keyword first with
    ⟨number, i, spells, counted, done, acts⟩ | ⟨outside, undone, same, complaint⟩
  · have inside := i.isLt
    have greatest := number.greatest
    have asked : ∃ k : Int, Decimal (trim rest) k ∧ 1 ≤ k ∧ k ≤ tasks.length ∧ k ≤ 2147483647 :=
      ⟨number.value, spells, by omega, by omega, by omega⟩
    refine ⟨iff_of_true done asked, ?_, fun undone => absurd done undone, attempted⟩
    intro k j spells' counted' _
    have one : k = number.value := TaskNumber.value_unique spells' spells
    obtain rfl : j = i := Fin.ext (by omega)
    exact acts
  -- A number that is not too small fits into 32 bits, so it is the value of a task number.
  · have beyond (k : Int) (spells : Decimal (trim rest) k) (fits : k ≤ 2147483647) :
        ¬ (1 ≤ k ∧ k ≤ tasks.length) := by
      intro inside
      exact outside ⟨k, by omega, by omega⟩ spells inside
    refine ⟨iff_of_false undone ?_, ?_, fun _ => ⟨same, complaint⟩, attempted⟩
    · rintro ⟨k, spells, least, inside, fits⟩
      exact beyond k spells fits ⟨least, inside⟩
    · intro k i spells counted fits
      have inside := i.isLt
      exact absurd ⟨by omega, by omega⟩ (beyond k spells fits)

/-- Whitespace around a number, a sign and zeros in front of it do no harm. -/
theorem numbered_line_of_signed_number :
    let tasks : TaskList := [.todo "a", .todo "b"]
    let line := "  delete  +002 "
    TokenKind.delete ∈ Form.numberKinds ∧ TokenKind.delete.keyword? = some "delete" ∧
      word (trimStart line.toList) = "delete".toList ∧ (Outcome.ofLine tasks line).IsDone ∧
      TokenKind.ActsOn tasks ⟨1, by decide⟩ .delete (Outcome.ofLine tasks line).text
        ((Outcome.ofLine tasks line).tasksAfter tasks) := by
  intro tasks line
  have numbered : TokenKind.delete ∈ Form.numberKinds := by decide
  have keyword : TokenKind.delete.keyword? = some "delete" := rfl
  have first : word (trimStart line.toList) = "delete".toList := by decide
  have spells : Decimal (trim (afterWord (trimStart line.toList))) 2 :=
    TaskNumber.integer?_eq_some_iff.mp (by decide)
  obtain ⟨succeeds, acts, _, _⟩ := numbered_line_acts_or_complains tasks numbered keyword first
  have done := succeeds.mpr ⟨2, spells, by decide, by decide, by decide⟩
  exact ⟨numbered, keyword, first, done, acts 2 ⟨1, by decide⟩ spells rfl (by decide)⟩

end Taskbook
