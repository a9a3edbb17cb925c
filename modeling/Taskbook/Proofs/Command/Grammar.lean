import Taskbook.Command.Reader
import Taskbook.Proofs.Command.Number

/-! The grammar of commands. The reader accepts the tokens up to the first one that ends a command
exactly if they are a sentence, and the sentence says which command they make. -/

set_option autoImplicit false

namespace Taskbook

open Text

variable {command : Command} {usage : Usage}

/-- The tokens that make a command. -/
inductive Sentence : List Token → Command → Prop
  | exit (word : String) : Sentence [⟨.exit, word⟩] .exit
  | list (word : String) : Sentence [⟨.list, word⟩] (.list .all)
  | listView (word dash view dash' field : String) (byDate : trimmed view = "date")
      (filled : trimmed field ≠ "") :
      Sentence [⟨.list, word⟩, ⟨.forwardDash, dash⟩, ⟨.param, "view"⟩, ⟨.literal, view⟩,
        ⟨.forwardDash, dash'⟩, ⟨.param, "attribute"⟩, ⟨.literal, field⟩]
        (.list (.byDate (trimmed field)))
  | mark (word argument : String) (number : TaskNumber)
      (spells : Decimal (trimmed argument).toList number.value) :
      Sentence [⟨.mark, word⟩, ⟨.literal, argument⟩] (.mark number)
  | unmark (word argument : String) (number : TaskNumber)
      (spells : Decimal (trimmed argument).toList number.value) :
      Sentence [⟨.unmark, word⟩, ⟨.literal, argument⟩] (.unmark number)
  | delete (word argument : String) (number : TaskNumber)
      (spells : Decimal (trimmed argument).toList number.value) :
      Sentence [⟨.delete, word⟩, ⟨.literal, argument⟩] (.delete number)
  | todo (word description : String) (filled : trimmed description ≠ "") :
      Sentence [⟨.todo, word⟩, ⟨.literal, description⟩] (.addTodo (trimmed description))
  | deadline (word description dash due : String) (filled : trimmed description ≠ "")
      (filled' : trimmed due ≠ "") :
      Sentence [⟨.deadline, word⟩, ⟨.literal, description⟩, ⟨.forwardDash, dash⟩, ⟨.param, "by"⟩,
        ⟨.literal, due⟩] (.addDeadline (trimmed description) (trimmed due))
  | event (word description dash start dash' finish : String) (filled : trimmed description ≠ "")
      (filled' : trimmed start ≠ "") (filled'' : trimmed finish ≠ "") :
      Sentence [⟨.event, word⟩, ⟨.literal, description⟩, ⟨.forwardDash, dash⟩, ⟨.param, "from"⟩,
        ⟨.literal, start⟩, ⟨.forwardDash, dash'⟩, ⟨.param, "to"⟩, ⟨.literal, finish⟩]
        (.addEvent (trimmed description) (trimmed start) (trimmed finish))

namespace Slot

def Fits : Slot → String → Prop
  | dash, _ | argument, _ => True
  | name word, content => content = word
  | text _, content => trimmed content ≠ ""
  | view word, content => trimmed content ≠ "" ∧ trimmed content = word

theorem check_eq_ok_iff {slot : Slot} {content : String} :
    slot.check usage content = .ok () ↔ slot.Fits content := by
  cases slot with
  | dash | argument => simp [check, Fits]
  | name word => simp [check, Fits, apply_ite (· = Except.ok ())]
  | text missing => simp [check, Fits, apply_ite (· = Except.ok ())]
  | view word => simp [check, Fits, apply_ite (· = Except.ok ())]

end Slot

namespace Form

/-- Tokens that fill the slots one after the other, and the command that is built from them. -/
def Filled (command : Command) : (slots : List Slot) → Slot.Build slots → List Token → Prop
  | [], result, tokens => tokens = [] ∧ result = .ok command
  | slot :: rest, build, tokens =>
    ∃ content ahead, tokens = ⟨slot.kind, content⟩ :: ahead ∧ slot.Fits content ∧
      Filled command rest (slot.feed content build) ahead

theorem readSlots_eq_ok_iff {slots : List Slot} {build : Slot.Build slots} {c : Cursor} :
    (readSlots usage slots build c).1 = .ok command ↔ Filled command slots build c.ahead := by
  induction slots generalizing c with
  | nil =>
    have ends (result : Except ParseError Command) :
        (readSlots usage [] result c).1 = .ok command ↔ c.ahead = [] ∧ result = .ok command := by
      change (if c.ahead.isEmpty then (result.mapError (Refusal.mk · none), c)
        else (.error ⟨.usage usage, some (c.mismatch .endOfCommand)⟩, c)).1 = .ok command ↔ _
      split
      · next ended =>
        cases result with
        | error e => exact iff_of_false nofun (by simp)
        | ok made =>
          change (Except.ok made : Except Refusal Command) = .ok command ↔ _
          simp [List.isEmpty_iff.mp ended]
      · next more => simp [mt List.isEmpty_iff.mpr more]
    exact ends build
  | cons slot rest ih =>
    rw [readSlots, Cursor.take?, Filled]
    cases c.ahead with
    | nil => simp
    | cons t ahead =>
      obtain ⟨kind, content⟩ := t
      by_cases right : kind = slot.kind
      · subst right
        cases checked : slot.check usage content with
        | error e =>
          have unfit : ¬ slot.Fits content := by rw [← Slot.check_eq_ok_iff, checked]; simp
          simp [checked, unfit]
        | ok =>
          have fits : slot.Fits content := Slot.check_eq_ok_iff.mp checked
          simp only [if_true, checked, ih]
          constructor
          · exact fun h => ⟨content, ahead, rfl, fits, h⟩
          · rintro ⟨_, _, ⟨⟩, _, h⟩
            exact h
      · simp [right]

section Forms

variable {tokens : List Token}

private theorem filled_bye_iff :
    Filled command bye.slots bye.build tokens ↔ tokens = [] ∧ command = .exit := by
  constructor
  · rintro ⟨rfl, ⟨⟩⟩
    exact ⟨rfl, rfl⟩
  · rintro ⟨rfl, rfl⟩
    exact ⟨rfl, rfl⟩

theorem filled_list_iff :
    Filled command list.slots list.build tokens ↔ tokens = [] ∧ command = .list .all := by
  constructor
  · rintro ⟨rfl, ⟨⟩⟩
    exact ⟨rfl, rfl⟩
  · rintro ⟨rfl, rfl⟩
    exact ⟨rfl, rfl⟩

theorem filled_listView_iff :
    Filled command listView.slots listView.build tokens ↔
      ∃ dash view dash' field, tokens = [⟨.forwardDash, dash⟩, ⟨.param, "view"⟩, ⟨.literal, view⟩,
          ⟨.forwardDash, dash'⟩, ⟨.param, "attribute"⟩, ⟨.literal, field⟩] ∧
        trimmed view = "date" ∧ trimmed field ≠ "" ∧
        command = .list (.byDate (trimmed field)) := by
  constructor
  · rintro ⟨dash, _, rfl, -, _, _, rfl, rfl, view, _, rfl, ⟨-, byDate⟩, dash', _, rfl, -, _, _, rfl,
      rfl, field, _, rfl, filled, rfl, ⟨⟩⟩
    exact ⟨dash, view, dash', field, rfl, byDate, filled, rfl⟩
  · rintro ⟨dash, view, dash', field, rfl, byDate, filled, rfl⟩
    have filled' : trimmed view ≠ "" := by simp [byDate]
    exact ⟨dash, _, rfl, trivial, _, _, rfl, rfl, view, _, rfl, ⟨filled', byDate⟩, dash', _, rfl,
      trivial, _, _, rfl, rfl, field, _, rfl, filled, rfl, rfl⟩

private theorem numbered_build_eq_ok_iff {make : TaskNumber → Command} {argument : String} :
    ((numbered usage make).build argument : Except ParseError Command) = .ok command ↔
      ∃ number : TaskNumber, Decimal argument.toList number.value ∧ command = make number := by
  simp only [← TaskNumber.ofText?_eq_some_iff]
  unfold numbered
  dsimp only
  cases TaskNumber.ofText? argument with
  | none => simp
  | some number =>
    constructor
    · exact fun built => ⟨number, rfl, (Except.ok.inj built).symm⟩
    · rintro ⟨_, ⟨⟩, rfl⟩
      rfl

theorem filled_numbered_iff {make : TaskNumber → Command} :
    Filled command (numbered usage make).slots (numbered usage make).build tokens ↔
      ∃ (argument : String) (number : TaskNumber), tokens = [⟨.literal, argument⟩] ∧
        Decimal (trimmed argument).toList number.value ∧ command = make number := by
  constructor
  · rintro ⟨argument, _, rfl, -, rfl, built⟩
    obtain ⟨number, spells, rfl⟩ := numbered_build_eq_ok_iff.mp built
    exact ⟨argument, number, rfl, spells, rfl⟩
  · rintro ⟨argument, number, rfl, spells, rfl⟩
    exact ⟨argument, _, rfl, trivial, rfl, numbered_build_eq_ok_iff.mpr ⟨number, spells, rfl⟩⟩

private theorem filled_todo_iff :
    Filled command todo.slots todo.build tokens ↔
      ∃ description, tokens = [⟨.literal, description⟩] ∧ trimmed description ≠ "" ∧
        command = .addTodo (trimmed description) := by
  constructor
  · rintro ⟨description, _, rfl, filled, rfl, ⟨⟩⟩
    exact ⟨description, rfl, filled, rfl⟩
  · rintro ⟨description, rfl, filled, rfl⟩
    exact ⟨description, _, rfl, filled, rfl, rfl⟩

private theorem filled_deadline_iff :
    Filled command deadline.slots deadline.build tokens ↔
      ∃ description dash due, tokens = [⟨.literal, description⟩, ⟨.forwardDash, dash⟩,
          ⟨.param, "by"⟩, ⟨.literal, due⟩] ∧
        trimmed description ≠ "" ∧ trimmed due ≠ "" ∧
        command = .addDeadline (trimmed description) (trimmed due) := by
  constructor
  · rintro ⟨description, _, rfl, filled, dash, _, rfl, -, _, _, rfl, rfl, due, _, rfl, filled', rfl,
      ⟨⟩⟩
    exact ⟨description, dash, due, rfl, filled, filled', rfl⟩
  · rintro ⟨description, dash, due, rfl, filled, filled', rfl⟩
    exact ⟨description, _, rfl, filled, dash, _, rfl, trivial, _, _, rfl, rfl, due, _, rfl, filled',
      rfl, rfl⟩

private theorem filled_event_iff :
    Filled command event.slots event.build tokens ↔
      ∃ description dash start dash' finish, tokens = [⟨.literal, description⟩,
          ⟨.forwardDash, dash⟩, ⟨.param, "from"⟩, ⟨.literal, start⟩, ⟨.forwardDash, dash'⟩,
          ⟨.param, "to"⟩, ⟨.literal, finish⟩] ∧
        (trimmed description ≠ "" ∧ trimmed start ≠ "" ∧ trimmed finish ≠ "") ∧
        command = .addEvent (trimmed description) (trimmed start) (trimmed finish) := by
  constructor
  · rintro ⟨description, _, rfl, filled, dash, _, rfl, -, _, _, rfl, rfl, start, _, rfl, filled',
      dash', _, rfl, -, _, _, rfl, rfl, finish, _, rfl, filled'', rfl, ⟨⟩⟩
    exact ⟨description, dash, start, dash', finish, rfl, ⟨filled, filled', filled''⟩, rfl⟩
  · rintro ⟨description, dash, start, dash', finish, rfl, ⟨filled, filled', filled''⟩, rfl⟩
    exact ⟨description, _, rfl, filled, dash, _, rfl, trivial, _, _, rfl, rfl, start, _, rfl,
      filled', dash', _, rfl, trivial, _, _, rfl, rfl, finish, _, rfl, filled'', rfl, rfl⟩

end Forms

/-- The form that a first token asks for is filled by the rest of a sentence. Only for a list the
token after the first one counts. -/
theorem filled_iff_sentence {kind next : TokenKind} {word : String} {rest : List Token}
    {form : Form} (known : ofKind? kind next = some form)
    (ahead : next = .forwardDash ↔ ∃ t ∈ rest.head?, t.kind = .forwardDash) :
    Filled command form.slots form.build rest ↔ Sentence (⟨kind, word⟩ :: rest) command := by
  cases kind with
  | exit =>
    cases known
    rw [filled_bye_iff]
    constructor
    · rintro ⟨rfl, rfl⟩
      exact .exit word
    · rintro ⟨⟩
      exact ⟨rfl, rfl⟩
  | list =>
    rw [ofKind?] at known
    split at known <;> cases known
    · next hasView =>
      rw [filled_listView_iff]
      constructor
      · rintro ⟨dash, view, dash', field, rfl, byDate, filled, rfl⟩
        exact .listView word dash view dash' field byDate filled
      · rintro ⟨⟩
        · simpa using ahead.mp hasView
        · exact ⟨_, _, _, _, rfl, ‹_›, ‹_›, rfl⟩
    · next noView =>
      rw [filled_list_iff]
      constructor
      · rintro ⟨rfl, rfl⟩
        exact .list word
      · rintro ⟨⟩
        · exact ⟨rfl, rfl⟩
        · exact absurd (ahead.mpr ⟨_, rfl, rfl⟩) noView
  | mark | unmark | delete =>
    cases known
    rw [filled_numbered_iff]
    constructor
    · rintro ⟨argument, number, rfl, spells, rfl⟩
      constructor
      exact spells
    · rintro ⟨⟩
      exact ⟨_, _, rfl, ‹_›, rfl⟩
  | todo =>
    cases known
    rw [filled_todo_iff]
    constructor
    · rintro ⟨description, rfl, filled, rfl⟩
      exact .todo word description filled
    · rintro ⟨⟩
      exact ⟨_, rfl, ‹_›, rfl⟩
  | deadline =>
    cases known
    rw [filled_deadline_iff]
    constructor
    · rintro ⟨description, dash, due, rfl, filled, filled', rfl⟩
      exact .deadline word description dash due filled filled'
    · rintro ⟨⟩
      exact ⟨_, _, _, rfl, ‹_›, ‹_›, rfl⟩
  | event =>
    cases known
    rw [filled_event_iff]
    constructor
    · rintro ⟨description, dash, start, dash', finish, rfl, ⟨filled, filled', filled''⟩, rfl⟩
      exact .event word description dash start dash' finish filled filled' filled''
    · rintro ⟨⟩
      exact ⟨_, _, _, _, _, rfl, ⟨‹_›, ‹_›, ‹_›⟩, rfl⟩
  | forwardDash | param | literal | endOfCommand => cases known

end Form

namespace Cursor

/-- The reader accepts the sentences of the grammar and nothing else. -/
theorem parse_eq_ok_iff {c : Cursor} (closing : c.closing.kind = .endOfCommand) :
    c.parse.1 = .ok command ↔ Sentence c.ahead command := by
  rw [parse]
  split
  · next ended =>
    rw [ended]
    exact iff_of_false (by simp) nofun
  · next t rest ahead =>
    rw [ahead]
    dsimp only
    split
    · next unknown =>
      refine iff_of_false (by simp) fun sentence => ?_
      cases sentence <;> simp [Form.ofKind?] at unknown
    · next form known =>
      rw [Form.read, Form.readSlots_eq_ok_iff]
      refine Form.filled_iff_sentence known ?_
      -- Behind the last token stands the one that ends the command, and that is no dash.
      cases rest with
      | nil => simp [peek, closing]
      | cons t rest => simp [peek]

end Cursor

namespace Command

theorem ofTokens_eq_ok_iff {tokens : List Token} :
    ofTokens tokens = .ok command ↔
      Sentence (tokens.takeWhile fun t => t.kind != .endOfCommand) command := by
  refine Cursor.parse_eq_ok_iff (c := Cursor.ofTokens tokens) ?_
  unfold Cursor.ofTokens
  cases found : tokens.find? fun t => t.kind == .endOfCommand with
  | none => simp [Token.endOfCommand]
  | some t => simpa [found] using List.find?_some found

end Command

section Openings

variable {tokens front : List Token}

/-- What stands before the first token that ends a command; without such a token, everything. -/
structure Opening (tokens front : List Token) : Prop where
  unended : ∀ t ∈ front, t.kind ≠ .endOfCommand
  reaches : tokens = front ∨
    ∃ last rest, last.kind = .endOfCommand ∧ tokens = front ++ last :: rest

theorem opening_iff_eq_takeWhile :
    Opening tokens front ↔ front = tokens.takeWhile fun t => t.kind != .endOfCommand := by
  constructor
  · rintro ⟨unended, rfl | ⟨last, rest, ends, rfl⟩⟩
    · exact (List.takeWhile_eq_self_iff.mpr fun t ht => by simpa using unended t ht).symm
    · rw [List.takeWhile_append_of_pos fun t ht => by simpa using unended t ht,
        List.takeWhile_cons_of_neg (by simp [ends]), List.append_nil]
  · rintro rfl
    have whole := List.takeWhile_append_dropWhile (p := fun t : Token => t.kind != .endOfCommand)
      (l := tokens)
    refine ⟨fun t ht => by simpa using List.mem_takeWhile_imp ht, ?_⟩
    cases behind : tokens.dropWhile fun t => t.kind != .endOfCommand with
    | nil => exact .inl (by simpa [behind] using whole.symm)
    | cons last rest =>
      have ends := List.head?_dropWhile_not (fun t : Token => t.kind != .endOfCommand) tokens
      rw [behind] at ends whole
      exact .inr ⟨last, rest, by simpa using ends, whole.symm⟩

end Openings

/-- Whatever the tokens are, a reader at their start accepts them exactly if those before the end of
the command are a sentence. What follows that end is never looked at. -/
theorem Cursor.parse_ofTokens_eq_ok_iff (tokens : List Token) (command : Command) :
    (Cursor.ofTokens tokens).parse.1 = .ok command ↔
      ∃ front, Opening tokens front ∧ Sentence front command := by
  simp only [opening_iff_eq_takeWhile, exists_eq_left]
  exact Command.ofTokens_eq_ok_iff

example : Command.ofTokens [⟨.mark, "x"⟩, ⟨.literal, " +007 "⟩, ⟨.endOfCommand, ""⟩, ⟨.todo, ""⟩] =
    .ok (.mark ⟨7, by decide, by decide⟩) := by
  decide +kernel

end Taskbook
