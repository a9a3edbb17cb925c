import Taskbook.Proofs.Session.Visit
import Taskbook.Proofs.Text.Bytes
import Taskbook.Text.Lexical

/-! A conversation told by its lines. With a sink that refuses nothing it is no more than its lines
answered in order, up to the one that ends it, and one more save at the end if it is needed; and what
is shown is known to the letter. -/

set_option autoImplicit false

namespace Taskbook

open Text

/-- A sink that accepts whatever is put into it. -/
def Sink.IsTireless (k : Sink) : Prop := ∀ shown piece, k.accepts shown piece = true

def Session.IsBye (line : String) : Prop := Command.ofLine line = .ok .exit

/-- The lines that a conversation hears from a stream: all up to the first one that ends the
conversation, or all there are. The flag tells whether there is one that does. -/
inductive Session.Heard : List (List UInt8) → List String → Bool → Prop
  | bye {line : String} (rest : List (List UInt8)) (bye : IsBye line) :
      Heard (line.toUTF8.data.toList :: rest) [line] true
  | endOfInput : Heard [] [] false
  | line {line : String} {rest : List (List UInt8)} {lines : List String} {bye : Bool}
      (goesOn : ¬ IsBye line) (more : Heard rest lines bye) :
      Heard (line.toUTF8.data.toList :: rest) (line :: lines) bye

structure Told where
  turns : List Turn
  session : Session
  disk : Disk

namespace Session

def answerLines [Text.HasCollation] (s : Session) (d : Disk) : List String → Told
  | [] => ⟨[], s, d⟩
  | line :: rest =>
    let (turn, s, d) := s.handleLine d line
    let told := answerLines s d rest
    { told with turns := turn :: told.turns }

def opening (options : Options) : String := if options.greet then greeting ++ "\n" else ""

def exchange (options : Options) (turn : Turn) : String :=
  options.prompt ++ turn.response ++ "\n"

def report : Option (Except SaveError Unit) → String
  | some (.error e) => e.message ++ "\n"
  | _ => ""

variable {s : Session} {d : Disk} {k : Sink} {line : String} {raws : List (List UInt8)}
  {lines : List String} {bye : Bool}

private theorem put?_of_isTireless (tireless : k.IsTireless) (piece : String) :
    ∃ k', k.put? piece = some k' ∧ k'.IsTireless ∧ k'.text = k.text ++ piece := by
  refine ⟨{ k with shown := k.shown ++ [piece] }, ?_, tireless, ?_⟩
  · rw [Sink.put?, if_pos (tireless k.shown piece)]
  · simp [Sink.text, String.join_append]

private theorem fromUTF8?_bytes (line : String) :
    String.fromUTF8? ⟨line.toUTF8.data.toList.toArray⟩ = some line := by
  rw [Array.toArray_toList]
  exact fromUTF8?_toUTF8 line

theorem finish_of_isTireless {talk : Talk} (tireless : talk.sink.IsTireless)
    (regular : talk.ending = .bye ∨ talk.ending = .endOfInput) :
    (finish talk).result = .ok () ∧ (finish talk).talk = talk ∧
      (finish talk).sink.text = talk.sink.text ++ report (finish talk).closing ∧
      (talk.session.unsaved = true →
        (finish talk).closing = some (talk.session.save talk.disk).1 ∧
          ((finish talk).session, (finish talk).disk) = (talk.session.save talk.disk).2) ∧
      (talk.session.unsaved = false →
        (finish talk).closing = none ∧
          ((finish talk).session, (finish talk).disk) = (talk.session, talk.disk)) := by
  have closed : finish talk = close talk := by
    rw [finish_eq]
    rcases regular with ending | ending <;> rw [ending]
  rw [closed]
  cases unsaved : talk.session.unsaved with
  | false => simp [close_of_saved unsaved, report]
  | true =>
    obtain ⟨talk_eq, closing, session, disk⟩ := close_of_unsaved unsaved
    refine ⟨?_, talk_eq, ?_, fun _ => ⟨closing, Prod.ext session disk⟩, fun no => absurd no (by simp)⟩
    all_goals
      rw [close_eq, if_pos unsaved]
      rcases talk.session.save talk.disk with ⟨saved, s, d⟩
      cases saved with
      | ok => simp [report]
      | error e =>
        obtain ⟨k', shown, _, text⟩ := put?_of_isTireless tireless (e.message ++ "\n")
        simp [shown, text, report]

section Lines

variable [Text.HasCollation]

private theorem isExit_ofLine_iff {tasks : TaskList} :
    (Outcome.ofLine tasks line).isExit = true ↔ IsBye line := by
  unfold Outcome.ofLine IsBye
  cases Command.ofLine line with
  | error refusal => simp [Outcome.isExit]
  | ok command =>
    cases executed : command.execute tasks with
    | ok done => cases command <;> simp [Outcome.isExit, Command.isExit, executed]
    | error e =>
      simp only [executed, Outcome.isExit, Bool.false_eq_true, false_iff]
      intro same
      obtain rfl := Except.ok.inj same
      exact absurd executed (by simp [Command.execute])

theorem outcome_handleLine (s : Session) (d : Disk) (line : String) :
    (s.handleLine d line).1.outcome = Outcome.ofLine s.tasks line := by
  rcases handleLine_cases s d line with ⟨_, same⟩ | ⟨_, _, same⟩ | ⟨_, _, same⟩ <;> rw [same]

private theorem isExit_handleLine_iff : (s.handleLine d line).1.isExit = true ↔ IsBye line := by
  rw [Turn.isExit, outcome_handleLine]
  exact isExit_ofLine_iff

private theorem converse_cons (tireless : k.IsTireless) (line : String)
    (rest : List (Option String)) :
    ∃ k', k'.IsTireless ∧
      k'.text = k.text ++ exchange s.options (s.handleLine d line).1 ∧
      s.converse d k (some line :: rest) =
        if (s.handleLine d line).1.isExit then
          ⟨[(s.handleLine d line).1], .bye, (s.handleLine d line).2.1, (s.handleLine d line).2.2, k'⟩
        else
          let talk := (s.handleLine d line).2.1.converse (s.handleLine d line).2.2 k' rest
          { talk with turns := (s.handleLine d line).1 :: talk.turns } := by
  obtain ⟨k₁, prompted, tireless₁, text₁⟩ := put?_of_isTireless tireless s.options.prompt
  obtain ⟨k₂, answered, tireless₂, text₂⟩ :=
    put?_of_isTireless tireless₁ ((s.handleLine d line).1.response ++ "\n")
  refine ⟨k₂, tireless₂, ?_, ?_⟩
  · rw [text₂, text₁, exchange, String.append_assoc, String.append_assoc]
  · rw [converse_eq]
    simp only [prompted, answered]

private theorem converse_nil (tireless : k.IsTireless) :
    ∃ k', k'.IsTireless ∧ k'.text = k.text ++ s.options.prompt ∧
      s.converse d k [] = ⟨[], .endOfInput, s, d, k'⟩ := by
  obtain ⟨k₁, prompted, tireless₁, text₁⟩ := put?_of_isTireless tireless s.options.prompt
  refine ⟨k₁, tireless₁, text₁, ?_⟩
  rw [converse_eq]
  simp only [prompted]

private theorem converse_of_heard (tireless : k.IsTireless) (heard : Heard raws lines bye) :
    let told := s.answerLines d lines
    let talk := s.converse d k (raws.map fun raw => String.fromUTF8? ⟨raw.toArray⟩)
    talk.turns = told.turns ∧ talk.session = told.session ∧ talk.disk = told.disk ∧
      talk.ending = (if bye then .bye else .endOfInput) ∧ talk.sink.IsTireless ∧
      talk.sink.text = k.text ++ String.join (told.turns.map (exchange s.options)) ++
        (if bye then "" else s.options.prompt) := by
  induction heard generalizing s d k with
  | @bye line rest bye =>
    obtain ⟨k', tireless', text, same⟩ := converse_cons (s := s) (d := d) tireless line
      (rest.map fun raw => String.fromUTF8? ⟨raw.toArray⟩)
    rw [if_pos (isExit_handleLine_iff.mpr bye)] at same
    simp only [List.map_cons, fromUTF8?_bytes, same]
    exact ⟨rfl, rfl, rfl, rfl, tireless', by simp [answerLines, text]⟩
  | endOfInput =>
    obtain ⟨k', tireless', text, same⟩ := converse_nil (s := s) (d := d) tireless
    rw [List.map_nil, same]
    exact ⟨rfl, rfl, rfl, rfl, tireless', by simp [answerLines, text]⟩
  | @line line rest lines bye goesOn more ih =>
    obtain ⟨k', tireless', text, same⟩ := converse_cons (s := s) (d := d) tireless line
      (rest.map fun raw => String.fromUTF8? ⟨raw.toArray⟩)
    rw [if_neg (mt isExit_handleLine_iff.mp goesOn)] at same
    obtain ⟨turns, session, disk, ending, tireless'', text'⟩ :=
      ih (s := (s.handleLine d line).2.1) (d := (s.handleLine d line).2.2) tireless'
    simp only [List.map_cons, fromUTF8?_bytes, same]
    refine ⟨congrArg _ turns, session, disk, ending, tireless'', ?_⟩
    rw [text', text, options_handleLine]
    simp [answerLines, String.append_assoc]

theorem exists_talk_of_heard (tireless : k.IsTireless) {input : ByteArray}
    (cut : Lined 10 13 input.data.toList raws) (heard : Heard raws lines bye) :
    let told := s.answerLines d lines
    ∃ talk : Talk, s.run d k input = finish talk ∧
      (talk.ending = .bye ∨ talk.ending = .endOfInput) ∧ talk.turns = told.turns ∧
      talk.session = told.session ∧ talk.disk = told.disk ∧ talk.sink.IsTireless ∧
      talk.sink.text = k.text ++ opening s.options ++
        String.join (told.turns.map (exchange s.options)) ++
          (if bye then "" else s.options.prompt) := by
  intro told
  obtain ⟨k₁, tireless₁, text₁, greeted⟩ : ∃ k₁ : Sink, k₁.IsTireless ∧
      k₁.text = k.text ++ opening s.options ∧
      s.run d k input = finish (s.converse d k₁ (streamLines input)) := by
    rw [run_eq]
    unfold opening
    dsimp only
    split
    · obtain ⟨k₁, shown, tireless₁, text₁⟩ := put?_of_isTireless tireless (greeting ++ "\n")
      exact ⟨k₁, tireless₁, text₁, by rw [shown]⟩
    · exact ⟨k, tireless, by simp, rfl⟩
  obtain ⟨turns, session, disk, ending, tireless₂, text₂⟩ :=
    converse_of_heard (s := s) (d := d) tireless₁ heard
  rw [← lines_of_lined cut] at turns session disk ending tireless₂ text₂
  refine ⟨_, greeted, ?_, turns, session, disk, tireless₂, text₁ ▸ text₂⟩
  rw [streamLines, ending]
  cases bye <;> simp

/-- A conversation with a tireless sink, on a stream whose lines are well-formed as far as they are
heard, comes to a regular end: it answers these lines and no others, shows the greeting, the
exchanges and the last prompt, and saves once more if something is unsaved. -/
theorem run_eq_answerLines (s : Session) (d : Disk) (k : Sink) (input : ByteArray)
    (raws : List (List UInt8)) (lines : List String) (bye : Bool) (tireless : k.IsTireless)
    (cut : Lined 10 13 input.data.toList raws) (heard : Heard raws lines bye) :
    let told := s.answerLines d lines
    let r := s.run d k input
    r.result = .ok () ∧ r.talk.turns = told.turns ∧
      (told.session.unsaved = true → r.closing = some (told.session.save told.disk).1 ∧
        (r.session, r.disk) = (told.session.save told.disk).2) ∧
      (told.session.unsaved = false → r.closing = none ∧
        (r.session, r.disk) = (told.session, told.disk)) ∧
      r.sink.text = k.text ++ opening s.options ++
        String.join (told.turns.map (exchange s.options)) ++
          (if bye then "" else s.options.prompt) ++ report r.closing := by
  intro told r
  obtain ⟨talk, finished, regular, turns, session, disk, tireless', text⟩ :=
    exists_talk_of_heard (s := s) (d := d) tireless cut heard
  obtain ⟨result, talk_eq, text', unsaved, saved⟩ := finish_of_isTireless tireless' regular
  have same : r = finish talk := finished
  rw [session, disk] at unsaved saved
  rw [same, talk_eq, text', text]
  exact ⟨result, turns, unsaved, saved, rfl⟩

end Lines

/-- A line that ends in a return and a newline, the command to end, and bytes behind it that are no
text. -/
theorem run_eq_answerLines_noise :
    let s : Session := ⟨[], ⟨["tasks.txt"]⟩, ⟨"> ", true, false⟩, false⟩
    let d : Disk := ⟨["home"], [(["home"], .folder)], []⟩
    let input : ByteArray := "todo a\r\nbye\n".toUTF8 ++ ⟨#[0xFF, 10, 0xFE]⟩
    let raws := Text.lines (10 : UInt8) 13 input.data.toList
    let told := s.answerLines d ["todo a", "bye"]
    let r := s.run d .unlimited input
    Sink.unlimited.IsTireless ∧ Lined 10 13 input.data.toList raws ∧
      Heard raws ["todo a", "bye"] true ∧ r.result = .ok () ∧ r.talk.turns = told.turns ∧
      (told.session.unsaved = true → r.closing = some (told.session.save told.disk).1 ∧
        (r.session, r.disk) = (told.session.save told.disk).2) ∧
      (told.session.unsaved = false → r.closing = none ∧
        (r.session, r.disk) = (told.session, told.disk)) ∧
      r.sink.text = Sink.unlimited.text ++ opening s.options ++
        String.join (told.turns.map (exchange s.options)) ++
          (if true then "" else s.options.prompt) ++ report r.closing := by
  intro s d input raws told r
  have tireless : Sink.unlimited.IsTireless := fun _ _ => rfl
  have cut : Lined 10 13 input.data.toList raws := lined_lines _ _ _
  have heard : Heard raws ["todo a", "bye"] true := by
    have pieces : raws = "todo a".toUTF8.data.toList :: "bye".toUTF8.data.toList ::
        [[0xFF], [0xFE]] := by decide +kernel
    have goesOn : ¬ IsBye "todo a" := by
      unfold IsBye
      decide +kernel
    rw [pieces]
    refine .line goesOn (.bye _ ?_)
    unfold IsBye
    decide +kernel
  exact ⟨tireless, cut, heard,
    run_eq_answerLines s d .unlimited input raws ["todo a", "bye"] true tireless cut heard⟩

end Session

end Taskbook
