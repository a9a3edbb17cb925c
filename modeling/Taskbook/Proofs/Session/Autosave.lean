import Taskbook.Proofs.Session.LineByLine
import Taskbook.Proofs.Session.Unsaved

/-! Sessions that differ only in when they save. What lines come to depends on the list alone, so two
such sessions answer alike and keep the same list; and once everything is saved, a file that was
written at all holds that list, whenever it was written. -/

set_option autoImplicit false

namespace Taskbook

open Text

private theorem Turn.response_of_saved (turn : Turn)
    (saved : ∀ result ∈ turn.save, result = .ok ()) :
    turn.response = turn.outcome.text := by
  unfold response
  split
  · next e failed => exact absurd (saved (.error e) failed) (by simp)
  · rfl

private theorem Run.change_mem_events_iff {r : Run} :
    .change ∈ r.events ↔ ∃ turn ∈ r.talk.turns, turn.isChange = true := by
  simp [Run.events, Turn.events, Turn.isChange]

private theorem Turn.exists_change_congr {turns turns' : List Turn}
    (same : turns.map Turn.outcome = turns'.map Turn.outcome) :
    (∃ turn ∈ turns, turn.isChange = true) ↔ ∃ turn ∈ turns', turn.isChange = true := by
  have seen (turns : List Turn) : (∃ turn ∈ turns, turn.isChange = true) ↔
      ∃ outcome ∈ turns.map Turn.outcome, outcome.isChange = true := by
    simp only [List.mem_map, exists_exists_and_eq_and, Turn.isChange]
  rw [seen, seen, same]

namespace Session

variable {s s₀ s₁ s₂ : Session} {d d₀ : Disk} {k : Sink} {input : ByteArray}
  {events : List Event}

private theorem exists_heard (lines : List String) :
    ∃ heard bye, Heard (lines.map fun line => line.toUTF8.data.toList) heard bye := by
  induction lines with
  | nil => exact ⟨[], false, .endOfInput⟩
  | cons line rest ih =>
    obtain ⟨heard, bye, more⟩ := ih
    by_cases last : IsBye line
    · exact ⟨[line], true, .bye _ last⟩
    · exact ⟨line :: heard, bye, .line last more⟩

private theorem lined_toUTF8 (text : String) :
    Lined 10 13 text.toUTF8.data.toList
      ((textLines text).map fun line => line.toUTF8.data.toList) := by
  have cut := lined_utf8 (lined_lines '\n' '\r' text.toList)
  rw [toUTF8_data, textLines, List.map_map]
  have bytes : ((fun line : String => line.toUTF8.data.toList) ∘ String.ofList) = utf8 := by
    funext piece
    rw [Function.comp_apply, toUTF8_data, String.toList_ofList]
  rw [bytes]
  exact cut

@[simp] theorem tasks_save (s : Session) (d : Disk) : (s.save d).2.1.tasks = s.tasks := by
  rw [save_eq]
  unfold settle
  dsimp only
  split <;> rfl

theorem tasks_handleLine [Text.HasCollation] (s : Session) (d : Disk) (line : String) :
    (s.handleLine d line).2.1.tasks = (Outcome.ofLine s.tasks line).tasksAfter s.tasks := by
  rcases handleLine_cases s d line with ⟨quiet, same⟩ | ⟨_, _, same⟩ | ⟨_, _, same⟩
  · have unchanged := congrArg Session.tasks (after_of_not_change quiet)
    rw [same]
    exact unchanged.symm
  · rw [same]
    rfl
  · rw [same, tasks_save]
    rfl

private theorem answerLines_congr [Text.HasCollation] (same : s₁.tasks = s₂.tasks) (d₁ d₂ : Disk)
    (lines : List String) :
    (s₁.answerLines d₁ lines).turns.map Turn.outcome =
        (s₂.answerLines d₂ lines).turns.map Turn.outcome ∧
      (s₁.answerLines d₁ lines).session.tasks = (s₂.answerLines d₂ lines).session.tasks := by
  induction lines generalizing s₁ s₂ d₁ d₂ with
  | nil => exact ⟨rfl, same⟩
  | cons line rest ih =>
    have step : (s₁.handleLine d₁ line).2.1.tasks = (s₂.handleLine d₂ line).2.1.tasks := by
      rw [tasks_handleLine, tasks_handleLine, same]
    obtain ⟨outcomes, tasks⟩ :=
      ih step (s₁.handleLine d₁ line).2.2 (s₂.handleLine d₂ line).2.2
    refine ⟨?_, tasks⟩
    simp only [answerLines, List.map_cons, outcome_handleLine, same, outcomes]

private theorem unsaved_finish {talk : Talk}
    (regular : talk.ending = .bye ∨ talk.ending = .endOfInput)
    (saved : ∀ result ∈ (finish talk).saves, result = .ok ()) :
    (finish talk).session.unsaved = false := by
  rcases finish_cases talk with ⟨_, _, _, closing, session, _⟩ | ⟨shut, _, _, session, _⟩
  · have ok := saved (talk.session.save talk.disk).1 (by simp [Run.saves, closing])
    rw [session]
    exact Bool.eq_false_iff.mpr fun unsaved => (unsaved_save_iff.mp unsaved).2 ok
  · rw [session]
    rcases shut with ⟨broken, _⟩ | clean
    · rcases regular with ending | ending <;> simp [ending] at broken
    · exact clean

private theorem run_of_saved [Text.HasCollation] (tireless : k.IsTireless)
    {raws : List (List UInt8)} {lines : List String} {bye : Bool}
    (cut : Lined 10 13 input.data.toList raws) (heard : Heard raws lines bye)
    (saved : ∀ result ∈ (s.run d k input).saves, result = .ok ()) :
    let outcomes := (s.answerLines d lines).turns.map Turn.outcome
    let r := s.run d k input
    r.result = .ok () ∧ r.talk.turns.map Turn.outcome = outcomes ∧
      r.session.tasks = (s.answerLines d lines).session.tasks ∧ r.session.unsaved = false ∧
      r.sink.text = k.text ++ opening s.options ++
        String.join (outcomes.map fun outcome => s.options.prompt ++ outcome.text ++ "\n") ++
          (if bye then "" else s.options.prompt) := by
  obtain ⟨talk, same, regular, turns, session, _, tireless', text⟩ :=
    exists_talk_of_heard (s := s) (d := d) tireless cut heard
  obtain ⟨result, talk_eq, text', _⟩ := finish_of_isTireless tireless' regular
  rw [same] at saved ⊢
  have quiet : report (finish talk).closing = "" := by
    cases closing : (finish talk).closing with
    | none => rfl
    | some closed => rw [saved closed (by simp [Run.saves, closing])]; rfl
  have exchanged : ∀ turn ∈ talk.turns, exchange s.options turn =
      s.options.prompt ++ turn.outcome.text ++ "\n" := by
    intro turn mem
    have answered := Turn.response_of_saved turn fun closed attempt =>
      saved closed (by
        simp only [Run.saves, talk_eq, List.mem_append, List.mem_filterMap]
        exact .inl ⟨turn, mem, attempt⟩)
    rw [exchange, answered]
  have kept : (finish talk).session.tasks = talk.session.tasks := by
    rcases finish_cases talk with ⟨_, _, _, _, session, _⟩ | ⟨_, _, _, session, _⟩ <;> rw [session]
    exact tasks_save _ _
  refine ⟨result, ?_, ?_, unsaved_finish regular saved, ?_⟩
  · rw [talk_eq, turns]
  · rw [kept, session]
  · rw [text', text, quiet, String.append_empty, ← turns, List.map_map,
      List.map_congr_left exchanged]
    rfl

private theorem Course.eq_of_quiet (course : Course s₀ d₀ events s d) (clean : s₀.unsaved = false)
    (quiet : .change ∉ events) : s = s₀ ∧ d = d₀ := by
  induction course with
  | opened => exact ⟨rfl, rfl⟩
  | changed => exact absurd quiet (by simp)
  | attempted _ unsaved ih =>
    have before := ih fun mem => quiet (List.mem_append_left _ mem)
    rw [before.1, clean] at unsaved
    exact absurd unsaved (by simp)

section Opened

variable (d : Disk) (file : Path) (options : Options)

/-- What is left of a conversation in a new session once everything is saved: as it was opened, if
nothing was changed; and otherwise a file that holds the list. -/
private theorem disk_run_start [Text.HasCollation] (noDevice : ¬ d.HasDevice) (k : Sink)
    (input : ByteArray)
    (clean : ((start d file options).1.run (start d file options).2.2 k input).session.unsaved =
      false) :
    let r := (start d file options).1.run (start d file options).2.2 k input
    if ∃ turn ∈ r.talk.turns, turn.isChange = true then
      r.disk.lookup file = some (.file (Store.content r.session.tasks).toUTF8)
    else r.disk = (start d file options).2.2 := by
  intro r
  have course : Course (start d file options).1 (start d file options).2.2 ([] ++ r.events)
      r.session r.disk := Course.opened.run k input
  rw [List.nil_append] at course
  split
  · next changed =>
    have accounted := course.accounted
    rcases accounted.settled clean with ⟨quiet, _⟩ | there | ⟨_, device⟩
    · exact absurd (Run.change_mem_events_iff.mpr changed) quiet
    · exact there
    · obtain ⟨l, _, found⟩ := Disk.lookup_eq_some_iff.mp device
      exact absurd (accounted.hasDevice ⟨l, found⟩) noDevice
  · next quiet => exact (course.eq_of_quiet rfl (mt Run.change_mem_events_iff.mp quiet)).2

end Opened

/-- Where nothing refuses what is shown or written to it and all saves go well, it makes no difference
in the end whether saves are automatic: the same is shown, the list is the same, and the data file
holds the same. -/
theorem run_start_autosave_eq [Text.HasCollation] (d : Disk) (file : Path) (prompt : String)
    (greet : Bool) (k : Sink) (text : String) (tireless : k.IsTireless) (noDevice : ¬ d.HasDevice) :
    let opened (autosave : Bool) := start d file ⟨prompt, greet, autosave⟩
    let r (autosave : Bool) := (opened autosave).1.run (opened autosave).2.2 k text.toUTF8
    (∀ autosave, ∀ result ∈ (r autosave).saves, result = .ok ()) →
      (∀ autosave, (r autosave).result = .ok ()) ∧
        (r true).sink.text = (r false).sink.text ∧
        (r true).session.tasks = (r false).session.tasks ∧
        (r true).disk.lookup file = (r false).disk.lookup file ∧
        ((∀ turn ∈ (r true).talk.turns, turn.isChange = false) →
          ∀ autosave, (r autosave).disk = (opened autosave).2.2 ∧
            d.OnlyFoldersMade (r autosave).disk) := by
  intro opened r saved
  obtain ⟨heard, bye, hears⟩ := exists_heard (textLines text)
  have told (autosave : Bool) :=
    run_of_saved tireless (lined_toUTF8 text) hears (saved autosave)
  have begins : (opened true).1.tasks = (opened false).1.tasks := rfl
  have alike := answerLines_congr begins (opened true).2.2 (opened false).2.2 heard
  obtain ⟨resultOn, turnsOn, tasksOn, cleanOn, textOn⟩ := told true
  obtain ⟨resultOff, turnsOff, tasksOff, cleanOff, textOff⟩ := told false
  have outcomes : (r true).talk.turns.map Turn.outcome = (r false).talk.turns.map Turn.outcome := by
    rw [turnsOn, turnsOff, alike.1]
  have tasks : (r true).session.tasks = (r false).session.tasks := by
    rw [tasksOn, tasksOff, alike.2]
  have changes := Turn.exists_change_congr outcomes
  have diskOn := disk_run_start d file ⟨prompt, greet, true⟩ noDevice k text.toUTF8 cleanOn
  have diskOff := disk_run_start d file ⟨prompt, greet, false⟩ noDevice k text.toUTF8 cleanOff
  refine ⟨Bool.forall_bool.mpr ⟨resultOff, resultOn⟩, ?_, tasks, ?_, fun quiet autosave => ?_⟩
  -- Both texts are put together from the outcomes, which are the same.
  · rw [textOn, textOff, alike.1]
    rfl
  -- If one of the runs changed the list then so did the other, and both files hold the same list.
  · by_cases changed : ∃ turn ∈ (r true).talk.turns, turn.isChange = true
    · rw [if_pos changed] at diskOn
      rw [if_pos (changes.mp changed)] at diskOff
      rw [diskOn, diskOff, tasks]
    · rw [if_neg changed] at diskOn
      rw [if_neg (mt changes.mpr changed)] at diskOff
      rw [diskOn, diskOff]
      rfl
  · have untouched : (r autosave).disk = (opened autosave).2.2 := by
      have never : ¬ ∃ turn ∈ (r true).talk.turns, turn.isChange = true := by
        rintro ⟨turn, mem, change⟩
        rw [quiet turn mem] at change
        exact absurd change (by simp)
      cases autosave with
      | true => rwa [if_neg never] at diskOn
      | false => rwa [if_neg (mt changes.mpr never)] at diskOff
    rw [untouched]
    exact ⟨rfl, onlyFoldersMade_start d file _⟩

/-- Two changes with a failing line and a listing between them: two saves as they are made, or one at
the end. -/
theorem run_start_autosave_eq_two_changes :
    let d : Disk :=
      ⟨["home"], [(["home"], .folder), (["home", "tasks.txt"], .file "Todo,a,false\n".toUTF8)], []⟩
    let opened (autosave : Bool) := start d ⟨["tasks.txt"]⟩ ⟨"> ", true, autosave⟩
    let r (autosave : Bool) := (opened autosave).1.run (opened autosave).2.2 .unlimited
      "todo b\nmark 7\nlist\nmark 1\nbye\n".toUTF8
    Sink.unlimited.IsTireless ∧ ¬ d.HasDevice ∧
      (∀ autosave, ∀ result ∈ (r autosave).saves, result = .ok ()) ∧
      (r true).saves.length = 2 ∧ (r false).saves.length = 1 ∧
      (∀ autosave, (r autosave).result = .ok ()) ∧
      (r true).sink.text = (r false).sink.text ∧
      (r true).session.tasks = (r false).session.tasks ∧
      (r true).disk.lookup ⟨["tasks.txt"]⟩ = (r false).disk.lookup ⟨["tasks.txt"]⟩ ∧
      ((∀ turn ∈ (r true).talk.turns, turn.isChange = false) →
        ∀ autosave, (r autosave).disk = (opened autosave).2.2 ∧
          d.OnlyFoldersMade (r autosave).disk) := by
  intro d opened r
  have tireless : Sink.unlimited.IsTireless := fun _ _ => rfl
  have noDevice : ¬ d.HasDevice := by
    rintro ⟨l, found⟩
    unfold Disk.find at found
    split at found
    · simp at found
    · obtain ⟨⟨_, _⟩, first, rfl⟩ := Option.map_eq_some_iff.mp found
      have mem := List.mem_of_find?_eq_some first
      simp [d] at mem
  have saved : ∀ autosave, ∀ result ∈ (r autosave).saves, result = .ok () := by decide +kernel
  exact ⟨tireless, noDevice, saved, by decide +kernel, by decide +kernel,
    run_start_autosave_eq d ⟨["tasks.txt"]⟩ "> " true .unlimited _ tireless noDevice saved⟩

end Session

end Taskbook
