import Taskbook.Proofs.Session.Attended
import Taskbook.Proofs.Store.RoundTrip

/-! What the flag for unsaved changes says. A session does two things to its list and its file: it
changes the list, and while something is unsaved it tries to save. Along any course of these the flag
is up exactly while a change waits for a save that succeeds; while it is down, the file holds the
list or nothing has been touched at all. -/

set_option autoImplicit false

namespace Taskbook

def Reply.events : Reply → List Event
  | .turn t => t.events
  | .run r => r.events

def Visit.events (v : Visit) : List Event := v.replies.flatMap Reply.events

deriving instance DecidableEq for Event

/-- Some change was not followed by a save that succeeded. -/
def Waiting (events : List Event) : Prop :=
  ∃ front back, events = front ++ .change :: back ∧ .attempt (.ok ()) ∉ back

/-- Nothing is different but that folders may stand where nothing was. -/
def Disk.OnlyFoldersMade (d d' : Disk) : Prop :=
  ∀ l, d'.find l = d.find l ∨ d.find l = none ∧ d'.find l = some .folder

section Waiting

variable {events : List Event}

private theorem waiting_append_change : Waiting (events ++ [.change]) := ⟨events, [], rfl, by simp⟩

private theorem waiting_append_attempt_iff {result : Except SaveError Unit} :
    Waiting (events ++ [.attempt result]) ↔ Waiting events ∧ result ≠ .ok () := by
  constructor
  · rintro ⟨front, back, same, unsaved⟩
    -- The change is not the last event, so the attempt is the last one behind it.
    rcases List.eq_nil_or_concat back with rfl | ⟨back, last, rfl⟩
    · have ends := congrArg List.getLast? same
      simp at ends
    · rw [List.concat_eq_append, ← List.cons_append, ← List.append_assoc] at same
      obtain ⟨rfl, ends⟩ := List.append_inj' same rfl
      obtain rfl := List.singleton_inj.mp ends
      simp only [List.concat_eq_append, List.mem_append, not_or] at unsaved
      refine ⟨⟨front, back, rfl, unsaved.1⟩, ?_⟩
      rintro rfl
      simp at unsaved
  · rintro ⟨⟨front, back, rfl, unsaved⟩, failed⟩
    refine ⟨front, back ++ [.attempt result], by simp, ?_⟩
    simp [unsaved, failed.symm]

end Waiting

namespace Session

/-- The course of a session: how its list and its file came to be as they are. -/
inductive Course (s₀ : Session) (d₀ : Disk) : List Event → Session → Disk → Prop
  | opened : Course s₀ d₀ [] s₀ d₀
  | changed {events : List Event} {s : Session} {d : Disk} (before : Course s₀ d₀ events s d)
      (tasks : TaskList) :
      Course s₀ d₀ (events ++ [.change]) { s with tasks, unsaved := true } d
  | attempted {events : List Event} {s : Session} {d : Disk} (before : Course s₀ d₀ events s d)
      (unsaved : s.unsaved = true) :
      Course s₀ d₀ (events ++ [.attempt (s.save d).1]) (s.save d).2.1 (s.save d).2.2

namespace Course

variable {s₀ s s₁ : Session} {d₀ d d₁ : Disk} {k : Sink} {events : List Event}

private theorem handleLine [Text.HasCollation] {line : String} {turn : Turn}
    (before : Course s₀ d₀ events s d) (answered : s.handleLine d line = (turn, s₁, d₁)) :
    Course s₀ d₀ (events ++ turn.events) s₁ d₁ := by
  suffices step : Course s₀ d₀ (events ++ (s.handleLine d line).1.events)
      (s.handleLine d line).2.1 (s.handleLine d line).2.2 by rwa [answered] at step
  let outcome := Outcome.ofLine s.tasks line
  rcases handleLine_cases s d line with ⟨quiet, same⟩ | ⟨change, _, same⟩ | ⟨change, _, same⟩
  · rw [same]
    simpa [Turn.events, quiet] using before
  all_goals
    have raised : s.after outcome = { s with tasks := outcome.tasksAfter s.tasks, unsaved := true } :=
      by simp [after, outcome, change]
    have changed := before.changed (outcome.tasksAfter s.tasks)
    rw [← raised] at changed
    rw [same]
  · simpa [Turn.events, change] using changed
  · have attempted := changed.attempted (by simp [raised])
    rw [List.append_assoc] at attempted
    simpa [Turn.events, change] using attempted

private theorem held [Text.HasCollation] {lines : List (Option String)} {talk : Talk}
    (before : Course s₀ d₀ events s d) (held : Held s d k lines talk) :
    Course s₀ d₀ (events ++ talk.turns.flatMap Turn.events) talk.session talk.disk := by
  induction held generalizing events with
  | unprompted | endOfInput | notUtf8 => simpa using before
  | unanswered _ answered | bye _ answered => simpa using before.handleLine answered
  | turn _ answered _ _ _ ih =>
    rw [List.flatMap_cons, ← List.append_assoc]
    exact ih (before.handleLine answered)

theorem run [Text.HasCollation] (before : Course s₀ d₀ events s d) (k : Sink) (input : ByteArray) :
    Course s₀ d₀ (events ++ (s.run d k input).events) (s.run d k input).session
      (s.run d k input).disk := by
  obtain ⟨talk, same, shape⟩ := run_cases s d k input
  have talked : Course s₀ d₀ (events ++ talk.turns.flatMap Turn.events) talk.session talk.disk := by
    rcases shape with rfl | ⟨k₁, held⟩
    · simpa using before
    · exact before.held held
  rw [same, Run.events]
  rcases finish_cases talk with ⟨_, unsaved, talk_eq, closing, session, disk⟩ |
    ⟨_, talk_eq, closing, session, disk⟩
  · rw [talk_eq, closing, session, disk, ← List.append_assoc]
    exact talked.attempted unsaved
  · rw [talk_eq, closing, session, disk]
    simpa using talked

private theorem answer [Text.HasCollation] (before : Course s₀ d₀ events s d) (call : Call) :
    Course s₀ d₀ (events ++ (s.answer d call).1.events) (s.answer d call).2.1
      (s.answer d call).2.2 := by
  cases call with
  | line text => exact before.handleLine rfl
  | run k input => exact before.run k input

private theorem visit [Text.HasCollation] (before : Course s₀ d₀ events s d) (calls : List Call) :
    Course s₀ d₀ (events ++ (s.visit d calls).events) (s.visit d calls).session
      (s.visit d calls).disk := by
  induction calls generalizing s d events with
  | nil => simpa [Session.visit, Visit.events] using before
  | cons call rest ih =>
    have rest := ih (before.answer call)
    rw [List.append_assoc] at rest
    exact rest

private theorem file_eq (course : Course s₀ d₀ events s d) : s.file = s₀.file := by
  induction course with
  | opened => rfl
  | changed _ _ ih => exact ih
  | attempted _ _ ih => rw [file_save, ih]

/-- A save that succeeds leaves the whole list in the file, with all changes that others failed to
bring there. -/
private theorem holds (course : Course s₀ d₀ events s d)
    (last : events.getLast? = some (.attempt (.ok ()))) : Store.Holds d s₀.file s.tasks := by
  cases course with
  | opened => simp at last
  | changed => simp at last
  | @attempted _ s d before =>
    have ok : (s.save d).1 = .ok () := by simpa using last
    obtain ⟨d', stored, same⟩ := save_eq_of_ok ok
    rw [same, ← before.file_eq]
    exact Store.holds_of_save stored

private theorem hasDevice (course : Course s₀ d₀ events s d) (device : d.HasDevice) :
    d₀.HasDevice := by
  induction course with
  | opened => exact device
  | changed _ _ ih => exact ih device
  | attempted _ _ ih => exact ih (Store.hasDevice_of_save device)

private theorem unsaved_iff (course : Course s₀ d₀ events s d) (clean : s₀.unsaved = false) :
    s.unsaved = true ↔ Waiting events := by
  induction course with
  | opened => simp [clean, Waiting]
  | changed => exact iff_of_true rfl waiting_append_change
  | attempted _ _ ih => rw [unsaved_save_iff, waiting_append_attempt_iff, ih]

end Course

/-- How a session stands with its file, given the disk on which it was opened and what has happened
since then. -/
structure Accounted (d₀ : Disk) (file : Path) (events : List Event) (s : Session) (d : Disk) :
    Prop where
  unsaved_iff : s.unsaved = true ↔ Waiting events
  settled : s.unsaved = false →
    .change ∉ events ∧ Disk.OnlyFoldersMade d₀ d ∨ Store.Holds d file s.tasks
  written : events.getLast? = some (.attempt (.ok ())) → Store.Holds d file s.tasks
  hasDevice : d.HasDevice → d₀.HasDevice

section Opened

variable (d : Disk) (file : Path) (options : Options)

theorem onlyFoldersMade_start : d.OnlyFoldersMade (start d file options).2.2 := by
  intro l
  change (Store.load d file).2.find l = d.find l ∨ _
  cases present : d.isPresent file with
  | true => exact .inl (by rw [Store.load_of_present present])
  | false =>
    rw [start_eq, Store.load_of_absent present]
    cases file.parent? with
    | none => exact .inl rfl
    | some folder => exact Disk.find_makeFolders d (d.origin folder) folder.steps l

theorem Course.accounted {events : List Event} {s : Session} {d' : Disk}
    (course : Course (start d file options).1 (start d file options).2.2 events s d') :
    Accounted d file events s d' where
  unsaved_iff := course.unsaved_iff rfl
  settled saved := by
    cases course with
    | opened => exact .inl ⟨by simp, onlyFoldersMade_start d file options⟩
    | changed => exact absurd saved (by simp)
    | @attempted _ s d before unsaved =>
      have ok : (s.save d).1 = .ok () := by
        by_contra failed
        have still := unsaved_save_iff.mpr ⟨unsaved, failed⟩
        simp [saved] at still
      exact .inr ((before.attempted unsaved).holds (by simp [ok]))
  written := course.holds
  hasDevice device := by
    obtain ⟨l, found⟩ := course.hasDevice device
    rcases onlyFoldersMade_start d file options l with same | ⟨_, made⟩
    · exact ⟨l, same.symm.trans found⟩
    · exact absurd (made.symm.trans found) (by simp)

/-- Between two calls, and after the first turns of the conversation that is held next, nothing that
was changed is forgotten: the flag is up until a save succeeds, and with the flag down the file holds
the list unless nothing was changed. -/
theorem accounted_visit_start [Text.HasCollation] (calls : List Call) (k : Sink) (input : ByteArray)
    (n : Nat) :
    let opened := start d file options
    let visited := opened.1.visit opened.2.2 calls
    let lines := Text.streamLines input
    let talk := visited.session.converse visited.disk k (lines.take n)
    Accounted d file visited.events visited.session visited.disk ∧
      talk.turns = (visited.session.converse visited.disk k lines).turns.take n ∧
      Accounted d file (visited.events ++ talk.turns.flatMap Turn.events) talk.session
        talk.disk := by
  intro opened visited lines talk
  have between : Course opened.1 opened.2.2 visited.events visited.session visited.disk :=
    Course.opened.visit calls
  have within := between.held (held_converse visited.session visited.disk k (lines.take n))
  exact ⟨between.accounted, turns_converse_take _ _ k lines n, within.accounted⟩

end Opened

/-- A device in the place of the draft takes an empty list, and the place of the data file. -/
theorem not_lookup_file_of_device_draft :
    ¬ ∀ (d : Disk) (file : Path) (options : Options) (calls : List Call),
      let opened := start d file options
      let visited := opened.1.visit opened.2.2 calls
      visited.session.unsaved = false →
        .change ∉ visited.events ∧ d.OnlyFoldersMade visited.disk ∨
          visited.disk.lookup file =
            some (.file (Store.content visited.session.tasks).toUTF8) := by
  intro accounted
  let d : Disk := ⟨["home"], [(["home"], .folder), (["home", "tasks.tmp"], .full),
    (["home", "tasks.txt"], .file "Todo,a,false\n".toUTF8)], []⟩
  have settled := accounted d ⟨["tasks.txt"]⟩ ⟨"", false, true⟩ [.line "delete 1"] (by decide +kernel)
  rcases settled with ⟨unchanged, _⟩ | there
  · revert unchanged
    decide +kernel
  · revert there
    decide +kernel

end Session

end Taskbook
