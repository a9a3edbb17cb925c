import Taskbook.Proofs.Session.Visit
import Taskbook.Proofs.Store.RoundTrip
import Taskbook.Text.Lexical

/-! A session that is dropped and opened again. While its list holds storable tasks only, a session
that has nothing unsaved is the one that opens on its disk; and lines bring in storable tasks only,
since their texts are trimmed and hold no newline. -/

set_option autoImplicit false

namespace Taskbook

open Text

namespace Session

variable {file : Path} {options : Options} {s : Session} {d : Disk} {line : String}

private theorem storable_after [Text.HasCollation] (storable : ∀ t ∈ s.tasks, t.Storable)
    (oneLine : '\n' ∉ line.toList) :
    ∀ t ∈ (s.after (Outcome.ofLine s.tasks line)).tasks, t.Storable := by
  intro t mem
  unfold after Outcome.ofLine at mem
  split at mem
  · exact storable t mem
  · next c given =>
    split at mem
    · exact storable t mem
    · next response changed executed =>
      rcases Command.of_mem_execute executed mem with ⟨t₀, old, rfl | ⟨done, rfl⟩⟩ | texts
      · exact storable t old
      · exact (storable t₀ old).mark done
      · refine .of_texts ?_ ?_ <;> rw [texts]
        · exact fun text mem hn => oneLine (Command.mem_of_ofLine given mem hn)
        · intro text mem last
          have trimmed := (Command.canonical_of_ofLine given text mem).isTrimmed.last
          exact absurd (trimmed '\r' last) (by decide)

/-- A disk on which this very session opens, and which that does not change. -/
def Reopens (s : Session) (d : Disk) : Prop :=
  ∃ loaded, start d s.file s.options = (s, loaded, d)

private theorem reopens_of_holds (storable : ∀ t ∈ s.tasks, t.Storable) (saved : s.unsaved = false)
    (holds : Store.Holds d s.file s.tasks) : Reopens s d := by
  obtain ⟨tasks, file, options, unsaved⟩ := s
  obtain rfl : unsaved = false := saved
  rcases holds with there | ⟨rfl, device⟩
  · have parsed := Store.parse?_content_eq_some_iff.mpr storable
    exact ⟨.ok (some tasks), by simp [start_eq, Store.load_of_lookup_file there, parsed, ofLoaded]⟩
  · exact ⟨_, by simp only [start_eq, Store.load_of_lookup_full device]; rfl⟩

/-- What keeps a session true to its disk, call by call. -/
structure Faithful (file : Path) (options : Options) (s : Session) (d : Disk) : Prop where
  file_eq : s.file = file
  options_eq : s.options = options
  storable : ∀ t ∈ s.tasks, t.Storable
  reopens : s.unsaved = false → Reopens s d
  prompt : options.autosave = true → s.unsaved = false

namespace Faithful

private theorem after [Text.HasCollation] (h : Faithful file options s d)
    (manual : options.autosave = false) (change : (Outcome.ofLine s.tasks line).isChange = true)
    (oneLine : '\n' ∉ line.toList) :
    Faithful file options (s.after (Outcome.ofLine s.tasks line)) d where
  file_eq := h.file_eq
  options_eq := h.options_eq
  storable := storable_after h.storable oneLine
  reopens saved := by simp [Session.after, change] at saved
  prompt auto := by simp [manual] at auto

private theorem save (file_eq : s.file = file) (options_eq : s.options = options)
    (storable : ∀ t ∈ s.tasks, t.Storable) (ok : (s.save d).1 = .ok ()) :
    Faithful file options (s.save d).2.1 (s.save d).2.2 ∧ (s.save d).2.1.unsaved = false := by
  obtain ⟨d', stored, same⟩ := save_eq_of_ok ok
  have holds := Store.holds_of_save stored
  rw [same]
  exact ⟨⟨file_eq, options_eq, storable, fun saved => reopens_of_holds storable saved holds,
    fun _ => rfl⟩, rfl⟩

private theorem handleLine [Text.HasCollation] (h : Faithful file options s d)
    (oneLine : '\n' ∉ line.toList)
    (saved : ∀ result ∈ (s.handleLine d line).1.save, result = .ok ()) :
    Faithful file options (s.handleLine d line).2.1 (s.handleLine d line).2.2 := by
  rcases handleLine_cases s d line with ⟨_, same⟩ | ⟨change, manual, same⟩ | ⟨_, _, same⟩
  · rw [same]
    exact h
  · rw [same]
    exact h.after (h.options_eq ▸ manual) change oneLine
  · rw [same] at saved ⊢
    exact (save (s := s.after (Outcome.ofLine s.tasks line)) h.file_eq h.options_eq
      (storable_after h.storable oneLine) (saved _ rfl)).1

private theorem held [Text.HasCollation] {k : Sink} {lines : List (Option String)} {talk : Talk}
    (held : Held s d k lines talk) (h : Faithful file options s d)
    (oneLine : ∀ line, some line ∈ lines → '\n' ∉ line.toList)
    (saved : ∀ turn ∈ talk.turns, ∀ result ∈ turn.save, result = .ok ()) :
    Faithful file options talk.session talk.disk := by
  induction held with
  | unprompted | endOfInput | notUtf8 => exact h
  | unanswered shown answered | bye shown answered =>
    have step := h.handleLine (oneLine _ List.mem_cons_self)
    rw [answered] at step
    exact step (saved _ List.mem_cons_self)
  | turn shown answered _ _ _ ih =>
    have step := h.handleLine (oneLine _ List.mem_cons_self)
    rw [answered] at step
    exact ih (step (saved _ List.mem_cons_self))
      (fun line mem => oneLine line (List.mem_cons_of_mem _ mem))
      fun turn mem => saved turn (List.mem_cons_of_mem _ mem)

private theorem run [Text.HasCollation] {k : Sink} {input : ByteArray}
    (h : Faithful file options s d) (saved : ∀ result ∈ (s.run d k input).saves, result = .ok ()) :
    Faithful file options (s.run d k input).session (s.run d k input).disk ∧
      ((s.run d k input).result = .ok () → (s.run d k input).session.unsaved = false) := by
  obtain ⟨talk, same, shape⟩ := run_cases s d k input
  rw [same] at saved ⊢
  have ended : (∀ turn ∈ talk.turns, ∀ result ∈ turn.save, result = .ok ()) →
      Faithful file options talk.session talk.disk := by
    rcases shape with rfl | ⟨k₁, held⟩
    · exact fun _ => h
    · exact h.held held fun line mem => newline_not_mem_of_mem_streamLines mem
  -- The saves of the turns come first in either case; at a regular end one more may follow.
  rcases finish_cases talk with ⟨_, _, talk_eq, closing, session, disk⟩ |
    ⟨shut, talk_eq, closing, session, disk⟩
  all_goals
    rw [Run.saves, talk_eq, closing] at saved
    have faithful := ended fun turn mem result given =>
      saved result (List.mem_append_left _ (List.mem_filterMap.mpr ⟨turn, mem, given⟩))
  · have closed := save (d := talk.disk) faithful.file_eq faithful.options_eq faithful.storable
      (saved _ (List.mem_append_right _ List.mem_cons_self))
    rw [session, disk]
    exact ⟨closed.1, fun _ => closed.2⟩
  · rw [session, disk]
    refine ⟨faithful, fun ok => ?_⟩
    rcases shut with ⟨_, failed⟩ | saved
    · exact absurd ok failed
    · exact saved

private theorem answer [Text.HasCollation] {call : Call} (h : Faithful file options s d)
    (oneLine : ∀ text, call = .line text → '\n' ∉ text.toList)
    (saved : ∀ result ∈ (s.answer d call).1.saves, result = .ok ()) :
    Faithful file options (s.answer d call).2.1 (s.answer d call).2.2 := by
  cases call with
  | line text =>
    exact h.handleLine (oneLine text rfl) fun result mem => saved result (Option.mem_toList.mpr mem)
  | run k input => exact (h.run saved).1

private theorem visit [Text.HasCollation] {calls : List Call} (h : Faithful file options s d)
    (oneLine : ∀ text, .line text ∈ calls → '\n' ∉ text.toList)
    (saved : ∀ reply ∈ (s.visit d calls).replies, ∀ result ∈ reply.saves, result = .ok ()) :
    Faithful file options (s.visit d calls).session (s.visit d calls).disk ∧
      ∀ r, (s.visit d calls).replies.getLast? = some (.run r) → r.result = .ok () →
        (s.visit d calls).session.unsaved = false := by
  induction calls generalizing s d with
  | nil => exact ⟨h, fun r last => by simp [Session.visit] at last⟩
  | cons call rest ih =>
    have step : Faithful file options (s.answer d call).2.1 (s.answer d call).2.2 :=
      h.answer (fun text same => oneLine text (same ▸ List.mem_cons_self))
        (saved _ List.mem_cons_self)
    have more := ih step (fun text mem => oneLine text (List.mem_cons_of_mem _ mem))
      fun reply mem => saved reply (List.mem_cons_of_mem _ mem)
    refine ⟨more.1, fun r last ok => ?_⟩
    -- The last call is the first one, or one of the others.
    cases rest with
    | nil =>
      have reply : (s.answer d call).1 = .run r := Option.some.inj last
      cases call with
      | line text => exact Reply.noConfusion reply
      | run k input =>
        obtain rfl := Reply.run.inj reply
        exact (h.run (saved _ List.mem_cons_self)).2 ok
    | cons next rest => exact more.2 r (by simpa [Session.visit] using last) ok

private theorem start (plain : ∀ bytes, d.read file = .ok bytes → (13 : UInt8) ∉ bytes.data.toList)
    (lasting : d.isPresent file = false → (Store.load d file).2.isPresent file = false) :
    Faithful file options (start d file options).1 (start d file options).2.2 where
  file_eq := rfl
  options_eq := rfl
  storable := by
    intro t mem
    cases loaded : (Store.load d file).1 with
    | error e => simp [start_eq, ofLoaded, loaded] at mem
    | ok tasks =>
      cases tasks with
      | none => simp [start_eq, ofLoaded, loaded] at mem
      | some tasks =>
        refine Store.storable_of_load loaded plain t ?_
        simpa [start_eq, ofLoaded, loaded] using mem
  reopens _ := by
    refine ⟨(Store.load d file).1, ?_⟩
    have again := Store.load_load lasting
    simp only [start_eq, ofLoaded, again]
  prompt _ := rfl

end Faithful

/-- A session that opens on its disk cannot be told from the one that opens there. -/
private theorem Reopens.visit_eq [Text.HasCollation] (h : Reopens s d) (later : List Call) :
    (start d s.file s.options).1 = s ∧
      (start d s.file s.options).1.visit (start d s.file s.options).2.2 later =
        s.visit d later := by
  obtain ⟨loaded, same⟩ := h
  rw [same]
  exact ⟨rfl, rfl⟩

/-- A session may be dropped and opened again after any calls whose saves all succeeded, if saves
are automatic or if the last call was a conversation that came to a regular end: nobody can tell
the difference afterwards. -/
theorem visit_start_visit [Text.HasCollation] (d : Disk) (file : Path) (options : Options)
    (calls : List Call)
    (plain : ∀ bytes, d.read file = .ok bytes → (13 : UInt8) ∉ bytes.data.toList)
    (lasting : d.isPresent file = false → (Store.load d file).2.isPresent file = false)
    (oneLine : ∀ text, .line text ∈ calls → '\n' ∉ text.toList) :
    let opened := start d file options
    let visited := opened.1.visit opened.2.2 calls
    let reopened := start visited.disk file options
    (∀ reply ∈ visited.replies, ∀ result ∈ reply.saves, result = .ok ()) →
      (options.autosave = true ∨
        ∃ r, visited.replies.getLast? = some (.run r) ∧ r.result = .ok ()) →
      reopened.1.tasks = visited.session.tasks ∧
        ∀ later, reopened.1.visit reopened.2.2 later =
          visited.session.visit visited.disk later := by
  intro opened visited reopened saved settled
  obtain ⟨faithful, closed⟩ := (Faithful.start plain lasting).visit oneLine saved
  have nothing : visited.session.unsaved = false := by
    rcases settled with auto | ⟨r, last, ok⟩
    · exact faithful.prompt auto
    · exact closed r last ok
  have same := (faithful.reopens nothing).visit_eq
  rw [faithful.file_eq, faithful.options_eq] at same
  exact ⟨congrArg Session.tasks (same []).1, fun later => (same later).2⟩

/-- A new file, a line with a comma in it and a conversation. -/
theorem visit_start_visit_new_file :
    let d : Disk := ⟨["home"], [(["home"], .folder)], []⟩
    let options : Options := ⟨"> ", true, true⟩
    let calls := [.line "todo eat, sleep", .run .unlimited "mark 1\nlist".toUTF8]
    let opened := start d ⟨["tasks.txt"]⟩ options
    let visited := opened.1.visit opened.2.2 calls
    let reopened := start visited.disk ⟨["tasks.txt"]⟩ options
    reopened.1.tasks = visited.session.tasks ∧
      ∀ later, reopened.1.visit reopened.2.2 later = visited.session.visit visited.disk later := by
  intro d options calls
  have missing : d.read ⟨["tasks.txt"]⟩ = .error .notFound := rfl
  refine visit_start_visit d ⟨["tasks.txt"]⟩ options calls
    (fun bytes read => absurd (missing.symm.trans read) (by simp)) (fun _ => rfl) ?_ ?_ (.inl rfl)
  · intro text mem
    obtain rfl : text = "todo eat, sleep" := by simpa [calls] using mem
    decide
  · decide +kernel

/-- A path that steps back out of a folder that is missing: once the folder has been made, the file
beside it comes to light. -/
theorem not_visit_start_visit_of_stepping_back :
    ¬ ∀ (d : Disk) (file : Path) (options : Options) (calls : List Call),
      (∀ bytes, d.read file = .ok bytes → (13 : UInt8) ∉ bytes.data.toList) →
      (∀ text, .line text ∈ calls → '\n' ∉ text.toList) →
      let opened := start d file options
      let visited := opened.1.visit opened.2.2 calls
      let reopened := start visited.disk file options
      (∀ reply ∈ visited.replies, ∀ result ∈ reply.saves, result = .ok ()) →
        (options.autosave = true ∨
          ∃ r, visited.replies.getLast? = some (.run r) ∧ r.result = .ok ()) →
        reopened.1.tasks = visited.session.tasks := by
  intro reopensSame
  let d : Disk :=
    ⟨["home"], [(["home"], .folder), (["home", "b.txt"], .file "Todo,x,false\n".toUTF8)], []⟩
  have missing : d.read ⟨["a", "..", "b.txt"]⟩ = .error .notFound := rfl
  have same := reopensSame d ⟨["a", "..", "b.txt"]⟩ ⟨"> ", true, true⟩ []
    (fun bytes read => absurd (missing.symm.trans read) (by simp)) (by simp) (by decide) (.inl rfl)
  have different : [Task.todo "x"] = [] := same
  exact absurd different (by simp)

end Session

end Taskbook
