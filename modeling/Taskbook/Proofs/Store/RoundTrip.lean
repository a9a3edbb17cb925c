import Taskbook.Proofs.Disk
import Taskbook.Proofs.Store.Content

/-! A list saved on a disk and loaded from it. A save that succeeds leaves the content of the list
under the path of the data file, whatever the disk was like, and what is loaded then is what the
content says. -/

set_option autoImplicit false

namespace Taskbook.Store

open Taskbook.Disk

variable {d d' : Disk} {file : Path} {tasks : TaskList}

/-- What a save leaves under a path: the content of the list. A device that took the place of the
draft took an empty content without keeping it, and stands there itself. -/
def Holds (d : Disk) (file : Path) (tasks : TaskList) : Prop :=
  d.lookup file = some (.file (content tasks).toUTF8) ∨ tasks = [] ∧ d.lookup file = some .full

private theorem eq_nil_of_content_isEmpty (h : (content tasks).toUTF8.isEmpty) : tasks = [] := by
  have empty : content tasks = "" := String.utf8ByteSize_eq_zero_iff.mp (beq_iff_eq.mp h)
  have chars := content_toList tasks
  rw [empty] at chars
  cases tasks with
  | nil => rfl
  | cons t tasks => simp at chars

theorem holds_of_save (h : save d file tasks = (.ok (), d')) : Holds d' file tasks := by
  have performed : d.performAll (script file tasks) = (none, d') := by
    rw [save_eq] at h
    split at h
    · next performed => rw [performed, (Prod.mk.inj h).2]
    · exact absurd h (by simp)
  obtain ⟨d₁, _, performed⟩ := performAll_append_eq_none.mp performed
  obtain ⟨d₂, written, performed⟩ := performAll_cons_eq_none.mp performed
  obtain ⟨d₃, renamed, performed⟩ := performAll_cons_eq_none.mp performed
  obtain rfl : d₃ = d' := by simpa [performAll_nil] using performed
  obtain ⟨l, located, noFolder, here, same, there⟩ := of_write_ok written
  obtain ⟨l', m, e, source, target, found, sourceFile, targetFile, here', moved, _, same'⟩ :=
    of_rename_ok renamed
  -- The draft is still where it was written, and the data file is where the draft was taken to.
  have kept : FoldersKept d₁ d₂ :=
    .of_unchanged here fun folder => same _ fun at_l => noFolder (at_l ▸ folder)
  have kept' : FoldersKept d₂ d₃ :=
    .of_unchanged here' fun folder => same' _
      (fun at_l => sourceFile (Option.some.inj (found.symm.trans (at_l ▸ folder))))
      (fun at_m => targetFile (at_m ▸ folder))
  obtain rfl : l = l' := Except.ok.inj ((kept.locate located).symm.trans source)
  have arrived : d₃.lookup file = d₂.find l :=
    found ▸ lookup_eq_some_iff.mpr ⟨m, kept'.locate target, moved⟩
  rcases there with there | ⟨empty, device, rfl⟩
  · exact .inl (arrived.trans there)
  · exact .inr ⟨eq_nil_of_content_isEmpty empty, arrived.trans device⟩

theorem hasDevice_of_save (h : (save d file tasks).2.HasDevice) : d.HasDevice := by
  have performed : (d.performAll (script file tasks)).2.HasDevice := by
    rw [save_eq] at h
    split at h
    · next same => rwa [same]
    · next same => rwa [same]
  exact .of_performAll performed

theorem load_of_lookup_file {text : String} (h : d.lookup file = some (.file text.toUTF8)) :
    load d file =
      ((match parse? text with
        | none => .error .corrupted
        | some tasks => .ok (some tasks)), d) := by
  have readable : readText d file = .ok text := by
    rw [readText, read_of_lookup_file h]
    simp only [Text.fromUTF8?_toUTF8]
  rw [load_eq, if_pos (isPresent_of_lookup h), readable]
  dsimp only
  cases parse? text <;> rfl

theorem load_of_lookup_full (h : d.lookup file = some .full) :
    load d file = (.error (.unreadable file (.disk .outOfMemory)), d) := by
  simp [load_eq, isPresent_of_lookup h, readText, read_of_lookup_full h]

theorem load_of_present (h : d.isPresent file = true) : (load d file).2 = d := by
  rw [load_eq]
  rw [if_pos h]
  split
  · rfl
  · split <;> rfl

theorem load_of_absent (h : d.isPresent file = false) :
    load d file =
      match file.parent? with
      | none => (.ok none, d)
      | some folder =>
        (((d.makeFolders (d.origin folder) folder.steps).1.mapError LoadError.folder).map
            fun _ => none,
          (d.makeFolders (d.origin folder) folder.steps).2) := by
  rw [load_eq]
  rw [h, if_neg Bool.false_ne_true]
  cases file.parent? with
  | none => rfl
  | some folder =>
    simp only [Option.map_some, Option.toList_some, performAll_cons, performAll_nil, perform]
    cases made : d.makeFolders (d.origin folder) folder.steps with
    | mk result d' => cases result <;> rfl

/-- Loading twice is loading once, if no file comes to light where there was none. -/
theorem load_load (lasting : d.isPresent file = false → (load d file).2.isPresent file = false) :
    load (load d file).2 file = load d file := by
  by_cases present : d.isPresent file = true
  · rw [load_of_present present]
  · have absent := Bool.eq_false_iff.mpr present
    rw [load_of_absent (lasting absent), load_of_absent absent]
    cases file.parent? with
    | none => rfl
    | some folder =>
      have origin : (d.makeFolders (d.origin folder) folder.steps).2.origin folder =
          d.origin folder := by simp only [Disk.origin, here_makeFolders]
      simp only [origin, makeFolders_makeFolders]

theorem readText_eq_ok_iff {text : String} :
    readText d file = .ok text ↔
      ∃ bytes, d.read file = .ok bytes ∧ String.fromUTF8? bytes = some text := by
  unfold readText
  cases d.read file with
  | error cause => simp
  | ok bytes => cases decoded : String.fromUTF8? bytes <;> simp [decoded]

theorem readText_of_load (h : (load d file).1 = .ok (some tasks)) :
    ∃ text, readText d file = .ok text ∧ parse? text = some tasks := by
  rw [load_eq] at h
  split at h
  · split at h
    · exact absurd h (by simp)
    · next text readable =>
      split at h
      · exact absurd h (by simp)
      · next parsed => exact ⟨text, readable, by simpa [parsed] using h⟩
  · split at h <;> exact absurd h (by simp)

theorem storable_of_load (h : (load d file).1 = .ok (some tasks))
    (plain : ∀ bytes, d.read file = .ok bytes → (13 : UInt8) ∉ bytes.data.toList) :
    ∀ t ∈ tasks, t.Storable := by
  obtain ⟨text, readable, parsed⟩ := readText_of_load h
  obtain ⟨bytes, read, decoded⟩ := readText_eq_ok_iff.mp readable
  intro t mem
  have inText := of_mem_parse? parsed t mem
  refine .of_texts (fun field hf => (inText field hf).1) fun field hf last => ?_
  have carriage := (inText field hf).2 '\r' (List.mem_of_getLast? last)
  have inBytes := Text.byte_mem_of_mem (by decide) carriage
  rw [Text.toUTF8_of_fromUTF8? decoded] at inBytes
  exact plain bytes read inBytes

end Taskbook.Store
