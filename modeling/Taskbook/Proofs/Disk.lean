import Taskbook.Disk
import Mathlib.Data.List.Basic

/-! What changes on a disk, and what does not. Every operation keeps the folders there are, so a
path that led somewhere still leads there; what a successful operation does besides is said once for
each of them. -/

set_option autoImplicit false

namespace Taskbook.Disk

/-- The folders of one disk are folders of another one, and the working folder is the same. -/
structure FoldersKept (d d' : Disk) : Prop where
  here_eq : d'.here = d.here
  folder : ∀ {l : Location}, d.find l = some .folder → d'.find l = some .folder

namespace FoldersKept

theorem trans {d₁ d₂ d₃ : Disk} (h₁ : FoldersKept d₁ d₂) (h₂ : FoldersKept d₂ d₃) :
    FoldersKept d₁ d₃ :=
  ⟨h₂.here_eq.trans h₁.here_eq, fun h => h₂.folder (h₁.folder h)⟩

theorem of_unchanged {d d' : Disk} (here : d'.here = d.here)
    (unchanged : ∀ {l : Location}, d.find l = some .folder → d'.find l = d.find l) :
    FoldersKept d d' :=
  ⟨here, fun h => (unchanged h).trans h⟩

theorem walk {d d' : Disk} (kept : FoldersKept d d') {names : List String} {l m : Location}
    (h : d.walk l names = .ok m) : d'.walk l names = .ok m := by
  induction names generalizing l with
  | nil => exact h
  | cons name rest ih =>
    simp only [Disk.walk] at h ⊢
    split at h
    · next found =>
      rw [kept.folder found]
      exact ih h
    · exact absurd h (by simp)
    · exact absurd h (by simp)

theorem locate {d d' : Disk} (kept : FoldersKept d d') {p : Path} {l : Location}
    (h : d.locate p = .ok l) : d'.locate p = .ok l := by
  unfold Disk.locate at h ⊢
  have origin : d'.origin p = d.origin p := by rw [origin, origin, kept.here_eq]
  split at h
  · exact absurd h (by simp)
  · next m walked =>
    rw [origin, kept.walk walked]
    split at h
    · exact absurd h (by simp)
    · next asks =>
      obtain rfl := Except.ok.inj h
      refine if_neg fun asks' => asks ?_
      simp only [Bool.and_eq_true, bne_iff_ne, ne_eq] at asks' ⊢
      exact ⟨asks'.1, fun found => asks'.2 (kept.folder found)⟩

end FoldersKept

theorem ne_nil_of_find_ne_folder {d : Disk} {l : Location} (h : d.find l ≠ some .folder) :
    l ≠ [] := by
  rintro rfl
  exact h rfl

private theorem find_erase_self (d : Disk) {l : Location} (h : l ≠ []) :
    (d.erase l).find l = none := by
  simp [find, erase, h]

section Folders

theorem find_makeFolders (d : Disk) (l : Location) (names : List String) (m : Location) :
    (d.makeFolders l names).2.find m = d.find m ∨
      d.find m = none ∧ (d.makeFolders l names).2.find m = some .folder := by
  induction names generalizing d l with
  | nil => exact .inl rfl
  | cons name rest ih =>
    simp only [makeFolders]
    split
    · exact ih d _
    · exact .inl rfl
    · next vacant =>
      have place : follow l name ≠ [] := ne_nil_of_find_ne_folder (d := d) (by simp [vacant])
      by_cases hm : m = follow l name
      · subst hm
        refine .inr ⟨vacant, ?_⟩
        have made := find_insert_self d .folder place
        rcases ih (d.insert (follow l name) .folder) (follow l name) with same | ⟨none', _⟩
        · exact same.trans made
        · exact absurd (none'.symm.trans made) (by simp)
      · rw [← find_insert_of_ne d .folder hm]
        exact ih _ _

theorem here_makeFolders (d : Disk) (l : Location) (names : List String) :
    (d.makeFolders l names).2.here = d.here := by
  induction names generalizing d l with
  | nil => rfl
  | cons name rest ih =>
    simp only [makeFolders]
    split
    · exact ih _ _
    · rfl
    · exact ih _ _

theorem foldersKept_makeFolders (d : Disk) (l : Location) (names : List String) :
    FoldersKept d (d.makeFolders l names).2 :=
  .of_unchanged (here_makeFolders d l names) fun found =>
    (find_makeFolders d l names _).resolve_right fun h => by simp [h.1] at found

theorem makeFolders_makeFolders (d : Disk) (l : Location) (names : List String) :
    (d.makeFolders l names).2.makeFolders l names = d.makeFolders l names := by
  induction names generalizing d l with
  | nil => rfl
  | cons name rest ih =>
    cases found : d.find (follow l name) with
    | none =>
      have place : follow l name ≠ [] := ne_nil_of_find_ne_folder (d := d) (by simp [found])
      have made := (foldersKept_makeFolders _ (follow l name) rest).folder
        (find_insert_self d .folder place)
      simp only [makeFolders, found, made]
      exact ih _ _
    | some entry =>
      cases entry with
      | folder =>
        have still := (foldersKept_makeFolders d (follow l name) rest).folder found
        simp only [makeFolders, found, still]
        exact ih _ _
      | file content => simp [makeFolders, found]
      | full => simp [makeFolders, found]

end Folders

section Files

variable {d d' : Disk}

private theorem of_write_ok_of_ne_full {p : Path} {content : ByteArray} {l : Location}
    (located : d.locate p = .ok l) (noDevice : d.find l ≠ some .full)
    (h : d.write p content = (.ok (), d')) :
    d.find l ≠ some .folder ∧ d' = { d.insert l (.file content) with faults := d.faults.tail } := by
  unfold write at h
  rw [located] at h
  dsimp only at h
  split at h
  · exact absurd h (by simp)
  · next found => exact absurd found noDevice
  all_goals
    next found =>
      split at h
      · exact absurd h (by simp)
      · exact ⟨by simp [found], (Prod.mk.inj h).2.symm⟩

private theorem of_write_ok_of_full {p : Path} {content : ByteArray} {l : Location}
    (located : d.locate p = .ok l) (device : d.find l = some .full)
    (h : d.write p content = (.ok (), d')) : content.isEmpty = true ∧ d' = d := by
  unfold write at h
  rw [located] at h
  dsimp only at h
  rw [device] at h
  dsimp only at h
  split at h
  · next empty => exact ⟨empty, (Prod.mk.inj h).2.symm⟩
  · exact absurd h (by simp)

/-- A write that succeeds changes one place, where no folder stands. Its content is there then; a
device takes the place of an empty content. -/
theorem of_write_ok {p : Path} {content : ByteArray} (h : d.write p content = (.ok (), d')) :
    ∃ l, d.locate p = .ok l ∧ d.find l ≠ some .folder ∧ d'.here = d.here ∧
      (∀ m, m ≠ l → d'.find m = d.find m) ∧
      (d'.find l = some (.file content) ∨ content.isEmpty ∧ d.find l = some .full ∧ d' = d) := by
  cases located : d.locate p with
  | error e => simp [write, located] at h
  | ok l =>
    refine ⟨l, rfl, ?_⟩
    by_cases device : d.find l = some .full
    · obtain ⟨empty, rfl⟩ := of_write_ok_of_full located device h
      exact ⟨by simp [device], rfl, fun _ _ => rfl, .inr ⟨empty, device, rfl⟩⟩
    · obtain ⟨vacant, rfl⟩ := of_write_ok_of_ne_full located device h
      have there := find_insert_self d (.file content) (ne_nil_of_find_ne_folder vacant)
      exact ⟨vacant, rfl, fun m hm => find_insert_of_ne d _ hm, .inl there⟩

theorem of_rename_ok {source target : Path} (h : d.rename source target = (.ok (), d')) :
    ∃ l m e, d.locate source = .ok l ∧ d.locate target = .ok m ∧ d.find l = some e ∧
      e ≠ .folder ∧ d.find m ≠ some .folder ∧ d'.here = d.here ∧ d'.find m = some e ∧
      (l ≠ m → d'.find l = none) ∧ ∀ x, x ≠ l → x ≠ m → d'.find x = d.find x := by
  unfold rename at h
  split at h
  · exact absurd h (by simp)
  · exact absurd h (by simp)
  · next l m atSource atTarget =>
    cases found : d.find l with
    | none => simp [found] at h
    | some e =>
      have noFolder : e ≠ .folder := by
        rintro rfl
        simp [found] at h
      have noFolder' : d.find m ≠ some .folder := by
        intro there
        cases e <;> simp [found, there] at h
      have moved : (if l = m then d else (d.erase l).insert m e) = d' := by
        cases e with
        | folder => exact absurd rfl noFolder
        | file _ => by_cases same : l = m <;> split at h <;> simp_all
        | full => by_cases same : l = m <;> split at h <;> simp_all
      refine ⟨l, m, e, atSource, atTarget, found, noFolder, noFolder', ?_⟩
      have source : l ≠ [] := ne_nil_of_find_ne_folder (d := d) (by simp [found, noFolder])
      have target : m ≠ [] := ne_nil_of_find_ne_folder noFolder'
      split at moved
      · next same =>
        obtain rfl := moved
        exact ⟨rfl, same ▸ found, fun other => absurd same other, fun _ _ _ => rfl⟩
      · next other =>
        obtain rfl := moved
        refine ⟨rfl, find_insert_self _ e target, fun _ => ?_, fun x hl hm => ?_⟩
        · rw [find_insert_of_ne _ _ other, find_erase_self _ source]
        · rw [find_insert_of_ne _ _ hm, find_erase_of_ne _ hl]

theorem eq_of_rename_error {source target : Path} {cause : DiskError}
    (h : d.rename source target = (.error cause, d')) : d' = d := by
  unfold rename at h
  split at h
  · exact (Prod.mk.inj h).2.symm
  · exact (Prod.mk.inj h).2.symm
  · split at h
    · exact (Prod.mk.inj h).2.symm
    · exact (Prod.mk.inj h).2.symm
    · exact (Prod.mk.inj h).2.symm
    · split at h <;> exact absurd (Prod.mk.inj h).1 (by simp)

end Files

section Scripts

variable {d d' : Disk}

theorem performAll_cons_eq_none {action : Action} {rest : List Action} :
    d.performAll (action :: rest) = (none, d') ↔
      ∃ d₁, d.perform action = (.ok (), d₁) ∧ d₁.performAll rest = (none, d') := by
  rw [performAll_cons]
  cases performed : d.perform action with
  | mk result d₁ => cases result <;> simp

theorem performAll_append_eq_none {front rest : List Action} :
    d.performAll (front ++ rest) = (none, d') ↔
      ∃ d₁, d.performAll front = (none, d₁) ∧ d₁.performAll rest = (none, d') := by
  induction front generalizing d with
  | nil => simp [performAll_nil]
  | cons action front ih =>
    simp only [List.cons_append, performAll_cons_eq_none, ih]
    constructor
    · rintro ⟨d₁, first, d₂, middle, last⟩
      exact ⟨d₂, ⟨d₁, first, middle⟩, last⟩
    · rintro ⟨d₂, ⟨d₁, first, middle⟩, last⟩
      exact ⟨d₁, first, d₂, middle, last⟩

end Scripts

section Devices

variable {d : Disk}

def HasDevice (d : Disk) : Prop := ∃ l, d.find l = some .full

private theorem HasDevice.of_insert {l : Location} {e : Entry} (h : (d.insert l e).HasDevice)
    (place : l ≠ []) (other : e ≠ .full) : d.HasDevice := by
  obtain ⟨m, found⟩ := h
  by_cases hm : m = l
  · rw [hm, find_insert_self d e place] at found
    exact absurd (Option.some.inj found) other
  · exact ⟨m, by rwa [find_insert_of_ne d e hm] at found⟩

private theorem HasDevice.of_write {p : Path} {content : ByteArray}
    (h : (d.write p content).2.HasDevice) : d.HasDevice := by
  unfold write at h
  split at h
  · exact h
  · next l _ =>
    split at h
    · exact h
    · split at h <;> exact h
    all_goals
      next found =>
        have place : l ≠ [] := ne_nil_of_find_ne_folder (d := d) (by simp [found])
        split at h
        · exact HasDevice.of_insert (e := .file ByteArray.empty) h place (by simp)
        · exact HasDevice.of_insert (e := .file content) h place (by simp)

private theorem HasDevice.of_rename {source target : Path}
    (h : (d.rename source target).2.HasDevice) : d.HasDevice := by
  cases renamed : d.rename source target with
  | mk result d' =>
    rw [renamed] at h
    cases result with
    | error e => exact eq_of_rename_error renamed ▸ h
    | ok =>
      obtain ⟨l, m, e, _, _, found, _, _, _, moved, gone, same⟩ := of_rename_ok renamed
      obtain ⟨x, device⟩ := h
      by_cases hm : x = m
      · subst hm
        exact ⟨l, found.trans (moved.symm.trans device)⟩
      · have hl : x ≠ l := by
          rintro rfl
          exact absurd ((gone hm).symm.trans device) (by simp)
        exact ⟨x, (same x hl hm).symm.trans device⟩

/-- No action brings a device onto a disk. -/
private theorem HasDevice.of_perform {action : Action} (h : (d.perform action).2.HasDevice) :
    d.HasDevice := by
  cases action with
  | makeFolders p =>
    obtain ⟨l, found⟩ := h
    rcases find_makeFolders d (d.origin p) p.steps l with same | ⟨_, made⟩
    · exact ⟨l, same.symm.trans found⟩
    · exact absurd (made.symm.trans found) (by simp)
  | write p content => exact .of_write h
  | rename source target => exact .of_rename h

theorem HasDevice.of_performAll {actions : List Action} (h : (d.performAll actions).2.HasDevice) :
    d.HasDevice := by
  induction actions generalizing d with
  | nil => exact h
  | cons action rest ih =>
    have performed : (d.perform action).2.HasDevice := by
      rw [performAll_cons] at h
      split at h
      · next same =>
        rw [same]
        exact ih h
      · next same =>
        rw [same]
        exact h
    exact .of_perform performed

end Devices

section Lookup

variable {d : Disk} {p : Path}

theorem lookup_eq_some_iff {e : Entry} :
    d.lookup p = some e ↔ ∃ l, d.locate p = .ok l ∧ d.find l = some e := by
  unfold lookup
  split
  · next l located => simp [located]
  · next located => simp [located]

theorem isPresent_of_lookup {e : Entry} (h : d.lookup p = some e) : d.isPresent p = true := by
  simp [isPresent, h]

theorem read_of_lookup_file {content : ByteArray} (h : d.lookup p = some (.file content)) :
    d.read p = .ok content := by
  obtain ⟨l, located, found⟩ := lookup_eq_some_iff.mp h
  simp [read, located, found]

theorem read_of_lookup_full (h : d.lookup p = some .full) : d.read p = .error .outOfMemory := by
  obtain ⟨l, located, found⟩ := lookup_eq_some_iff.mp h
  simp [read, located, found]

end Lookup

end Taskbook.Disk
