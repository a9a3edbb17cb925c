import Taskbook.Proofs.Disk.Place
import Taskbook.Proofs.Store.RoundTrip

/-! What a save does to a disk, step by step. One that fails leaves what the data file's path leads
to; besides folders on the way only the draft can be different. One that succeeds leaves the content
in the data file and no draft. -/

set_option autoImplicit false

namespace Taskbook.Store

open Taskbook.Disk

variable {d d' : Disk} {file : Path} {tasks : TaskList} {result : Except SaveError Unit}
  {cause : SaveError}

def FolderMade (d d' : Disk) (file : Path) (l : Location) : Prop :=
  d.find l = none ∧ d'.find l = some .folder ∧
    ∃ folder ∈ file.parent?, l ∈ way (d.origin folder) folder.steps

def foldersMade (d : Disk) (file : Path) : Disk :=
  (d.performAll (file.parent?.map Action.makeFolders).toList).2

private theorem performAll_append (d : Disk) (front rest : List Action) :
    d.performAll (front ++ rest) =
      match d.performAll front with
      | (none, d₁) => d₁.performAll rest
      | (some failure, d₁) => (some failure, d₁) := by
  induction front generalizing d with
  | nil => rfl
  | cons action front ih =>
    rw [List.cons_append, performAll_cons, performAll_cons]
    cases d.perform action with
    | mk made d₁ =>
      cases made with
      | ok => exact ih d₁
      | error e => rfl

section FoldersMade

theorem foldersMade_eq (d : Disk) (file : Path) :
    foldersMade d file = match file.parent? with
      | none => d
      | some folder => (d.makeFolders (d.origin folder) folder.steps).2 := by
  rw [foldersMade]
  cases file.parent? with
  | none => rfl
  | some folder =>
    simp only [Option.map_some, Option.toList_some, performAll_cons, performAll_nil, perform]
    cases d.makeFolders (d.origin folder) folder.steps with
    | mk made d₁ => cases made <;> rfl

theorem foldersKept_foldersMade (d : Disk) (file : Path) : FoldersKept d (foldersMade d file) := by
  rw [foldersMade_eq]
  cases file.parent? with
  | none => exact ⟨rfl, id⟩
  | some folder => exact foldersKept_makeFolders d _ _

private theorem faults_foldersMade (d : Disk) (file : Path) :
    (foldersMade d file).faults = d.faults := by
  rw [foldersMade_eq]
  cases file.parent? with
  | none => rfl
  | some folder => exact faults_makeFolders d _ _

theorem find_foldersMade (d : Disk) (file : Path) (l : Location) :
    (foldersMade d file).find l = d.find l ∨ FolderMade d (foldersMade d file) file l := by
  rw [FolderMade, foldersMade_eq]
  cases file.parent? with
  | none => exact .inl rfl
  | some folder =>
    by_cases onWay : l ∈ way (d.origin folder) folder.steps
    · rcases find_makeFolders d (d.origin folder) folder.steps l with same | ⟨vacant, made⟩
      · exact .inl same
      · exact .inr ⟨vacant, made, folder, rfl, onWay⟩
    · exact .inl (find_makeFolders_of_not_mem_way onWay)

end FoldersMade

/-- The steps of a save, up to the one that fails. -/
inductive Stages (d : Disk) (file : Path) (tasks : TaskList) :
    Except SaveError Unit → Disk → Prop
  | unfoldered (cause : SaveError) : Stages d file tasks (.error cause) (foldersMade d file)
  | unwritten {d' : Disk} {reason : DiskError} (cause : SaveError)
      (write : (foldersMade d file).write (draft file) (content tasks).toUTF8 =
        (.error reason, d')) : Stages d file tasks (.error cause) d'
  | unmoved {d' : Disk} {reason : DiskError} (cause : SaveError)
      (write : (foldersMade d file).write (draft file) (content tasks).toUTF8 = (.ok (), d'))
      (rename : d'.rename (draft file) file = (.error reason, d')) :
      Stages d file tasks (.error cause) d'
  | saved {d₁ d' : Disk}
      (write : (foldersMade d file).write (draft file) (content tasks).toUTF8 = (.ok (), d₁))
      (rename : d₁.rename (draft file) file = (.ok (), d')) : Stages d file tasks (.ok ()) d'

private theorem stages_of_save (h : save d file tasks = (result, d')) :
    Stages d file tasks result d' := by
  rw [save_eq, script, performAll_append] at h
  cases made : d.performAll (file.parent?.map Action.makeFolders).toList with
  | mk failure d₀ =>
    have folders : foldersMade d file = d₀ := by rw [foldersMade, made]
    rw [made] at h
    cases failure with
    | some failure =>
      obtain ⟨rfl, rfl⟩ := Prod.mk.inj h
      rw [← folders]
      exact .unfoldered _
    | none =>
      simp only [performAll_cons, performAll_nil, perform, ← folders] at h
      cases write : (foldersMade d file).write (draft file) (content tasks).toUTF8 with
      | mk written d₁ =>
        rw [write] at h
        cases written with
        | error reason =>
          obtain ⟨rfl, rfl⟩ := Prod.mk.inj h
          exact .unwritten _ write
        | ok =>
          cases rename : d₁.rename (draft file) file with
          | mk renamed d₂ =>
            simp only [rename] at h
            cases renamed with
            | error reason =>
              obtain ⟨rfl, rfl⟩ := Prod.mk.inj h
              obtain rfl := eq_of_rename_error rename
              exact .unmoved _ write rename
            | ok =>
              obtain ⟨rfl, rfl⟩ := Prod.mk.inj h
              exact .saved write rename

section Failed

private theorem place_foldersMade (d : Disk) (file p : Path) :
    (foldersMade d file).place p = d.place p :=
  place_eq_of_here_eq (foldersKept_foldersMade d file).here_eq p

/-- Behind the folders a failed save has changed nothing, or it has left a file as the draft. -/
private theorem of_save_error (failed : save d file tasks = (.error cause, d')) :
    d' = foldersMade d file ∨
      d'.here = (foldersMade d file).here ∧
      (foldersMade d file).find (d.place (draft file)) ≠ some .folder ∧
      (∀ l, l ≠ d.place (draft file) → d'.find l = (foldersMade d file).find l) ∧
      ∃ bytes, d'.find (d.place (draft file)) = some (.file bytes) := by
  rw [← place_foldersMade d file (draft file)]
  cases stages_of_save failed with
  | unfoldered => exact .inl rfl
  | unwritten _ write =>
    rcases of_write_error write with same | ⟨_, here, noFolder, elsewhere, empty⟩
    · exact .inl same
    · exact .inr ⟨here, noFolder, elsewhere, _, empty⟩
  | unmoved _ write =>
    obtain ⟨l, located, noFolder, here, elsewhere, there⟩ := of_write_ok write
    obtain rfl := eq_place_of_locate located
    rcases there with there | ⟨_, _, same⟩
    · exact .inr ⟨here, noFolder, elsewhere, _, there⟩
    · exact .inl same

private theorem foldersKept_of_save_error (failed : save d file tasks = (.error cause, d')) :
    FoldersKept d d' := by
  have made := foldersKept_foldersMade d file
  rcases of_save_error failed with rfl | ⟨here, noFolder, elsewhere, _⟩
  · exact made
  · exact made.trans (.of_elsewhere here noFolder elsewhere)

private theorem find_of_save_error (failed : save d file tasks = (.error cause, d'))
    (l : Location) :
    d'.find l = d.find l ∨ FolderMade d d' file l ∨
      l = d.place (draft file) ∧ ∃ bytes, d'.find l = some (.file bytes) := by
  have made := find_foldersMade d file l
  rcases of_save_error failed with rfl | ⟨_, _, elsewhere, there⟩
  · exact made.imp_right .inl
  · by_cases atDraft : l = d.place (draft file)
    · subst atDraft
      exact .inr (.inr ⟨rfl, there⟩)
    · have same := elsewhere l atDraft
      rw [FolderMade, ← same] at made
      exact made.imp_right .inl

/-- Where a path leads to something after a failed save, that was there when the folders were made.
The one file that could have been lost is the data file as its own draft, and writing that breaks
off. -/
private theorem find_place_of_save_error {l : Location}
    (sound : d.place (draft file) = d.place file → d.faults.head? ≠ some true)
    (failed : save d file tasks = (.error cause, d')) (located : d'.locate file = .ok l) :
    d'.find (d.place file) = (foldersMade d file).find (d.place file) := by
  have kept := foldersKept_of_save_error failed
  rw [← faults_foldersMade d file, ← place_foldersMade d file (draft file),
    ← place_foldersMade d file file] at sound
  obtain rfl := eq_place_of_locate located
  rw [place_eq_of_here_eq kept.here_eq, ← place_foldersMade d file file] at located
  rw [← place_foldersMade d file file]
  cases stages_of_save failed with
  | unfoldered => rfl
  | unwritten _ write =>
    rcases of_write_error write with rfl | ⟨broken, _, _, elsewhere, _⟩
    · rfl
    · apply elsewhere
      intro same
      exact sound same.symm broken
  | unmoved _ write rename =>
    obtain ⟨m, atDraft, noFolder, here, elsewhere, there⟩ := of_write_ok write
    obtain rfl := eq_place_of_locate atDraft
    rcases there with there | ⟨_, _, rfl⟩
    · apply elsewhere
      intro same
      have kept' : FoldersKept (foldersMade d file) d' := .of_elsewhere here noFolder elsewhere
      have moved := rename_of_locate_eq (kept'.locate atDraft) (same ▸ located) there nofun
      rw [rename] at moved
      cases (Prod.mk.inj moved).1
    · rfl

/-- What is left of a disk when a save has failed. -/
structure Unharmed (d d' : Disk) (file : Path) : Prop where
  kept : ∀ e, d.lookup file = some e → d'.lookup file = some e
  /-- Where the path led to nothing, a folder made on its way can be its own end, or can open the
  way to what stood there before. -/
  vacant : d.lookup file = none → ∀ e, d'.lookup file = some e →
    FolderMade d d' file (d.place file) ∨
      d.find (d.place file) = some e ∧ ∃ l, FolderMade d d' file l
  elsewhere : ∀ l, d'.find l = d.find l ∨ FolderMade d d' file l ∨
    l = d.place (draft file) ∧ ∃ bytes, d'.find l = some (.file bytes)

private theorem unharmed_of_save_error
    (sound : d.place (draft file) = d.place file → d.faults.head? ≠ some true)
    (failed : save d file tasks = (.error cause, d')) : Unharmed d d' file := by
  have kept := foldersKept_of_save_error failed
  have elsewhere := find_of_save_error failed
  have made := find_foldersMade d file (d.place file)
  refine ⟨?_, ?_, elsewhere⟩
  · intro e found
    have located := kept.locate (lookup_eq_some_iff_place.mp found).1
    rw [kept.lookup found, find_place_of_save_error sound failed located]
    have there := (lookup_eq_some_iff_place.mp found).2
    rcases made with same | ⟨none, _⟩
    · exact same.trans there
    · cases none.symm.trans there
  · intro none e found
    obtain ⟨located, there⟩ := lookup_eq_some_iff_place.mp found
    have same := find_place_of_save_error sound failed located
    rw [place_eq_of_here_eq kept.here_eq] at located there
    rw [FolderMade, ← same] at made
    rcases made with same' | made
    · refine .inr ⟨same'.symm.trans there, ?_⟩
      -- Without a new folder the path would have led there before.
      by_contra noneMade
      have back : FoldersKept d' d := by
        refine ⟨kept.here_eq.symm, ?_⟩
        intro l folder
        rcases elsewhere l with same | made | ⟨_, _, file⟩
        · exact same.symm.trans folder
        · exact absurd ⟨l, made⟩ noneMade
        · cases file.symm.trans folder
      have led := lookup_eq_some_iff_place.mpr ⟨back.locate located, same'.symm.trans there⟩
      cases none.symm.trans led
    · exact .inl made

end Failed

section Saved

/-- What a save that succeeded has made of a disk. -/
structure Arrived (d d' : Disk) (file : Path) (tasks : TaskList) : Prop where
  /-- A device that stood in the draft's place takes an empty content and is moved like a file. -/
  content : d'.lookup file = some (.file (content tasks).toUTF8) ∨
    tasks = [] ∧ d.find (d.place (draft file)) = some .full ∧ d'.lookup file = some .full
  undrafted : d.place (draft file) ≠ d.place file → d'.find (d.place (draft file)) = none
  elsewhere : ∀ l, l ≠ d.place file → l ≠ d.place (draft file) →
    d'.find l = d.find l ∨ FolderMade d d' file l

theorem arrived_of_save (saved : save d file tasks = (.ok (), d')) : Arrived d d' file tasks := by
  have holds := holds_of_save saved
  cases stages_of_save saved with
  | @saved d₁ _ write rename =>
    obtain ⟨l, located, noFolder, here, same, there⟩ := of_write_ok write
    obtain ⟨l', m, e, source, target, found, _, _, here', moved, gone, same'⟩ := of_rename_ok rename
    obtain rfl := eq_place_of_locate located
    obtain rfl := eq_place_of_locate source
    obtain rfl := eq_place_of_locate target
    have places (p : Path) : d₁.place p = d.place p :=
      (place_eq_of_here_eq here p).trans (place_foldersMade d file p)
    have places' (p : Path) : d'.place p = d.place p :=
      (place_eq_of_here_eq here' p).trans (places p)
    simp only [place_foldersMade, places] at same there found moved gone same'
    refine ⟨?_, gone, ?_⟩
    · refine holds.imp_right ?_
      rintro ⟨empty, device⟩
      refine ⟨empty, ?_, device⟩
      -- The device came from the draft's place, and no folder was made there.
      have arrived := (lookup_eq_some_iff_place.mp device).2
      rw [places', moved] at arrived
      rw [arrived] at found
      rcases there with file | ⟨_, device', _⟩
      · cases file.symm.trans found
      · rcases find_foldersMade d file (d.place (draft file)) with kept | ⟨_, folder, _⟩
        · exact kept.symm.trans device'
        · cases folder.symm.trans device'
    · intro l atFile atDraft
      have unchanged : d'.find l = (foldersMade d file).find l :=
        (same' l atDraft atFile).trans (same l atDraft)
      have made := find_foldersMade d file l
      rwa [FolderMade, ← unchanged] at made

end Saved

/-- Whatever stands on a disk: a save that fails leaves what the path of the data file leads to, and
one that succeeds leaves the content there and nothing of the draft. Where the data file is its own
draft, writing it must not break off. -/
theorem unharmed_or_arrived
    (sound : d.place (draft file) = d.place file → d.faults.head? ≠ some true)
    (attempted : save d file tasks = (result, d')) :
    match result with
    | .error _ => Unharmed d d' file
    | .ok () => Arrived d d' file tasks := by
  cases result with
  | error cause => exact unharmed_of_save_error sound attempted
  | ok => exact arrived_of_save attempted

private def homeWith (entries : List (Location × Entry)) : Disk :=
  ⟨["home"], (["home"], .folder) :: entries, []⟩

/-- A folder in the place of the data file, and a data file that is its own draft. -/
theorem unharmed_or_arrived_folder_and_own_draft :
    let tasks : TaskList := [⟨"a", false, .todo⟩]
    let file : Path := ⟨["tasks.txt"]⟩
    let d := homeWith [(["home", "tasks.txt"], .folder)]
    let own : Path := ⟨["tasks.tmp"]⟩
    let e := homeWith [(["home", "tasks.tmp"], .file "Todo,b,true".toUTF8)]
    (d.faults.head? ≠ some true ∧
      save d file tasks = (.error (.unwritten file .isADirectory), (save d file tasks).2)) ∧
      Unharmed d (save d file tasks).2 file ∧
      (e.faults.head? ≠ some true ∧ save e own tasks = (.ok (), (save e own tasks).2)) ∧
      Arrived e (save e own tasks).2 own tasks := by
  intro tasks file d own e
  have whole : d.faults.head? ≠ some true := nofun
  have failed : save d file tasks =
    (.error (.unwritten file .isADirectory), (save d file tasks).2) := by decide +kernel
  have whole' : e.faults.head? ≠ some true := nofun
  have saved : save e own tasks = (.ok (), (save e own tasks).2) := by decide +kernel
  refine ⟨⟨whole, failed⟩, ?_, ⟨whole', saved⟩, ?_⟩
  · exact unharmed_or_arrived (fun _ => whole) failed
  · exact unharmed_or_arrived (fun _ => whole') saved

/-- A device in the draft's place takes an empty content and becomes the data file; and a path that
steps back through its own last name has its folder made where it leads. -/
theorem not_lookup_of_device_and_of_stepping_back :
    ¬ (∀ (d d' : Disk) (file : Path) (tasks : TaskList), d.faults = [] → file.fileName?.isSome →
        save d file tasks = (.ok (), d') →
        d'.lookup file = some (.file (content tasks).toUTF8)) ∧
      ¬ ∀ (d d' : Disk) (file : Path) (tasks : TaskList) (cause : SaveError), d.faults = [] →
        file.fileName?.isSome → save d file tasks = (.error cause, d') →
        d'.lookup file = d.lookup file := by
  constructor
  · intro arrives
    let file : Path := ⟨["tasks.txt"]⟩
    let d := homeWith [(["home", "tasks.tmp"], .full)]
    have held := arrives d (save d file []).2 file [] rfl rfl (by decide +kernel)
    revert held
    decide +kernel
  · intro unharmed
    let file : Path := ⟨["b", "..", "b"]⟩
    let d := homeWith []
    let tasks : TaskList := [⟨"x", false, .todo⟩]
    have held := unharmed d (save d file tasks).2 file tasks (.unwritten file .isADirectory) rfl rfl
      (by decide +kernel)
    revert held
    decide +kernel

end Taskbook.Store
