import Taskbook.Proofs.Disk

/-! Where paths lead. The place of a path is read off its names, so it is the same on every disk
with the same working folder. What stands there is found under the path if the folders on the way
are there; and making folders changes nothing off their way. -/

set_option autoImplicit false

namespace Taskbook.Disk

variable {d d' : Disk} {p q : Path} {l m : Location}

/-- The location that a path leads to once every folder on its way is there. -/
def place (d : Disk) (p : Path) : Location := p.steps.foldl follow (d.origin p)

def way (l : Location) : List String → List Location
  | [] => []
  | name :: rest => follow l name :: way (follow l name) rest

theorem eq_foldl_of_walk {names : List String} (h : d.walk l names = .ok m) :
    m = names.foldl follow l := by
  induction names generalizing l with
  | nil => exact (Except.ok.inj h).symm
  | cons name rest ih =>
    rw [walk] at h
    split at h
    · exact ih h
    · cases h
    · cases h

theorem eq_place_of_locate (h : d.locate p = .ok l) : l = d.place p := by
  rw [locate] at h
  split at h
  · cases h
  · next m walked =>
    split at h
    · cases h
    · obtain rfl := Except.ok.inj h
      exact eq_foldl_of_walk walked

theorem place_eq_of_here_eq (here : d'.here = d.here) (p : Path) : d'.place p = d.place p := by
  rw [place, place, origin, origin, here]

theorem lookup_eq_some_iff_place {e : Entry} :
    d.lookup p = some e ↔ d.locate p = .ok (d.place p) ∧ d.find (d.place p) = some e := by
  rw [lookup_eq_some_iff]
  constructor
  · rintro ⟨l, located, found⟩
    obtain rfl := eq_place_of_locate located
    exact ⟨located, found⟩
  · rintro ⟨located, found⟩
    exact ⟨_, located, found⟩

theorem FoldersKept.lookup (kept : FoldersKept d d') {e : Entry} (found : d.lookup p = some e) :
    d'.lookup p = d'.find (d.place p) := by
  have located := kept.locate (lookup_eq_some_iff_place.mp found).1
  rw [Disk.lookup, located]

theorem FoldersKept.of_elsewhere (here : d'.here = d.here) (noFolder : d.find l ≠ some .folder)
    (elsewhere : ∀ m, m ≠ l → d'.find m = d.find m) : FoldersKept d d' := by
  refine .of_unchanged here ?_
  intro m folder
  apply elsewhere
  rintro rfl
  exact noFolder folder

section Folders

theorem find_makeFolders_of_not_mem_way {names : List String} (h : m ∉ way l names) :
    (d.makeFolders l names).2.find m = d.find m := by
  induction names generalizing d l with
  | nil => rfl
  | cons name rest ih =>
    rw [way, List.mem_cons, not_or] at h
    rw [makeFolders]
    split
    · exact ih h.2
    · rfl
    · rw [ih h.2, find_insert_of_ne d .folder h.1]

theorem faults_makeFolders (d : Disk) (l : Location) (names : List String) :
    (d.makeFolders l names).2.faults = d.faults := by
  induction names generalizing d l with
  | nil => rfl
  | cons name rest ih =>
    rw [makeFolders]
    split
    · exact ih d _
    · rfl
    · exact ih _ _

end Folders

section Files

/-- A write that fails changes nothing, unless it breaks off: then it leaves an empty file. -/
theorem of_write_error {content : ByteArray} {cause : DiskError}
    (h : d.write p content = (.error cause, d')) :
    d' = d ∨ d.faults.head? = some true ∧ d'.here = d.here ∧ d.find (d.place p) ≠ some .folder ∧
      (∀ m, m ≠ d.place p → d'.find m = d.find m) ∧
      d'.find (d.place p) = some (.file ByteArray.empty) := by
  rw [write] at h
  split at h
  · exact .inl (Prod.mk.inj h).2.symm
  · next l located =>
    obtain rfl := eq_place_of_locate located
    split at h
    · exact .inl (Prod.mk.inj h).2.symm
    · split at h
      · cases (Prod.mk.inj h).1
      · exact .inl (Prod.mk.inj h).2.symm
    all_goals
      next found =>
        have vacant : d.find (d.place p) ≠ some .folder := by simp [found]
        split at h
        · next faults broken =>
          obtain rfl := (Prod.mk.inj h).2
          refine .inr ⟨by rw [broken]; rfl, rfl, vacant, ?_, ?_⟩
          · exact fun m other => find_insert_of_ne d _ other
          · exact find_insert_self d _ (ne_nil_of_find_ne_folder vacant)
        · cases (Prod.mk.inj h).1

theorem rename_of_locate_eq {source target : Path} {e : Entry} (atSource : d.locate source = .ok l)
    (atTarget : d.locate target = .ok l) (found : d.find l = some e) (noFolder : e ≠ .folder) :
    d.rename source target = (.ok (), d) := by
  rw [rename, atSource, atTarget]
  cases e with
  | folder => exact absurd rfl noFolder
  | file content => simp [found]
  | full => simp [found]

end Files

end Taskbook.Disk
