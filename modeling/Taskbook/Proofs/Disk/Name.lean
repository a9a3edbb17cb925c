import Taskbook.Proofs.Disk.Place

/-! The last name of a path, and what becomes of it when the path gets another extension. The new
name stands in the same folder. Only a name of two dots and an extension is lost. -/

set_option autoImplicit false

namespace Taskbook.Path

variable {p : Path} {name : String}

/-- A name with an extension in place of the one it has. -/
def renamed (name extension : String) : String :=
  String.ofList (splitName name.toList).1 ++ "." ++ extension

/-- A path taken apart at its last name. -/
structure EndsIn (p : Path) (front : List String) (name : String) : Prop where
  pieces : ∃ idles, p.pieces = front ++ name :: idles ∧ ∀ piece ∈ idles, isIdle piece = true
  solid : isIdle name = false

private theorem EndsIn.steps {front : List String} (h : EndsIn p front name) :
    p.steps = front.filter (fun piece => !isIdle piece) ++ [name] := by
  obtain ⟨idles, pieces, idle⟩ := h.pieces
  have none : idles.filter (fun piece => !isIdle piece) = [] := by
    rw [List.filter_eq_nil_iff]
    intro piece hp
    simp [idle piece hp]
  rw [Path.steps, pieces, List.filter_append, List.filter_cons, h.solid, none]
  rfl

private theorem EndsIn.core {front : List String} (h : EndsIn p front name) :
    p.core = front ++ [name] := by
  obtain ⟨idles, pieces, idle⟩ := h.pieces
  have idle' : ∀ piece ∈ idles.reverse, isIdle piece = true := by
    intro piece hp
    exact idle piece (List.mem_reverse.mp hp)
  rw [Path.core, pieces, List.reverse_append, List.reverse_cons, List.append_assoc,
    List.dropWhile_append_of_pos idle', List.singleton_append,
    List.dropWhile_cons_of_neg (by simp [h.solid])]
  simp

private theorem isAbsolute_iff {pieces : List String} :
    isAbsolute ⟨pieces⟩ = true ↔ ∃ next rest, pieces = "" :: next :: rest := by
  simp only [isAbsolute]
  split
  · next next rest => simp
  · next other =>
    refine iff_of_false Bool.false_ne_true ?_
    rintro ⟨next, rest, rfl⟩
    exact other next rest rfl

example : withExtension ⟨["data", "a.b.txt"]⟩ "tmp" = ⟨["data", "a.b.tmp"]⟩ ∧
    withExtension ⟨["data", "..x"]⟩ "tmp" = ⟨["data", ".."]⟩ := by
  decide +kernel

section Joined

private theorem isAbsolute_singleton (name : String) : isAbsolute ⟨[name]⟩ = false := by
  rw [Bool.eq_false_iff, ne_eq, isAbsolute_iff]
  rintro ⟨next, rest, same⟩
  exact absurd same (by simp)

private theorem exists_join_eq (p : Path) (name : String) :
    ∃ front, p.join ⟨[name]⟩ = ⟨front ++ [name]⟩ ∧
      (p.pieces = front ∧ front.getLast? ≠ some "" ∨ p.pieces = front ++ [""]) := by
  rw [join, isAbsolute_singleton, if_neg Bool.false_ne_true]
  split
  · next last =>
    exact ⟨p.pieces.dropLast, rfl, .inr (List.dropLast_append_getLast? "" last).symm⟩
  · next last => exact ⟨p.pieces, rfl, .inl ⟨rfl, last⟩⟩

theorem addExtension_join (p : Path) (name extension : String) :
    (p.join ⟨[name]⟩).addExtension extension = p.join ⟨[name ++ "." ++ extension]⟩ := by
  rw [join, join, isAbsolute_singleton, isAbsolute_singleton, if_neg Bool.false_ne_true]
  split <;> simp [addExtension]

private theorem steps_join (p : Path) (solid : isIdle name = false) :
    (p.join ⟨[name]⟩).steps = p.steps ++ [name] := by
  obtain ⟨front, same, pieces⟩ := exists_join_eq p name
  have idle : isIdle "" = true := rfl
  rw [same]
  rcases pieces with ⟨pieces, _⟩ | pieces
  · simp [steps, pieces, solid]
  · simp [steps, pieces, solid, idle]

private theorem isAbsolute_join (p : Path) (filled : name ≠ "") :
    (p.join ⟨[name]⟩).isAbsolute = p.isAbsolute := by
  obtain ⟨front, same, pieces⟩ := exists_join_eq p name
  have whole : p = ⟨p.pieces⟩ := rfl
  rw [same, whole, Bool.eq_iff_iff, isAbsolute_iff, isAbsolute_iff]
  rcases pieces with ⟨pieces, last⟩ | pieces
  · rw [pieces]
    rcases front with _ | ⟨first, _ | ⟨second, front⟩⟩
    · simp [filled]
    · have other : first ≠ "" := fun empty => last (congrArg some empty)
      simp [other]
    · simp
  · rw [pieces]
    rcases front with _ | ⟨first, front⟩
    · simp [filled]
    · cases front <;> simp

end Joined

end Taskbook.Path

namespace Taskbook.Disk

open Taskbook.Path

variable {d : Disk} {p : Path} {name : String}

section Joined

variable {l m : Location} {names : List String}

/-- The folder that a path leads to is there, and so are those on the way. -/
structure Opens (d : Disk) (p : Path) : Prop where
  walks : d.walk (d.origin p) p.steps = .ok (d.place p)
  folder : d.find (d.place p) = some .folder

private theorem walk_concat : d.walk l (names ++ [name]) = .ok m ↔
    ∃ k, d.walk l names = .ok k ∧ d.find k = some .folder ∧ m = follow k name := by
  induction names generalizing l with
  | nil =>
    simp only [List.nil_append, walk]
    cases found : d.find l with
    | none => simp [found]
    | some e => cases e <;> simp [found, eq_comm]
  | cons first names ih =>
    simp only [List.cons_append, walk]
    cases d.find l with
    | none => simp
    | some e =>
      cases e with
      | folder => exact ih
      | file | full => simp

/-- A name behind a path leads to an entry of the folder that the path leads to. -/
theorem locate_join_iff (solid : isIdle name = false) (stays : name ≠ "..") :
    d.locate (p.join ⟨[name]⟩) = .ok m ↔ d.Opens p ∧ m = d.place p ++ [name] := by
  have filled : name ≠ "" := by
    rintro rfl
    exact absurd solid (by decide)
  have origin : d.origin (p.join ⟨[name]⟩) = d.origin p := by
    rw [Disk.origin, Disk.origin, isAbsolute_join p filled]
  have plain : (p.join ⟨[name]⟩).asksForFolder = false := by
    obtain ⟨front, same, _⟩ := exists_join_eq p name
    rw [same, asksForFolder, List.getLast?_concat]
    exact solid
  have leads : d.locate (p.join ⟨[name]⟩) = .ok m ↔
      d.walk (d.origin p) (p.steps ++ [name]) = .ok m := by
    rw [locate, origin, steps_join p solid, plain]
    cases d.walk (d.origin p) (p.steps ++ [name]) <;> simp
  rw [leads, walk_concat]
  constructor
  · rintro ⟨k, walked, folder, rfl⟩
    obtain rfl := eq_foldl_of_walk walked
    exact ⟨⟨walked, folder⟩, if_neg stays⟩
  · rintro ⟨opens, rfl⟩
    exact ⟨d.place p, opens.walks, opens.folder, (if_neg stays).symm⟩

theorem Opens.lookup_join (opens : d.Opens p) (solid : isIdle name = false) (stays : name ≠ "..") :
    d.lookup (p.join ⟨[name]⟩) = d.find (d.place p ++ [name]) := by
  rw [lookup, (locate_join_iff solid stays).mpr ⟨opens, rfl⟩]

theorem Opens.isFile (opens : d.Opens p) : d.isFile p = false := by
  have located : d.locate p = .ok (d.place p) := by
    rw [locate, opens.walks]
    simp [opens.folder]
  rw [Disk.isFile, Disk.lookup, located]
  simp only [opens.folder]

theorem Opens.of_foldersKept {d' : Disk} (opens : d.Opens p) (kept : FoldersKept d d') :
    d'.Opens p := by
  have place := place_eq_of_here_eq kept.here_eq p
  have origin : d'.origin p = d.origin p := by rw [Disk.origin, Disk.origin, kept.here_eq]
  constructor
  · rw [origin, place]
    exact kept.walk opens.walks
  · rw [place]
    exact kept.folder opens.folder

end Joined

end Taskbook.Disk
