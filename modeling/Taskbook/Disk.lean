import Taskbook.Disk.Path

/-! A disk: folders, files and devices by location, and what can be done to them.

A location is the list of names from the root. Each operation returns the disk as it is left, also
when it fails. -/

set_option autoImplicit false

namespace Taskbook

abbrev Location := List String

instance decidableEqContent : DecidableEq ByteArray := ByteArray.decEq

inductive Entry where
  | folder
  | file (content : ByteArray)
  /-- A device that can be opened and takes no content. -/
  | full
  deriving DecidableEq

inductive DiskError where
  | notFound
  | notADirectory
  | isADirectory
  | alreadyExists
  | noSpace
  | outOfMemory
  | denied
  | refused
  deriving DecidableEq, Repr

def DiskError.message : DiskError → String
  | .notFound => "No such file or directory (os error 2)"
  | .notADirectory => "Not a directory (os error 20)"
  | .isADirectory => "Is a directory (os error 21)"
  | .alreadyExists => "File exists (os error 17)"
  | .noSpace => "No space left on device (os error 28)"
  | .outOfMemory => "Cannot allocate memory (os error 12)"
  | .denied => "Permission denied (os error 13)"
  | .refused => "Input/output error (os error 5)"

structure Disk where
  /-- The working folder, from which relative paths are read. -/
  here : Location
  entries : List (Location × Entry)
  /-- Which of the coming writes to files break off; none does beyond the end of the list. -/
  faults : List Bool
  deriving DecidableEq

namespace Disk

/-- What stands at a location. The root is always a folder. -/
def find (d : Disk) (l : Location) : Option Entry :=
  if l.isEmpty then some .folder else (d.entries.find? fun e => e.1 = l).map (·.2)

def erase (d : Disk) (l : Location) : Disk :=
  { d with entries := d.entries.filter fun e => e.1 ≠ l }

def insert (d : Disk) (l : Location) (e : Entry) : Disk :=
  { d with entries := (l, e) :: (d.erase l).entries }

/-- One name further; two dots lead back to the folder above. -/
def follow (l : Location) (name : String) : Location :=
  if name = ".." then l.dropLast else l ++ [name]

def origin (d : Disk) (p : Path) : Location := if p.isAbsolute then [] else d.here

/-- The location that names lead to, if all before the last are folders. -/
def walk (d : Disk) : Location → List String → Except DiskError Location
  | l, [] => .ok l
  | l, name :: rest =>
    match d.find l with
    | some .folder => walk d (follow l name) rest
    | some _ => .error .notADirectory
    | none => .error .notFound

/-- The location that a path leads to. Nothing needs to stand there, unless the path asks for a
folder. -/
def locate (d : Disk) (p : Path) : Except DiskError Location :=
  match d.walk (d.origin p) p.steps with
  | .error e => .error e
  | .ok l => if p.asksForFolder && d.find l != some .folder then .error .notADirectory else .ok l

def lookup (d : Disk) (p : Path) : Option Entry :=
  match d.locate p with
  | .ok l => d.find l
  | .error _ => none

def isPresent (d : Disk) (p : Path) : Bool := (d.lookup p).isSome

def isFile (d : Disk) (p : Path) : Bool :=
  match d.lookup p with
  | some (.file _) => true
  | _ => false

/-- The content of a file. A device gives no end of content. -/
def read (d : Disk) (p : Path) : Except DiskError ByteArray :=
  match d.locate p with
  | .error e => .error e
  | .ok l =>
    match d.find l with
    | none => .error .notFound
    | some .folder => .error .isADirectory
    | some .full => .error .outOfMemory
    | some (.file content) => .ok content

/-- Makes a folder of every name that leads nowhere yet. -/
def makeFolders (d : Disk) : Location → List String → Except DiskError Unit × Disk
  | _, [] => (.ok (), d)
  | l, name :: rest =>
    match d.find (follow l name) with
    | some .folder => makeFolders d (follow l name) rest
    | some _ => (.error (if rest.isEmpty then .alreadyExists else .notADirectory), d)
    | none => makeFolders (d.insert (follow l name) .folder) (follow l name) rest

/-- Replaces the content of a file, which is made if need be. A write that breaks off leaves the
file empty. -/
def write (d : Disk) (p : Path) (content : ByteArray) : Except DiskError Unit × Disk :=
  match d.locate p with
  | .error e => (.error e, d)
  | .ok l =>
    match d.find l with
    | some .folder => (.error .isADirectory, d)
    | some .full => if content.isEmpty then (.ok (), d) else (.error .noSpace, d)
    | some (.file _) | none =>
      match d.faults with
      | true :: faults => (.error .refused, { d.insert l (.file ByteArray.empty) with faults })
      | _ => (.ok (), { d.insert l (.file content) with faults := d.faults.tail })

def touch (d : Disk) (p : Path) : Except DiskError Unit × Disk :=
  match d.locate p with
  | .error e => (.error e, d)
  | .ok l =>
    match d.find l with
    | some .folder => (.error .isADirectory, d)
    | some _ => (.ok (), d)
    | none => (.ok (), d.insert l (.file ByteArray.empty))

/-- Adds to the end of a file. A device takes nothing. -/
def append (d : Disk) (p : Path) (content : ByteArray) : Disk :=
  match d.locate p with
  | .error _ => d
  | .ok l =>
    match d.find l with
    | some (.file before) => d.insert l (.file (before ++ content))
    | _ => d

def rename (d : Disk) (source target : Path) : Except DiskError Unit × Disk :=
  match d.locate source, d.locate target with
  | .error e, _ => (.error e, d)
  | .ok _, .error e => (.error e, d)
  | .ok l, .ok m =>
    match d.find l, d.find m with
    | none, _ => (.error .notFound, d)
    | some .folder, _ => (.error .isADirectory, d)
    | some _, some .folder => (.error .isADirectory, d)
    | some e, _ => if l = m then (.ok (), d) else (.ok (), (d.erase l).insert m e)

inductive Action where
  | makeFolders (p : Path)
  | write (p : Path) (content : ByteArray)
  | rename (source target : Path)
  deriving DecidableEq

def perform (d : Disk) : Action → Except DiskError Unit × Disk
  | .makeFolders p => d.makeFolders (d.origin p) p.steps
  | .write p content => d.write p content
  | .rename source target => d.rename source target

end Disk

/-- A world with a disk. What works with the disk is written for all of them: the one that a program
runs in, and the ones that consist of a `Disk`. -/
class HasDisk (m : Type → Type) where
  /-- The disk, as far as some paths lead. -/
  look : List Path → m Disk
  perform : Disk.Action → m (Except DiskError Unit)

instance {m : Type → Type} [Monad m] : HasDisk (StateT Disk m) where
  look _ := get
  perform action := modifyGet fun d => d.perform action

@[simp] theorem HasDisk.run_look {m : Type → Type} [Monad m] (paths : List Path) (d : Disk) :
    (HasDisk.look paths : StateT Disk m Disk).run d = pure (d, d) := rfl

@[simp] theorem HasDisk.run_perform {m : Type → Type} [Monad m] (action : Disk.Action) (d : Disk) :
    (HasDisk.perform action : StateT Disk m _).run d = pure (d.perform action) := rfl

namespace Disk

section Scripts

variable {m : Type → Type} [Monad m]

/-- Performs actions until one fails, and tells which one it was. -/
def performAllM [HasDisk m] : List Action → m (Option (Action × DiskError))
  | [] => return none
  | action :: rest => do
    match ← HasDisk.perform action with
    | .ok () => performAllM rest
    | .error e => return some (action, e)

def performAll (d : Disk) (actions : List Action) : Option (Action × DiskError) × Disk :=
  (performAllM actions : StateM Disk _).run d

theorem performAll_nil (d : Disk) : d.performAll [] = (none, d) := rfl

theorem performAll_cons (d : Disk) (action : Action) (rest : List Action) :
    d.performAll (action :: rest) =
      match d.perform action with
      | (.ok (), d') => d'.performAll rest
      | (.error e, d') => (some (action, e), d') := by
  simp only [performAll, performAllM, StateT.run_bind, HasDisk.run_perform, pure_bind]
  rcases d.perform action with ⟨_ | _, d'⟩ <;> rfl

@[simp] theorem run_performAllM [LawfulMonad m] (actions : List Action) (d : Disk) :
    (performAllM actions : StateT Disk m _).run d = pure (d.performAll actions) := by
  induction actions generalizing d with
  | nil => simp [performAllM, performAll_nil]
  | cons action rest ih =>
    simp only [performAllM, performAll_cons, StateT.run_bind, HasDisk.run_perform, pure_bind]
    rcases d.perform action with ⟨_ | ⟨⟩, d'⟩
    · simp
    · exact ih d'

end Scripts

@[simp] theorem find_insert_self (d : Disk) {l : Location} (e : Entry) (h : l ≠ []) :
    (d.insert l e).find l = some e := by
  simp [find, insert, h]

theorem find_insert_of_ne (d : Disk) {l m : Location} (e : Entry) (h : m ≠ l) :
    (d.insert l e).find m = d.find m := by
  unfold find insert erase
  by_cases hm : m = []
  · simp [hm]
  · have hne : ¬ l = m := fun he => h he.symm
    simp only [List.isEmpty_iff, hm, if_false, List.find?_cons, hne, decide_false]
    rw [List.find?_filter]
    congr 2
    funext x
    by_cases hx : x.1 = m <;> simp [hx, h]

theorem find_erase_of_ne (d : Disk) {l m : Location} (h : m ≠ l) :
    (d.erase l).find m = d.find m := by
  unfold find erase
  by_cases hm : m = []
  · simp [hm]
  · simp only [List.isEmpty_iff, hm, if_false]
    rw [List.find?_filter]
    congr 2
    funext x
    by_cases hx : x.1 = m <;> simp [hx, h]

end Disk

end Taskbook
