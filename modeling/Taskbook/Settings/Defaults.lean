import Taskbook.Session.Conversation
import Taskbook.Settings

/-! Writing settings files that say what holds without them. -/

set_option autoImplicit false

namespace Taskbook.Settings

def Group.defaultText : Group → String
  | cli =>
    "# Printed before each line is read.\nprompt = \"> \"\n" ++
      "# Greet the user when the session starts.\ngreet = true\n"
  | core =>
    "# Where tasks are stored. Leave empty to use `tasks.txt` in the data directory.\n" ++
      "data_file = \"\"\n# Save after every command that changes the task list.\n" ++
      "# When false, tasks are only saved when the session ends.\nautosave = true\n"

section Reading

variable [Reader]

def Group.defaults : Group → List (String × Reader.Value)
  | cli => [("prompt", Reader.ofText "> "), ("greet", Reader.ofBool true)]
  | core => [("data_file", Reader.ofText ""), ("autosave", Reader.ofBool true)]

/-- How a library reads the files with the defaults: comments say nothing, and the other lines give the
values that they spell out. -/
class ReadsDefaults : Prop where
  parse?_defaultText (group : Group) :
    Reader.parse? .toml group.defaultText.toUTF8 = some fun key => group.defaults.lookup key

end Reading

def Group.confirmation (group : Group) (file : Path) : String :=
  "Configuration has been created at " ++ file.text ++
    match group with
    | cli => "."
    | core => ". You can fill the `data_file` value to choose where tasks are stored."

inductive GenerateError where
  | folder
  | create
  | write
  deriving DecidableEq, Repr

/-- The texts do not name the file; the place for it is left as it is. -/
def GenerateError.message : GenerateError → String
  | folder => "Failed to create config directory at \x7bdest:?\x7d"
  | create => "Failed to create default config at \x7bdest:?\x7d"
  | write => "Failed to write default config at \x7bdest:?\x7d"

inductive GenerateEnd where
  | done
  | failed (error : GenerateError)
  /-- A confirmation could not be shown. -/
  | unwritable
  deriving DecidableEq, Repr

section World

variable {m : Type → Type} [Monad m] [HasDisk m]

def generateFileM (folder : Path) (group : Group) : m (Except GenerateError Unit) := do
  match ← HasDisk.perform (.makeFolders folder) with
  | .error _ => return .error .folder
  | .ok () =>
    match ← HasDisk.perform
        (.write (groupFile folder group "toml") group.defaultText.toUTF8) with
    | .ok () => return .ok ()
    | .error .noSpace | .error .refused => return .error .write
    | .error _ => return .error .create

/-- Makes the files of the groups, one after the other, and confirms each of them. -/
def generateGroupsM [HasTerminal m] (folder : Path) : List Group → m GenerateEnd
  | [] => return .done
  | group :: rest => do
    match ← generateFileM folder group with
    | .error e => return .failed e
    | .ok () =>
      if ← HasTerminal.present
          (group.confirmation (groupFile folder group "toml") ++ "\n") then
        generateGroupsM folder rest
      else return .unwritable

def generateM [HasTerminal m] (folder : Path) : m GenerateEnd :=
  generateGroupsM folder [.core, .cli]

end World

def generateFile (d : Disk) (folder : Path) (group : Group) : Except GenerateError Unit × Disk :=
  (generateFileM folder group : StateM Disk _).run d

def generateGroups (d : Disk) (k : Sink) (folder : Path) (groups : List Group) :
    GenerateEnd × Disk × Sink :=
  onStage (generateGroupsM folder groups) d k []

def generate (d : Disk) (k : Sink) (folder : Path) : GenerateEnd × Disk × Sink :=
  onStage (generateM folder) d k []

section Equations

variable {d : Disk} {k : Sink}

private theorem run_generateFileM_eq {n : Type → Type} [Monad n] [LawfulMonad n] (d : Disk)
    (folder : Path) (group : Group) :
    (generateFileM folder group : StateT Disk n _).run d = pure
      (match d.perform (.makeFolders folder) with
      | (.error _, d) => (.error .folder, d)
      | (.ok (), d) =>
        match d.write (groupFile folder group "toml") group.defaultText.toUTF8 with
        | (.ok (), d) => (.ok (), d)
        | (.error .noSpace, d) | (.error .refused, d) => (.error .write, d)
        | (.error _, d) => (.error .create, d)) := by
  simp only [generateFileM, StateT.run_bind, HasDisk.run_perform, pure_bind]
  rcases d.perform (.makeFolders folder) with ⟨_ | _, d'⟩
  · simp
  · simp only [StateT.run_bind, HasDisk.run_perform, pure_bind, Disk.perform]
    rcases d'.write _ _ with ⟨e | _, d''⟩
    · cases e <;> simp
    · simp

theorem generateFile_eq (d : Disk) (folder : Path) (group : Group) :
    generateFile d folder group =
      match d.perform (.makeFolders folder) with
      | (.error _, d) => (.error .folder, d)
      | (.ok (), d) =>
        match d.write (groupFile folder group "toml") group.defaultText.toUTF8 with
        | (.ok (), d) => (.ok (), d)
        | (.error .noSpace, d) | (.error .refused, d) => (.error .write, d)
        | (.error _, d) => (.error .create, d) :=
  run_generateFileM_eq (n := Id) d folder group

@[simp] theorem run_generateFileM {n : Type → Type} [Monad n] [LawfulMonad n] (folder : Path)
    (group : Group) (d : Disk) :
    (generateFileM folder group : StateT Disk n _).run d = pure (generateFile d folder group) := by
  rw [run_generateFileM_eq, generateFile_eq]

theorem generateGroups_nil (folder : Path) : generateGroups d k folder [] = (.done, d, k) := rfl

theorem generateGroups_cons (folder : Path) (group : Group) (rest : List Group) :
    generateGroups d k folder (group :: rest) =
      match generateFile d folder group with
      | (.error e, d) => (.failed e, d, k)
      | (.ok (), d) =>
        match k.put? (group.confirmation (groupFile folder group "toml") ++ "\n") with
        | none => (.unwritable, d, k)
        | some k => generateGroups d k folder rest := by
  have written {α : Type} (next : Except GenerateError Unit → StateT Disk (StateM Terminal) α) :
      onStage (generateFileM folder group >>= next) d k [] =
        onStage (next (generateFile d folder group).1) (generateFile d folder group).2 k [] := by
    simp only [onStage, StateT.run_bind, run_generateFileM, pure_bind]
  rw [generateGroups, generateGroupsM, written]
  rcases generateFile d folder group with ⟨e | _, d'⟩
  · rfl
  · dsimp only
    rw [onStage_present]
    cases k.put? _ <;> rfl

end Equations

end Taskbook.Settings
