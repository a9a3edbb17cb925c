import Mathlib.Data.List.Induction
import Taskbook.Proofs.Settings.Formats

/-! What settings files say together. Each setting has the value that it has in the format that counts
most among those that have it. A file that does not keep to its format makes all of them fail, also
where it would not count; a value that does not convert does no harm where it does not count. -/

set_option autoImplicit false

namespace Taskbook.Settings

def Format.rank : Format → Nat
  | .json5 => 0
  | .json => 1
  | .yaml => 2
  | .toml => 3
  | .ini => 4
  | .ron => 5

/-- Where the entries of a list come with falling ranks, the first that has something to give is the
one with the highest rank. -/
private theorem findSome?_eq_some_iff_of_pairwise {α β : Type} {rank : α → Nat}
    {give : α → Option β} {l : List α} {b : β} (falling : l.Pairwise fun x y => rank y < rank x) :
    l.findSome? give = some b ↔
      ∃ x ∈ l, give x = some b ∧ ∀ y ∈ l, rank x < rank y → give y = none := by
  rw [List.findSome?_eq_some_iff]
  constructor
  · rintro ⟨front, x, back, rfl, gives, none⟩
    refine ⟨x, by simp, gives, fun y mem higher => ?_⟩
    rw [List.pairwise_append, List.pairwise_cons] at falling
    rcases List.mem_append.mp mem with mem | mem
    · exact none y mem
    rcases List.mem_cons.mp mem with rfl | mem
    · exact absurd higher (Nat.lt_irrefl _)
    · exact absurd higher (Nat.lt_asymm (falling.2.1.1 y mem))
  · rintro ⟨x, mem, gives, none⟩
    obtain ⟨front, back, rfl⟩ := List.append_of_mem mem
    refine ⟨front, x, back, rfl, gives, fun y before => ?_⟩
    rw [List.pairwise_append] at falling
    exact none y (List.mem_append_left _ before) (falling.2.2 y before x List.mem_cons_self)

theorem mem_of_lookup {α : Type} {entries : List (String × α)} {key : String} {value : α}
    (there : entries.lookup key = some value) : (key, value) ∈ entries := by
  obtain ⟨front, back, rfl, _⟩ := List.lookup_eq_some_iff.mp there
  exact List.mem_append_right front List.mem_cons_self

section Layers

variable [Reader]

/-- The file that stands for a format of a group in a folder: the one with the proper name or, where
that is no file, the one that is found in its stead. -/
inductive StandsFor (d : Disk) (folder : Path) (group : Group) : Format → Path → Prop
  | proper {format : Format} {extension : String} (listed : (format, extension) ∈ folderFormats)
      (isFile : d.isFile (groupFile folder group extension) = true) :
      StandsFor d folder group format (groupFile folder group extension)
  | standIn {format : Format} {extension : String} {file : Path}
      (listed : (format, extension) ∈ folderFormats)
      (missing : d.isFile (groupFile folder group extension) = false)
      (found : Reader.find? d.isFile format (groupFile folder group extension) = some file) :
      StandsFor d folder group format file

/-- A file that the settings of a group are read from, and its format. -/
inductive Source (d : Disk) (path : Path) (group : Group) : Format → Path → Prop
  | alone {format : Format} (isFile : d.isFile path = true)
      (named : path.extension?.bind Reader.formatOf? = some format) : Source d path group format path
  | inFolder {format : Format} {file : Path} (noFile : d.isFile path = false)
      (stands : StandsFor d path group format file) : Source d path group format file

/-- Every file of a group that keeps to its format gives plain values to plain keys. -/
def IsFlat (d : Disk) (path : Path) (group : Group) : Prop :=
  ∀ format file table, Source d path group format file → readTable d file format = .ok table →
    table.IsFlat

def Has (d : Disk) (format : Format) (file : Path) (key : String) (value : Reader.Value) : Prop :=
  ∃ table, readTable d file format = .ok table ∧ table key = some value

section Sources

variable (d : Disk) (sources : Format → Path → Prop)

/-- The value under a key that counts: none of the sources that count more has the key. -/
def Wins (key : String) (value : Reader.Value) : Prop :=
  ∃ format file, sources format file ∧ Has d format file key value ∧
    ∀ format' file', sources format' file' → format.rank < format'.rank →
      ∀ value', ¬ Has d format' file' key value'

/-- What a setting is: the value that counts, converted, or the default if no source has the key. -/
def Settles {α : Type} (key : String) (convert : Reader.Value → Option α) (default x : α) : Prop :=
  (∃ value, Wins d sources key value ∧ convert value = some x) ∨
    (∀ format file value, sources format file → ¬ Has d format file key value) ∧ x = default

end Sources

/-- A value that a setting of a group is not made from. -/
inductive Group.Refuses : Group → String → Reader.Value → Prop
  | prompt {value : Reader.Value} (noText : Reader.toText? value = none) : Refuses .cli "prompt" value
  | greet {value : Reader.Value} (noBool : Reader.toBool? value = none) : Refuses .cli "greet" value
  | dataFile {value : Reader.Value} (noText : Reader.toText? value = none) :
      Refuses .core "data_file" value
  | autosave {value : Reader.Value} (noBool : Reader.toBool? value = none) :
      Refuses .core "autosave" value

inductive Fails (d : Disk) (path : Path) (group : Group) : Error → Prop
  | unknownFormat (isFile : d.isFile path = true)
      (unnamed : path.extension?.bind Reader.formatOf? = none) : Fails d path group .unknownFormat
  | malformed {format : Format} {file : Path} (source : Source d path group format file)
      (broken : Reader.parse? format (content d file) = none) : Fails d path group .malformed
  | unsuitable {key : String} {value : Reader.Value}
      (sound : ∀ format file, Source d path group format file →
        Reader.parse? format (content d file) ≠ none)
      (wins : Wins d (Source d path group) key value) (refused : group.Refuses key value) :
      Fails d path group .unsuitable

variable {d : Disk} {folders : Folders} {choices : Choices} {path folder file : Path} {group : Group}
  {format : Format} {key : String} {value : Reader.Value} {table : Table} {e : Error}
  {files : List (Format × Path)} {tables : List Table}

section Tables

private theorem readTable_eq_error_iff :
    readTable d file format = .error e ↔
      e = .malformed ∧ Reader.parse? format (content d file) = none := by
  rw [readTable]
  cases Reader.parse? format (content d file) with
  | none => simp [eq_comm]
  | some table => simp

/-- The value that a file has under a key, if it keeps to its format and has the key. -/
private def found (d : Disk) (key : String) (f : Format × Path) : Option Reader.Value :=
  (readTable d f.2 f.1).toOption.bind fun table => table key

private theorem found_eq_some_iff :
    found d key (format, file) = some value ↔ Has d format file key value := by
  unfold found Has
  cases readTable d file format with
  | error e => simp [Except.toOption]
  | ok table => simp [Except.toOption]

private theorem found_eq_none_iff :
    found d key (format, file) = none ↔ ∀ value, ¬ Has d format file key value := by
  rw [Option.eq_none_iff_forall_ne_some]
  simp only [ne_eq, found_eq_some_iff]

theorem mapM_readTable_eq_error_iff :
    (files.mapM fun f => readTable d f.2 f.1) = .error e ↔
      e = .malformed ∧ ∃ f ∈ files, Reader.parse? f.1 (content d f.2) = none := by
  induction files with
  | nil => simp [pure, Except.pure]
  | cons f files ih =>
    rw [List.mapM_cons]
    cases read : readTable d f.2 f.1 with
    | error e' =>
      obtain ⟨rfl, broken⟩ := readTable_eq_error_iff.mp read
      simp [bind, Except.bind, broken, eq_comm]
    | ok table =>
      have sound : Reader.parse? f.1 (content d f.2) ≠ none := by
        intro broken
        rw [readTable_eq_error_iff.mpr ⟨rfl, broken⟩] at read
        cases read
      have behind : (do
          let table ← Except.ok table
          let tables ← files.mapM fun f => readTable d f.2 f.1
          pure (table :: tables)) = Except.error e ↔
          (files.mapM fun f => readTable d f.2 f.1) = .error e := by
        cases files.mapM fun f => readTable d f.2 f.1 <;>
          simp [bind, Except.bind, pure, Except.pure]
      rw [behind, ih]
      simp only [List.mem_cons, exists_eq_or_imp, sound, false_or]

private theorem mapM_readTable_eq_ok_iff : (files.mapM fun f => readTable d f.2 f.1) = .ok tables ↔
    (files.map fun f => readTable d f.2 f.1) = tables.map .ok := by
  induction files generalizing tables with
  | nil => cases tables <;> simp [pure, Except.pure]
  | cons f files ih =>
    rw [List.mapM_cons]
    cases first : readTable d f.2 f.1 with
    | error e => cases tables <;> simp [bind, Except.bind, first]
    | ok table =>
      cases rest : files.mapM fun f => readTable d f.2 f.1 with
      | error e => cases tables <;> simp [bind, Except.bind, ← ih, first, rest]
      | ok tables' =>
        cases tables <;> simp [bind, Except.bind, pure, Except.pure, ← ih, first, rest]

/-- What several flat files say together under a key is what the last one says that has the key. -/
private theorem merge_eq_findSome? [LawfulReader]
    (read : (files.map fun f => readTable d f.2 f.1) = tables.map .ok)
    (flat : ∀ table ∈ tables, table.IsFlat) (key : String) :
    Reader.merge tables key = files.reverse.findSome? (found d key) := by
  have last : Reader.merge tables key = (tables.map fun table => table key).reverse.findSome? id := by
    clear read
    induction tables using List.reverseRecOn with
    | nil => exact LawfulReader.merge_nil key
    | append_singleton tables table ih =>
      rw [LawfulReader.merge_append tables (flat table (by simp)) key,
        ih fun other mem => flat other (List.mem_append_left _ mem)]
      cases value : table key <;> simp [value]
  have values : (tables.map fun table => table key) = files.map (found d key) :=
    calc tables.map (fun table => table key)
        = (tables.map Except.ok).map fun (r : Except Error Table) =>
            r.toOption.bind fun table => table key := by simp [Except.toOption]
      _ = files.map (found d key) := by
          rw [← read, List.map_map]
          rfl
  rw [last, values, ← List.map_reverse, List.findSome?_map]
  rfl

end Tables

section Groups

private theorem mem_folderFiles_iff [LawfulReader] : (format, file) ∈ folderFiles d folder group ↔
    StandsFor d folder group format file := by
  unfold folderFiles
  rw [List.mem_filterMap]
  constructor
  · rintro ⟨⟨format', extension⟩, listed, stands⟩
    obtain ⟨file', isFound, same⟩ := Option.map_eq_some_iff.mp stands
    obtain ⟨rfl, rfl⟩ := Prod.mk.inj same
    cases isFile : d.isFile (groupFile folder group extension) with
    | true =>
      rw [LawfulReader.find?_of_isFile format' isFile] at isFound
      obtain rfl := Option.some.inj isFound
      exact .proper listed isFile
    | false => exact .standIn listed isFile isFound
  · rintro (⟨listed, isFile⟩ | ⟨listed, _, isFound⟩)
    · exact ⟨_, listed, by simp only [LawfulReader.find?_of_isFile _ isFile, Option.map_some]⟩
    · exact ⟨_, listed, by simp only [isFound, Option.map_some]⟩

private theorem pairwise_rank_folderFiles (d : Disk) (folder : Path) (group : Group) :
    (folderFiles d folder group).Pairwise fun a b => a.1.rank < b.1.rank := by
  have listed : folderFormats.Pairwise fun a b => a.1.rank < b.1.rank := by decide
  refine List.pairwise_filterMap.mpr (listed.imp ?_)
  intro a b rises f hf f' hf'
  obtain ⟨_, _, rfl⟩ := Option.map_eq_some_iff.mp hf
  obtain ⟨_, _, rfl⟩ := Option.map_eq_some_iff.mp hf'
  exact rises

private theorem not_source_of_unnamed (isFile : d.isFile path = true)
    (unnamed : path.extension?.bind Reader.formatOf? = none) :
    ¬ Source d path group format file := by
  rintro (⟨_, named⟩ | ⟨noFile, _⟩)
  · rw [unnamed] at named
    cases named
  · rw [isFile] at noFile
    cases noFile

private theorem groupFiles_eq_error_iff : groupFiles d path group = .error e ↔
    e = .unknownFormat ∧ d.isFile path = true ∧ path.extension?.bind Reader.formatOf? = none := by
  unfold groupFiles
  cases isFile : d.isFile path with
  | false => simp
  | true => cases path.extension?.bind Reader.formatOf? <;> simp [eq_comm]

private theorem of_groupFiles_eq_ok [LawfulReader] (listed : groupFiles d path group = .ok files) :
    (∀ format file, (format, file) ∈ files ↔ Source d path group format file) ∧
      files.Pairwise fun a b => a.1.rank < b.1.rank := by
  unfold groupFiles at listed
  cases isFile : d.isFile path with
  | false =>
    obtain rfl : folderFiles d path group = files := by simpa [isFile] using listed
    refine ⟨fun format file => ?_, pairwise_rank_folderFiles d path group⟩
    rw [mem_folderFiles_iff]
    constructor
    · exact .inFolder isFile
    · rintro (⟨isFile', _⟩ | ⟨_, stands⟩)
      · rw [isFile] at isFile'
        cases isFile'
      · exact stands
  | true =>
    cases named : path.extension?.bind Reader.formatOf? with
    | none => simp [isFile, named] at listed
    | some format =>
      obtain rfl : [(format, path)] = files := by simpa [isFile, named] using listed
      refine ⟨fun format' file => ?_, List.pairwise_singleton ..⟩
      rw [List.mem_singleton, Prod.mk.injEq]
      constructor
      · rintro ⟨rfl, rfl⟩
        exact .alone isFile named
      · rintro (⟨_, named'⟩ | ⟨noFile, _⟩)
        · exact ⟨Option.some.inj (named'.symm.trans named), rfl⟩
        · rw [isFile] at noFile
          cases noFile

private theorem groupTable_eq_error_iff [LawfulReader] :
    groupTable d path group = .error e ↔
      e = .unknownFormat ∧ d.isFile path = true ∧ path.extension?.bind Reader.formatOf? = none ∨
      e = .malformed ∧ ∃ format file, Source d path group format file ∧
        Reader.parse? format (content d file) = none := by
  rw [groupTable]
  cases listed : groupFiles d path group with
  | error e' =>
    obtain ⟨rfl, isFile, unnamed⟩ := groupFiles_eq_error_iff.mp listed
    have noSource (format : Format) (file : Path) : ¬ Source d path group format file :=
      not_source_of_unnamed isFile unnamed
    simp [bind, Except.bind, isFile, unnamed, noSource, eq_comm]
  | ok files =>
    have named : ¬ (d.isFile path = true ∧ path.extension?.bind Reader.formatOf? = none) := by
      intro unnamed
      rw [groupFiles_eq_error_iff.mpr ⟨rfl, unnamed⟩] at listed
      cases listed
    have broken : (do
        let files ← Except.ok files
        let tables ← files.mapM fun f => readTable d f.2 f.1
        return Reader.merge tables) = Except.error e ↔
        (files.mapM fun f => readTable d f.2 f.1) = .error e := by
      cases read : files.mapM fun f => readTable d f.2 f.1 <;>
        simp [bind, Except.bind, pure, Except.pure, read]
    rw [broken, mapM_readTable_eq_error_iff, Prod.exists]
    simp only [(of_groupFiles_eq_ok listed).1]
    exact ⟨.inr, fun either => either.resolve_left fun alone => named alone.2⟩

/-- What the files of a group say together under a key is the value that counts. -/
private theorem of_groupTable_eq_ok [LawfulReader] (flat : IsFlat d path group)
    (made : groupTable d path group = .ok table) (key : String) :
    (∀ value, table key = some value ↔ Wins d (Source d path group) key value) ∧
      (table key = none ↔
        ∀ format file value, Source d path group format file → ¬ Has d format file key value) := by
  rw [groupTable] at made
  cases listed : groupFiles d path group with
  | error e =>
    rw [listed] at made
    cases made
  | ok files =>
    cases mapped : files.mapM fun f => readTable d f.2 f.1 with
    | error e => simp [listed, mapped, bind, Except.bind] at made
    | ok tables =>
      obtain rfl : Reader.merge tables = table := by
        simpa [listed, mapped, bind, Except.bind, pure, Except.pure] using made
      obtain ⟨sources, rises⟩ := of_groupFiles_eq_ok listed
      have read := mapM_readTable_eq_ok_iff.mp mapped
      have plain : ∀ table ∈ tables, table.IsFlat := by
        intro table mem
        have there := List.mem_map_of_mem (f := Except.ok (ε := Error)) mem
        rw [← read] at there
        obtain ⟨f, among, here⟩ := List.mem_map.mp there
        exact flat f.1 f.2 table ((sources f.1 f.2).mp among) here
      rw [merge_eq_findSome? read plain]
      have falls : files.reverse.Pairwise fun a b => b.1.rank < a.1.rank :=
        List.pairwise_reverse.mpr rises
      constructor
      · intro value
        rw [findSome?_eq_some_iff_of_pairwise falls, Prod.exists, Wins]
        simp only [List.mem_reverse, sources, found_eq_some_iff, Prod.forall, found_eq_none_iff]
      · rw [List.findSome?_eq_none_iff, Prod.forall]
        simp only [List.mem_reverse, sources, found_eq_none_iff]
        exact ⟨fun h format file value source => h format file source value,
          fun h format file source value => h format file value source⟩

end Groups

private theorem Source.isFile [LawfulReader] (source : Source d path group format file) :
    d.isFile file = true := by
  rcases source with ⟨isFile, _⟩ | ⟨_, ⟨_, isFile⟩ | ⟨_, _, isFound⟩⟩
  · exact isFile
  · exact isFile
  · exact (LawfulReader.of_find? isFound).1

section Settings

variable [LawfulReader] {α β : Type} {key' : String} {convert : Reader.Value → Option α}
  {convert' : Reader.Value → Option β} {default x : α} {default' y : β}

omit [LawfulReader] in
theorem setting_eq_ok_iff : setting table key convert default = .ok x ↔
    (∃ value, table key = some value ∧ convert value = some x) ∨
      table key = none ∧ x = default := by
  rw [setting]
  cases table key with
  | none => simp [eq_comm]
  | some value => cases converted : convert value <;> simp [converted]

omit [LawfulReader] in
private theorem setting_eq_error_iff : setting table key convert default = .error e ↔
    e = .unsuitable ∧ ∃ value, table key = some value ∧ convert value = none := by
  rw [setting]
  cases table key with
  | none => simp
  | some value => cases converted : convert value <;> simp [converted, eq_comm]

private theorem setting_eq_ok_iff_settles (flat : IsFlat d path group)
    (made : groupTable d path group = .ok table) :
    setting table key convert default = .ok x ↔
      Settles d (Source d path group) key convert default x := by
  obtain ⟨wins, none⟩ := of_groupTable_eq_ok flat made key
  rw [setting_eq_ok_iff, none, Settles]
  simp only [wins]

private def pair (d : Disk) (path : Path) (group : Group) (key key' : String)
    (convert : Reader.Value → Option α) (convert' : Reader.Value → Option β) (default : α)
    (default' : β) : Except Error (α × β) := do
  let table ← groupTable d path group
  let x ← setting table key convert default
  let y ← setting table key' convert' default'
  return (x, y)

private theorem fails_iff (flat : IsFlat d path group) : Fails d path group e ↔
    groupTable d path group = .error e ∨
    e = .unsuitable ∧ ∃ table, groupTable d path group = .ok table ∧
      ∃ key value, table key = some value ∧ group.Refuses key value := by
  constructor
  · intro fails
    cases fails with
    | unknownFormat isFile unnamed =>
      exact .inl (groupTable_eq_error_iff.mpr (.inl ⟨rfl, isFile, unnamed⟩))
    | malformed source broken =>
      exact .inl (groupTable_eq_error_iff.mpr (.inr ⟨rfl, _, _, source, broken⟩))
    | @unsuitable key value sound wins refused =>
      cases made : groupTable d path group with
      | error e =>
        obtain ⟨_, _, source, _⟩ := wins
        rcases groupTable_eq_error_iff.mp made with ⟨_, isFile, unnamed⟩ | ⟨_, _, _, source', broken⟩
        · exact absurd source (not_source_of_unnamed isFile unnamed)
        · exact absurd broken (sound _ _ source')
      | ok table =>
        exact .inr ⟨rfl, table, rfl, key, value, ((of_groupTable_eq_ok flat made key).1 value).mpr wins,
          refused⟩
  · rintro (failed | ⟨rfl, table, made, key, value, there, refused⟩)
    · rcases groupTable_eq_error_iff.mp failed with
        ⟨rfl, isFile, unnamed⟩ | ⟨rfl, _, _, source, broken⟩
      · exact .unknownFormat isFile unnamed
      · exact .malformed source broken
    · refine .unsuitable ?_ (((of_groupTable_eq_ok flat made key).1 value).mp there) refused
      intro format file source broken
      have failed := groupTable_eq_error_iff.mpr (.inr ⟨rfl, format, file, source, broken⟩)
      rw [made] at failed
      cases failed

private theorem pair_eq_error_iff (flat : IsFlat d path group)
    (refuses : ∀ k value, group.Refuses k value ↔
      k = key ∧ convert value = none ∨ k = key' ∧ convert' value = none) :
    pair d path group key key' convert convert' default default' = .error e ↔
      Fails d path group e := by
  rw [fails_iff flat]
  cases made : groupTable d path group with
  | error e' => simp [pair, made, bind, Except.bind]
  | ok table =>
    have refused : (∃ k value, table k = some value ∧ group.Refuses k value) ↔
        (∃ value, table key = some value ∧ convert value = none) ∨
          ∃ value, table key' = some value ∧ convert' value = none := by
      simp only [refuses]
      constructor
      · rintro ⟨_, value, there, ⟨rfl, none⟩ | ⟨rfl, none⟩⟩
        · exact .inl ⟨value, there, none⟩
        · exact .inr ⟨value, there, none⟩
      · rintro (⟨value, there, none⟩ | ⟨value, there, none⟩)
        · exact ⟨key, value, there, .inl ⟨rfl, none⟩⟩
        · exact ⟨key', value, there, .inr ⟨rfl, none⟩⟩
    have fails : pair d path group key key' convert convert' default default' = .error e ↔
        setting table key convert default = .error e ∨
          (∀ e', setting table key convert default ≠ .error e') ∧
            setting table key' convert' default' = .error e := by
      rw [pair, made]
      cases first : setting table key convert default with
      | error e' => simp [first, bind, Except.bind]
      | ok x =>
        cases second : setting table key' convert' default' <;>
          simp [first, second, bind, Except.bind, pure, Except.pure]
    rw [fails]
    simp only [Except.ok.injEq, exists_eq_left', refused, setting_eq_error_iff, reduceCtorEq,
      ne_eq, false_or]
    constructor
    · rintro (⟨rfl, left⟩ | ⟨_, rfl, right⟩)
      · exact ⟨rfl, .inl left⟩
      · exact ⟨rfl, .inr right⟩
    · rintro ⟨rfl, either⟩
      by_cases left : ∃ value, table key = some value ∧ convert value = none
      · exact .inl ⟨rfl, left⟩
      · exact .inr ⟨fun _ failed => left failed.2, rfl, either.resolve_left left⟩

private theorem pair_eq_ok_iff (flat : IsFlat d path group)
    (refuses : ∀ k value, group.Refuses k value ↔
      k = key ∧ convert value = none ∨ k = key' ∧ convert' value = none) :
    pair d path group key key' convert convert' default default' = .ok (x, y) ↔
      (∀ e, ¬ Fails d path group e) ∧ Settles d (Source d path group) key convert default x ∧
        Settles d (Source d path group) key' convert' default' y := by
  have fails (e : Error) : Fails d path group e ↔
      pair d path group key key' convert convert' default default' = .error e :=
    (pair_eq_error_iff flat refuses).symm
  simp only [fails]
  cases made : groupTable d path group with
  | error e => simp [pair, made, bind, Except.bind]
  | ok table =>
    rw [← setting_eq_ok_iff_settles flat made, ← setting_eq_ok_iff_settles flat made]
    rw [pair, made]
    cases first : setting table key convert default with
    | error e' => simp [first, bind, Except.bind]
    | ok x =>
      cases second : setting table key' convert' default' <;>
        simp [first, second, bind, Except.bind, pure, Except.pure]

omit [LawfulReader] in
private theorem Group.refuses_cli_iff : Group.cli.Refuses key value ↔
    key = "prompt" ∧ Reader.toText? value = none ∨ key = "greet" ∧ Reader.toBool? value = none := by
  constructor
  · intro refused
    cases refused with
    | prompt noText => exact .inl ⟨rfl, noText⟩
    | greet noBool => exact .inr ⟨rfl, noBool⟩
  · rintro (⟨rfl, noText⟩ | ⟨rfl, noBool⟩)
    · exact .prompt noText
    · exact .greet noBool

omit [LawfulReader] in
private theorem Group.refuses_core_iff : Group.core.Refuses key value ↔
    key = "data_file" ∧ Reader.toText? value = none ∨ key = "autosave" ∧ Reader.toBool? value = none := by
  constructor
  · intro refused
    cases refused with
    | dataFile noText => exact .inl ⟨rfl, noText⟩
    | autosave noBool => exact .inr ⟨rfl, noBool⟩
  · rintro (⟨rfl, noText⟩ | ⟨rfl, noBool⟩)
    · exact .dataFile noText
    · exact .autosave noBool

private theorem cliSettings_eq_error_iff (flat : IsFlat d path .cli) :
    cliSettings d path = .error e ↔ Fails d path .cli e :=
  pair_eq_error_iff flat fun _ _ => Group.refuses_cli_iff

private theorem cliSettings_eq_ok_iff (flat : IsFlat d path .cli) {prompt : String} {greet : Bool} :
    cliSettings d path = .ok (prompt, greet) ↔ (∀ e, ¬ Fails d path .cli e) ∧
      Settles d (Source d path .cli) "prompt" Reader.toText? "> " prompt ∧
      Settles d (Source d path .cli) "greet" Reader.toBool? true greet :=
  pair_eq_ok_iff flat fun _ _ => Group.refuses_cli_iff

private theorem coreSettings_eq_error_iff (flat : IsFlat d path .core) :
    coreSettings d path = .error e ↔ Fails d path .core e :=
  pair_eq_error_iff flat fun _ _ => Group.refuses_core_iff

private theorem coreSettings_eq_ok_iff (flat : IsFlat d path .core) {stored : String}
    {autosave : Bool} :
    coreSettings d path = .ok (stored, autosave) ↔ (∀ e, ¬ Fails d path .core e) ∧
      Settles d (Source d path .core) "data_file" Reader.toText? "" stored ∧
      Settles d (Source d path .core) "autosave" Reader.toBool? true autosave :=
  pair_eq_ok_iff flat fun _ _ => Group.refuses_core_iff

end Settings

section Load

/-- The data file: the one that is asked for, else the one that is stored, and the usual one if that
is empty. -/
def chosenFile (folders : Folders) (choices : Choices) (stored : String) : Path :=
  if choices.dataFile.getD stored = "" then folders.taskFile
  else .ofText (choices.dataFile.getD stored)

private theorem load_eq_error_iff [LawfulReader]
    (flat : ∀ group, IsFlat d (configPath folders choices) group) :
    load d folders choices = .error e ↔ Fails d (configPath folders choices) .cli e ∨
      (∀ e', ¬ Fails d (configPath folders choices) .cli e') ∧
        Fails d (configPath folders choices) .core e := by
  simp only [← cliSettings_eq_error_iff (flat .cli), ← coreSettings_eq_error_iff (flat .core)]
  rw [load]
  cases cliSettings d (configPath folders choices) with
  | error e' => simp [bind, Except.bind]
  | ok pair =>
    cases coreSettings d (configPath folders choices) with
    | error e' => simp [bind, Except.bind]
    | ok pair' => simp [bind, Except.bind, pure, Except.pure]

theorem load_eq_ok_iff {s : Settings} : load d folders choices = .ok s ↔
    cliSettings d (configPath folders choices) = .ok (s.prompt, s.greet) ∧
      ∃ stored, coreSettings d (configPath folders choices) = .ok (stored, s.autosave) ∧
        s.dataFile = chosenFile folders choices stored := by
  obtain ⟨prompt, greet, file, autosave⟩ := s
  rw [load]
  cases cliSettings d (configPath folders choices) with
  | error e' => simp [bind, Except.bind]
  | ok pair =>
    cases coreSettings d (configPath folders choices) with
    | error e' => simp [bind, Except.bind]
    | ok pair' =>
      obtain ⟨prompt', greet'⟩ := pair
      obtain ⟨stored, autosave'⟩ := pair'
      have made : (Except.ok ⟨prompt', greet', chosenFile folders choices stored, autosave'⟩ :
          Except Error Settings) = .ok ⟨prompt, greet, file, autosave⟩ ↔
          (prompt' = prompt ∧ greet' = greet) ∧ ∃ stored', (stored = stored' ∧ autosave' = autosave) ∧
            file = chosenFile folders choices stored' := by
        rw [Except.ok.injEq, Settings.mk.injEq]
        constructor
        · rintro ⟨rfl, rfl, rfl, rfl⟩
          exact ⟨⟨rfl, rfl⟩, stored, ⟨rfl, rfl⟩, rfl⟩
        · rintro ⟨⟨rfl, rfl⟩, _, ⟨rfl, rfl⟩, rfl⟩
          exact ⟨rfl, rfl, rfl, rfl⟩
      simp only [Except.ok.injEq, Prod.mk.injEq]
      exact made

/-- Each setting is settled on its own by the source that counts most among those that have it, and
there are no settings just when a group fails; the failure of the first group is the one told. -/
theorem load_iff_layers [LawfulReader] (d : Disk) (folders : Folders) (choices : Choices)
    (flat : ∀ group, IsFlat d (configPath folders choices) group) :
    let path := configPath folders choices
    (∀ s : Settings, load d folders choices = .ok s ↔
      (∀ e, ¬ Fails d path .cli e ∧ ¬ Fails d path .core e) ∧
        Settles d (Source d path .cli) "prompt" Reader.toText? "> " s.prompt ∧
        Settles d (Source d path .cli) "greet" Reader.toBool? true s.greet ∧
        Settles d (Source d path .core) "autosave" Reader.toBool? true s.autosave ∧
        ∃ stored, Settles d (Source d path .core) "data_file" Reader.toText? "" stored ∧
          s.dataFile = chosenFile folders choices stored) ∧
      ∀ e, load d folders choices = .error e ↔
        Fails d path .cli e ∨ (∀ e', ¬ Fails d path .cli e') ∧ Fails d path .core e := by
  intro path
  refine ⟨fun s => ?_, fun e => load_eq_error_iff flat⟩
  rw [load_eq_ok_iff, cliSettings_eq_ok_iff (flat .cli)]
  simp only [coreSettings_eq_ok_iff (flat .core)]
  constructor
  · rintro ⟨⟨noCli, prompt, greet⟩, stored, ⟨noCore, file, autosave⟩, chosen⟩
    exact ⟨fun e => ⟨noCli e, noCore e⟩, prompt, greet, autosave, stored, file, chosen⟩
  · rintro ⟨none, prompt, greet, autosave, stored, file, chosen⟩
    exact ⟨⟨fun e => (none e).1, prompt, greet⟩, stored, ⟨fun e => (none e).2, file, autosave⟩,
      chosen⟩

end Load

end Layers

section Formats

variable {d : Disk} {path : Path} {group : Group}

private theorem isFlat_of_entries (noFile : d.isFile path = false)
    (plain : ∀ f ∈ folderFiles d path group,
      ∀ e ∈ ((f.1.entries? (contentText (content d f.2))).getD []).map fun e => Key.setting e.1 e.2,
        e.2 ≠ .nested ∧ '.' ∉ e.1.toList ∧ '[' ∉ e.1.toList) : IsFlat d path group := by
  intro format file table source read key value has
  cases source with
  | alone isFile => rw [noFile] at isFile; cases isFile
  | inFolder _ stands =>
    have among := plain _ (mem_folderFiles_iff.mpr stands)
    rw [readTable, parse?_eq] at read
    cases said : format.entries? (contentText (content d file)) with
    | none =>
      rw [said] at read
      cases read
    | some entries =>
      rw [said] at read among
      obtain rfl := Except.ok.inj read
      exact among (key, value) (mem_of_lookup has)

/-- An old value that does not convert, in a format that counts less, and a group in two formats. -/
theorem load_of_masked_value :
    let d : Disk := ⟨[], [(["config"], .folder),
      (["config", "cli.json"], .file "\x7b\"greet\": \"maybe\", \"prompt\": \"$ \"\x7d".toUTF8),
      (["config", "cli.toml"], .file "greet = false\n".toUTF8),
      (["config", "core.toml"], .file "data_file = \"old.txt\"\nautosave = false\n".toUTF8),
      (["config", "core.ini"], .file "data_file=new.txt\n".toUTF8)], []⟩
    let folders : Folders := ⟨.ofText "/data", .ofText "/config"⟩
    (∀ group, IsFlat d folders.config group) ∧
      load d folders ⟨none, none⟩ = .ok ⟨"$ ", false, .ofText "new.txt", false⟩ ∧
      Settles d (Source d folders.config .cli) "greet" Reader.toBool? true false ∧
      ∀ e, ¬ Fails d folders.config .cli e := by
  intro d folders
  have flat (group : Group) : IsFlat d (configPath folders ⟨none, none⟩) group := by
    refine isFlat_of_entries (by decide +kernel) ?_
    cases group <;> decide +kernel
  have loaded : load d folders ⟨none, none⟩ = .ok ⟨"$ ", false, .ofText "new.txt", false⟩ := by
    decide +kernel
  obtain ⟨sound, _, greet, _⟩ := ((load_iff_layers d folders ⟨none, none⟩ flat).1 _).mp loaded
  exact ⟨flat, loaded, greet, fun e => (sound e).1⟩

/-- A folder in which the only file of a group has the extension twice. -/
theorem not_settles_of_added_extension :
    let d : Disk := ⟨[], [(["config"], .folder),
      (["config", "cli.toml.toml"], .file "prompt = \"x\"\n".toUTF8)], []⟩
    let folders : Folders := ⟨.ofText "/data", .ofText "/config"⟩
    let path := configPath folders ⟨none, none⟩
    let sources (format : Format) (file : Path) : Prop :=
      Source d path .cli format file ∧ (file = path ∨
        ∃ extension, (format, extension) ∈ folderFormats ∧ file = groupFile path .cli extension)
    ¬ ∀ s : Settings, load d folders ⟨none, none⟩ = .ok s →
      Settles d sources "prompt" Reader.toText? "> " s.prompt := by
  intro d folders path sources settles
  have loaded : load d folders ⟨none, none⟩ =
      .ok ⟨"x", true, .ofText "/data/tasks.txt", true⟩ := by decide +kernel
  have none (format : Format) (file : Path) : ¬ sources format file := by
    rintro ⟨source, rfl | ⟨extension, listed, rfl⟩⟩
    · have noFile : d.isFile path = false := by decide +kernel
      exact absurd source.isFile (by simp [noFile])
    · have noFile : ∀ f ∈ folderFormats, d.isFile (groupFile path .cli f.2) = false := by
        decide +kernel
      exact absurd source.isFile (by simp [noFile _ listed])
  rcases settles _ loaded with ⟨_, ⟨_, _, source, _⟩, _⟩ | ⟨_, same⟩
  · exact none _ _ source
  · exact absurd same (by decide)

end Formats

end Taskbook.Settings
