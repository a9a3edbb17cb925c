import Taskbook.Proofs.Disk.Name
import Taskbook.Proofs.Settings.Layers

/-! Settings files that were written by the program. What they say is what holds without them, so
settings read from them are the usual ones, unless a format that counts more has a file as well. -/

set_option autoImplicit false

namespace Taskbook.Settings

open Disk

variable {d d' : Disk} {k k' : Sink} {folder file : Path} {group : Group} {groups : List Group}
  {format : Format} {name : String} {bytes : ByteArray}

def Group.writtenName (group : Group) : String := group.name ++ "." ++ "toml"

/-- A disk on which the files of some groups were written into a folder. -/
structure Written (d : Disk) (folder : Path) (groups : List Group) (d' : Disk) : Prop where
  kept : FoldersKept d d'
  opens : groups ≠ [] → d'.Opens folder
  files : ∀ group ∈ groups,
    d'.find (d.place folder ++ [group.writtenName]) = some (.file group.defaultText.toUTF8)
  others : ∀ l, (∀ group ∈ groups, l ≠ d.place folder ++ [group.writtenName]) →
    d'.find l = d.find l ∨ d.find l = none ∧ d'.find l = some .folder

section Writing

private theorem toml_listed : (Format.toml, "toml") ∈ folderFormats := by decide

private theorem groupFile_eq {f : Format × String} (listed : f ∈ folderFormats) (folder : Path)
    (group : Group) : groupFile folder group f.2 = folder.join ⟨[group.name ++ "." ++ f.2]⟩ := by
  have table : ∀ f ∈ folderFormats,
      Path.ofText (group.name ++ "." ++ f.2) = ⟨[group.name ++ "." ++ f.2]⟩ := by
    cases group <;> decide +kernel
  rw [groupFile, table f listed]

private theorem groupFile_toml (folder : Path) (group : Group) :
    groupFile folder group "toml" = folder.join ⟨[group.writtenName]⟩ :=
  groupFile_eq toml_listed folder group

private theorem writtenName_solid (group : Group) :
    Path.isIdle group.writtenName = false ∧ group.writtenName ≠ ".." := by
  cases group <;> decide

private theorem writtenName_inj {group' : Group} (same : group.writtenName = group'.writtenName) :
    group = group' := by
  have distinct : Group.cli.writtenName ≠ Group.core.writtenName := by decide
  cases group with
  | cli =>
    cases group' with
    | cli => rfl
    | core => exact absurd same distinct
  | core =>
    cases group' with
    | cli => exact absurd same.symm distinct
    | core => rfl

private theorem defaultText_filled (group : Group) : group.defaultText.toUTF8.isEmpty = false := by
  cases group <;> decide +kernel

private theorem of_generateFile_ok (h : generateFile d folder group = (.ok (), d')) :
    Written d folder [group] d' := by
  obtain ⟨solid, stays⟩ := writtenName_solid group
  have filled := defaultText_filled group
  rw [generateFile_eq] at h
  split at h
  · cases h
  · next d₁ made =>
    obtain rfl : (d.makeFolders (d.origin folder) folder.steps).2 = d₁ := congrArg Prod.snd made
    have kept := foldersKept_makeFolders d (d.origin folder) folder.steps
    split at h
    · next d₂ write =>
      obtain rfl : d₂ = d' := (Prod.mk.inj h).2
      obtain ⟨l, located, noFolder, here, elsewhere, there⟩ := of_write_ok write
      rw [groupFile_toml, locate_join_iff solid stays, place_eq_of_here_eq kept.here_eq] at located
      obtain ⟨opens, rfl⟩ := located
      have kept' := FoldersKept.of_elsewhere here noFolder elsewhere
      refine ⟨kept.trans kept', fun _ => opens.of_foldersKept kept', ?_, ?_⟩
      · intro group' mem
        obtain rfl := List.mem_singleton.mp mem
        exact there.resolve_right fun device => Bool.false_ne_true (filled.symm.trans device.1)
      · intro m apart
        rw [elsewhere m (apart group (List.mem_singleton_self group))]
        exact find_makeFolders d _ _ m
    all_goals cases h

private theorem Written.cons {d₁ : Disk} (first : Written d folder [group] d₁)
    (rest : Written d₁ folder groups d') : Written d folder (group :: groups) d' := by
  have place := place_eq_of_here_eq first.kept.here_eq folder
  have written := first.files group (List.mem_singleton_self group)
  refine ⟨first.kept.trans rest.kept, fun _ => (first.opens (by simp)).of_foldersKept rest.kept,
    ?_, ?_⟩
  · intro group' mem
    by_cases again : group' ∈ groups
    · rw [← place]
      exact rest.files group' again
    · obtain rfl := (List.mem_cons.mp mem).resolve_right again
      have apart : ∀ other ∈ groups,
          d.place folder ++ [group'.writtenName] ≠ d₁.place folder ++ [other.writtenName] := by
        rintro other among same
        rw [place] at same
        obtain rfl := writtenName_inj (List.singleton_inj.mp (List.append_cancel_left same))
        exact again among
      rcases rest.others _ apart with same | ⟨vacant, _⟩
      · exact same.trans written
      · rw [vacant] at written
        cases written
  · intro l apart
    have behind := rest.others l fun other among => by
      rw [place]
      exact apart other (List.mem_cons_of_mem _ among)
    have front := first.others l fun other among => by
      rw [List.mem_singleton.mp among]
      exact apart group List.mem_cons_self
    rcases behind with same | ⟨vacant, made⟩
    · rw [same]
      exact front
    · rcases front with same | ⟨_, made'⟩
      · exact .inr ⟨same.symm.trans vacant, made⟩
      · rw [made'] at vacant
        cases vacant

private theorem of_generateGroups_done (h : generateGroups d k folder groups = (.done, d', k')) :
    Written d folder groups d' := by
  induction groups generalizing d k with
  | nil =>
    obtain ⟨_, rfl, _⟩ : GenerateEnd.done = .done ∧ d = d' ∧ k = k' := by
      simpa [generateGroups_nil] using h
    exact ⟨⟨rfl, id⟩, fun none => absurd rfl none, by simp, fun l _ => .inl rfl⟩
  | cons group groups ih =>
    rw [generateGroups_cons] at h
    split at h
    · cases h
    · next d₁ generated =>
      split at h
      · cases h
      · next k₁ _ =>
        exact (of_generateFile_ok generated).cons (ih h)

private theorem Written.find_eq (written : Written d folder groups d') {name : String}
    (apart : ∀ group : Group, name ≠ group.writtenName)
    (found : d'.find (d'.place folder ++ [name]) = some (.file bytes)) :
    d.find (d.place folder ++ [name]) = some (.file bytes) := by
  rw [place_eq_of_here_eq written.kept.here_eq] at found
  have other : ∀ group ∈ groups,
      d.place folder ++ [name] ≠ d.place folder ++ [group.writtenName] :=
    fun group _ same => apart group (List.singleton_inj.mp (List.append_cancel_left same))
  rcases written.others _ other with same | ⟨_, made⟩
  · rw [← same, found]
  · rw [made] at found
    cases found

private theorem Written.lookup_toml (written : Written d folder groups d') (mem : group ∈ groups) :
    d'.lookup (groupFile folder group "toml") = some (.file group.defaultText.toUTF8) := by
  obtain ⟨solid, stays⟩ := writtenName_solid group
  have opens := written.opens (List.ne_nil_of_mem mem)
  rw [groupFile_toml, opens.lookup_join solid stays, place_eq_of_here_eq written.kept.here_eq]
  exact written.files group mem

end Writing

section Reading

private theorem content_of_lookup (found : d.lookup file = some (.file bytes)) :
    content d file = bytes := by
  rw [content, read_of_lookup_file found]
  rfl

variable [Reader]

/-- A name that a group's file in a format can have: the proper one, or that with an extension of the
format behind it. -/
def IsName (group : Group) (format : Format) (extension name : String) : Prop :=
  name = group.name ++ "." ++ extension ∨ ∃ added, Reader.formatOf? added = some format ∧
    name = group.name ++ "." ++ extension ++ "." ++ added

/-- A folder has no settings file in the format that counts most, and those that it has in formats
that are not written keep to their formats. -/
structure Yields (d : Disk) (folder : Path) : Prop where
  noIni : ∀ group name, IsName group .ini "ini" name → ∀ bytes,
    d.find (d.place folder ++ [name]) ≠ some (.file bytes)
  sound : ∀ group, ∀ f ∈ folderFormats, f.1 ≠ .toml → ∀ name, IsName group f.1 f.2 name → ∀ bytes,
    d.find (d.place folder ++ [name]) = some (.file bytes) → Reader.parse? f.1 bytes ≠ none

private theorem IsName.exists_append {extension : String}
    (named : IsName group format extension name) :
    ∃ added, name = group.name ++ "." ++ extension ++ added := by
  rcases named with rfl | ⟨added, _, rfl⟩
  · exact ⟨"", String.append_empty.symm⟩
  · exact ⟨"." ++ added, String.append_assoc⟩

private theorem IsName.solid {extension : String} (named : IsName group format extension name) :
    Path.isIdle name = false ∧ name ≠ ".." := by
  have letter : name.toList.head? = some 'c' := by
    obtain ⟨added, rfl⟩ := named.exists_append
    cases group <;> simp [Group.name, String.toList_append]
  have ne {other : String} (differs : other.toList.head? ≠ some 'c') : name ≠ other := by
    rintro rfl
    exact differs letter
  rw [Path.isIdle, Bool.or_eq_false_iff, decide_eq_false_iff_not, decide_eq_false_iff_not]
  exact ⟨⟨ne (by decide), ne (by decide)⟩, ne (by decide)⟩

private theorem IsName.prefix {extension : String} (named : IsName group format extension name) :
    (group.name ++ "." ++ extension).toList <+: name.toList := by
  obtain ⟨added, rfl⟩ := named.exists_append
  exact ⟨added.toList, String.toList_append.symm⟩

private theorem IsName.ne_writtenName {f : Format × String} (named : IsName group f.1 f.2 name)
    (listed : f ∈ folderFormats) (other : f.1 ≠ .toml) (group' : Group) :
    name ≠ group'.writtenName := by
  have table : ∀ f ∈ folderFormats, f.1 ≠ .toml →
      ¬ (group.name ++ "." ++ f.2).toList <+: group'.writtenName.toList := by
    cases group <;> cases group' <;> decide +kernel
  rintro rfl
  exact table f listed other named.prefix

private theorem exists_isName_of_find? [LawfulReader] {f : Format × String}
    (listed : f ∈ folderFormats) (opens : d.Opens folder)
    (found : Reader.find? d.isFile f.1 (groupFile folder group f.2) = some file) :
    ∃ name bytes, IsName group f.1 f.2 name ∧ content d file = bytes ∧
      d.find (d.place folder ++ [name]) = some (.file bytes) := by
  obtain ⟨isFile, among⟩ := LawfulReader.of_find? found
  obtain ⟨name, named, rfl⟩ : ∃ name, IsName group f.1 f.2 name ∧ file = folder.join ⟨[name]⟩ := by
    rw [groupFile_eq listed] at among
    rcases LawfulReader.of_mem_candidates among with rfl | ⟨added, of, rfl⟩
    · exact ⟨_, .inl rfl, rfl⟩
    · exact ⟨_, .inr ⟨added, of, rfl⟩, Path.addExtension_join ..⟩
  rw [Disk.isFile] at isFile
  split at isFile
  · next bytes there =>
    refine ⟨name, bytes, named, content_of_lookup there, ?_⟩
    rw [← opens.lookup_join named.solid.1 named.solid.2, there]
  · cases isFile

private theorem Group.isFlat_defaults [LawfulReader] (group : Group) :
    Table.IsFlat fun key => group.defaults.lookup key := by
  intro key value there
  have among := mem_of_lookup there
  cases group
  all_goals
    rw [Group.defaults, List.mem_pair, Prod.mk.injEq, Prod.mk.injEq] at among
    rcases among with ⟨rfl, rfl⟩ | ⟨rfl, rfl⟩
    · exact ⟨LawfulReader.isPlain_ofText _, by decide, by decide⟩
    · exact ⟨LawfulReader.isPlain_ofBool _, by decide, by decide⟩

namespace Written

variable [LawfulReader]

/-- Of the formats that are not written, none that counts more has a file, and what the others have
keeps to its format. -/
private theorem of_find?_eq_some (written : Written d folder groups d') (yields : Yields d folder)
    (opens : d'.Opens folder) {f : Format × String} (listed : f ∈ folderFormats)
    (other : f.1 ≠ .toml)
    (found : Reader.find? d'.isFile f.1 (groupFile folder group f.2) = some file) :
    f.1 ≠ .ini ∧ Reader.parse? f.1 (content d' file) ≠ none := by
  obtain ⟨name, bytes, named, said, there⟩ := exists_isName_of_find? listed opens found
  have before := written.find_eq (named.ne_writtenName listed other) there
  constructor
  · intro isIni
    have only : ∀ f ∈ folderFormats, f.1 = .ini → f = (.ini, "ini") := by decide
    obtain rfl := only f listed isIni
    exact yields.noIni group name named bytes before
  · rw [said]
    exact yields.sound group f listed other name named bytes before

/-- The file that was written for a group is the last one that its settings are read from. -/
private theorem exists_folderFiles_eq (written : Written d folder groups d')
    (yields : Yields d folder) (mem : group ∈ groups) : ∃ front : List (Format × Path),
      folderFiles d' folder group = front ++ [(.toml, groupFile folder group "toml")] ∧
        ∀ f ∈ front, Reader.parse? f.1 (content d' f.2) ≠ none := by
  have opens := written.opens (List.ne_nil_of_mem mem)
  have isFile : d'.isFile (groupFile folder group "toml") = true := by
    rw [isFile, written.lookup_toml mem]
  have noIni : Reader.find? d'.isFile .ini (groupFile folder group "ini") = none := by
    rw [Option.eq_none_iff_forall_ne_some]
    intro file found
    exact (written.of_find?_eq_some yields opens (f := (.ini, "ini")) (by decide) (by decide)
      found).1 rfl
  let less := folderFormats.take 3
  refine ⟨less.filterMap fun f =>
    (Reader.find? d'.isFile f.1 (groupFile folder group f.2)).map fun file => (f.1, file), ?_, ?_⟩
  · have split : folderFormats = less ++ [(.toml, "toml"), (.ini, "ini")] := rfl
    rw [folderFiles, split, List.filterMap_append]
    simp [LawfulReader.find?_of_isFile _ isFile, noIni]
  · intro f mem
    obtain ⟨g, among, some⟩ := List.mem_filterMap.mp mem
    obtain ⟨file, found, rfl⟩ := Option.map_eq_some_iff.mp some
    have other : ∀ g ∈ less, g.1 ≠ .toml := by decide
    exact (written.of_find?_eq_some yields opens (List.mem_of_mem_take among) (other g among)
      found).2

private theorem exists_groupTable [ReadsDefaults] (written : Written d folder groups d')
    (yields : Yields d folder) (mem : group ∈ groups) :
    ∃ table, groupTable d' folder group = .ok table ∧
      ∀ key value, group.defaults.lookup key = some value → table key = some value := by
  obtain ⟨front, files, sound⟩ := written.exists_folderFiles_eq yields mem
  have read : readTable d' (groupFile folder group "toml") .toml =
      .ok fun key => group.defaults.lookup key := by
    rw [readTable, content_of_lookup (written.lookup_toml mem), ReadsDefaults.parse?_defaultText]
  obtain ⟨tables, rest⟩ : ∃ tables, (front.mapM fun f => readTable d' f.2 f.1) = .ok tables := by
    cases rest : front.mapM fun f => readTable d' f.2 f.1 with
    | error e =>
      obtain ⟨_, f, mem, broken⟩ := mapM_readTable_eq_error_iff.mp rest
      exact absurd broken (sound f mem)
    | ok tables => exact ⟨tables, rfl⟩
  refine ⟨Reader.merge (tables ++ [fun key => group.defaults.lookup key]), ?_, ?_⟩
  · have listed : groupFiles d' folder group =
        .ok (front ++ [(.toml, groupFile folder group "toml")]) := by
      rw [groupFiles, (written.opens (List.ne_nil_of_mem mem)).isFile, files]
      rfl
    rw [groupTable, listed]
    simp [bind, Except.bind, pure, Except.pure, List.mapM_append, rest, read]
  · intro key value there
    rw [LawfulReader.merge_append tables group.isFlat_defaults, there]
    rfl

end Written

private theorem cliSettings_of_written [LawfulReader] [ReadsDefaults]
    (written : Written d folder groups d') (yields : Yields d folder) (mem : Group.cli ∈ groups) :
    cliSettings d' folder = .ok ("> ", true) := by
  obtain ⟨table, made, holds⟩ := written.exists_groupTable yields mem
  have prompt : setting table "prompt" Reader.toText? "> " = .ok "> " :=
    setting_eq_ok_iff.mpr (.inl ⟨_, holds "prompt" _ rfl, LawfulReader.toText?_ofText _⟩)
  have greet : setting table "greet" Reader.toBool? true = .ok true :=
    setting_eq_ok_iff.mpr (.inl ⟨_, holds "greet" _ rfl, LawfulReader.toBool?_ofBool _⟩)
  rw [cliSettings, made]
  simp only [bind, Except.bind, prompt, greet]
  rfl

private theorem coreSettings_of_written [LawfulReader] [ReadsDefaults]
    (written : Written d folder groups d') (yields : Yields d folder) (mem : Group.core ∈ groups) :
    coreSettings d' folder = .ok ("", true) := by
  obtain ⟨table, made, holds⟩ := written.exists_groupTable yields mem
  have dataFile : setting table "data_file" Reader.toText? "" = .ok "" :=
    setting_eq_ok_iff.mpr (.inl ⟨_, holds "data_file" _ rfl, LawfulReader.toText?_ofText _⟩)
  have autosave : setting table "autosave" Reader.toBool? true = .ok true :=
    setting_eq_ok_iff.mpr (.inl ⟨_, holds "autosave" _ rfl, LawfulReader.toBool?_ofBool _⟩)
  rw [coreSettings, made]
  simp only [bind, Except.bind, dataFile, autosave]
  rfl

/-- Settings files that were just written give the usual settings, unless there is a file in the
format that counts more; and nothing but these files and folders was made or changed. -/
theorem load_of_generate [LawfulReader] [ReadsDefaults] (d d' : Disk) (k k' : Sink)
    (folders : Folders) (choices : Choices) (unasked : choices.dataFile = none)
    (yields : Yields d (configPath folders choices))
    (done : generate d k (configPath folders choices) = (.done, d', k')) :
    load d' folders choices = .ok ⟨"> ", true, folders.taskFile, true⟩ ∧
      ∀ l, d'.find l = d.find l ∨ d.find l = none ∧ d'.find l = some .folder ∨
        l = d.place (configPath folders choices) ++ ["cli.toml"] ∨
        l = d.place (configPath folders choices) ++ ["core.toml"] := by
  have written := of_generateGroups_done done
  have names : Group.cli.writtenName = "cli.toml" ∧ Group.core.writtenName = "core.toml" := by decide
  constructor
  · rw [load_eq_ok_iff]
    refine ⟨cliSettings_of_written written yields (by simp), "",
      coreSettings_of_written written yields (by simp), ?_⟩
    rw [chosenFile, unasked]
    rfl
  · intro l
    by_cases cli : l = d.place (configPath folders choices) ++ ["cli.toml"]
    · exact .inr (.inr (.inl cli))
    by_cases core : l = d.place (configPath folders choices) ++ ["core.toml"]
    · exact .inr (.inr (.inr core))
    · have apart : ∀ group ∈ [Group.core, Group.cli],
          l ≠ d.place (configPath folders choices) ++ [group.writtenName] := by
        rintro (_ | _) _
        · rwa [names.1]
        · rwa [names.2]
      exact (written.others l apart).imp_right .inl

end Reading

section Formats

/-- Old values and a value that does not convert, in formats that count less. -/
theorem load_of_generate_over_old_files :
    let folders : Folders := ⟨.ofText "/data", .ofText "/config"⟩
    let choices : Choices := ⟨none, none⟩
    let json := "\x7b\"greet\": null\x7d".toUTF8
    let d : Disk := ⟨[], [(["config"], .folder), (["config", "cli.json"], .file json),
      (["config", "cli.toml"], .file "prompt = 5\n".toUTF8)], []⟩
    ∃ d' k', choices.dataFile = none ∧ Yields d (configPath folders choices) ∧
      generate d .unlimited (configPath folders choices) = (.done, d', k') ∧
      load d' folders choices = .ok ⟨"> ", true, folders.taskFile, true⟩ := by
  intro folders choices json d
  have files {name : String} {bytes : ByteArray}
      (found : d.find (d.place (configPath folders choices) ++ [name]) = some (.file bytes)) :
      name = "cli.json" ∧ bytes = json ∨ name = "cli.toml" := by
    have place : d.place (configPath folders choices) = ["config"] := by decide +kernel
    rw [place, Disk.find] at found
    obtain ⟨e, isFirst, same⟩ := Option.map_eq_some_iff.mp found
    have named := List.find?_some isFirst
    have among := List.mem_of_find?_eq_some isFirst
    simp only [d, List.mem_cons, List.not_mem_nil, or_false] at among
    rcases among with rfl | rfl | rfl
    · cases same
    · cases same
      exact .inl ⟨by simpa using (of_decide_eq_true named).symm, rfl⟩
    · exact .inr (by simpa using (of_decide_eq_true named).symm)
  have isJson : ∀ group, ∀ f ∈ folderFormats, ∀ name ∈ ["cli.json", "cli.toml"], f.1 ≠ .toml →
      (Group.name group ++ "." ++ f.2).toList <+: name.toList → f.1 = .json := by
    rintro (_ | _) <;> decide +kernel
  have yields : Yields d (configPath folders choices) := by
    constructor
    · intro group name named bytes found
      have among : name ∈ ["cli.json", "cli.toml"] := by
        rcases files found with ⟨rfl, _⟩ | rfl <;> simp
      exact absurd (isJson group (.ini, "ini") (by decide) name among (by decide) named.prefix)
        (by decide)
    · intro group f listed other name named bytes found
      rcases files found with ⟨rfl, rfl⟩ | rfl
      · rw [isJson group f listed _ (by simp) other named.prefix]
        decide +kernel
      · exact absurd rfl (named.ne_writtenName listed other .cli)
  have ends : (generate d .unlimited (configPath folders choices)).1 = .done := by decide +kernel
  rcases done : generate d .unlimited (configPath folders choices) with ⟨e, d', k'⟩
  rw [done] at ends
  obtain rfl : e = .done := ends
  obtain ⟨loaded, _⟩ := load_of_generate d d' .unlimited k' folders choices rfl yields done
  exact ⟨d', k', rfl, yields, rfl, loaded⟩

/-- A file whose name has the extension twice, where there is none with the proper name, counts more
than those that were written. -/
theorem not_load_of_generate_of_added_extension :
    let folders : Folders := ⟨.ofText "/data", .ofText "/config"⟩
    let d : Disk := ⟨[], [(["config"], .folder),
      (["config", "cli.ini.ini"], .file "prompt=x\n".toUTF8)], []⟩
    (generate d .unlimited folders.config).1 = .done ∧
      (∀ group, d.lookup (groupFile folders.config group "ini") = none) ∧
      Reader.parse? .ini "prompt=x\n".toUTF8 ≠ none ∧
      load (generate d .unlimited folders.config).2.1 folders ⟨none, none⟩ ≠
        .ok ⟨"> ", true, folders.taskFile, true⟩ := by
  intro folders d
  refine ⟨by decide +kernel, by rintro (_ | _) <;> decide +kernel, by decide +kernel, ?_⟩
  intro loaded
  have prompt : cliSettings (generate d .unlimited folders.config).2.1 folders.config =
      .ok ("x", true) := by decide +kernel
  have usual := (load_eq_ok_iff.mp loaded).1
  rw [show configPath folders ⟨none, none⟩ = folders.config from rfl, prompt] at usual
  exact absurd usual (by decide)

end Formats

end Taskbook.Settings
