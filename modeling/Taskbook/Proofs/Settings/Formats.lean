import Taskbook.Proofs.Text.Bytes
import Taskbook.Settings.Defaults
import Taskbook.Settings.Formats

/-! The reader from grammars is one that the settings can rely on. -/

set_option autoImplicit false

namespace Taskbook.Settings

private theorem ofExtension?_of_mem {format : Format} {extension : String}
    (mem : extension ∈ format.extensions) : Format.ofExtension? extension = some format := by
  have table : ∀ extension ∈ format.extensions, Format.ofExtension? extension = some format := by
    cases format <;> decide +kernel
  exact table extension mem

theorem parse?_eq (format : Format) (bytes : ByteArray) :
    Reader.parse? format bytes = (format.entries? (contentText bytes)).map
      fun entries key => (entries.map fun e => Key.setting e.1 e.2).lookup key := rfl

instance : LawfulReader where
  isPlain_ofText _ := Value.noConfusion
  isPlain_ofBool _ := Value.noConfusion
  toText?_ofText _ := rfl
  toBool?_ofBool _ := rfl
  find?_of_isFile _ here := List.find?_cons_of_pos here
  of_find? found := ⟨List.find?_some found, List.mem_of_find?_eq_some found⟩
  of_mem_candidates mem := by
    refine (List.mem_cons.mp mem).imp_right fun added => ?_
    obtain ⟨extension, among, rfl⟩ := List.mem_map.mp added
    exact ⟨extension, ofExtension?_of_mem among, rfl⟩
  merge_nil _ := rfl
  merge_append tables table _ key := by
    change (tables ++ [table]).reverse.findSome? _ = _
    rw [List.reverse_append, List.reverse_singleton, List.singleton_append, List.findSome?_cons]
    cases table key <;> rfl

private theorem lookup_swap {α : Type} {a b : String} (apart : a ≠ b) (x y : α) (key : String) :
    [(a, x), (b, y)].lookup key = [(b, y), (a, x)].lookup key := by
  by_cases isFirst : key = a
  · subst isFirst
    simp [List.lookup_cons, beq_eq_false_iff_ne.mpr apart]
  · simp [List.lookup_cons, beq_eq_false_iff_ne.mpr isFirst]

private theorem entries?_defaultText (group : Group) :
    Format.toml.entries? group.defaultText = some group.defaults.reverse ∧
      group.defaultText.toList.head? = some '#' := by
  -- The texts are opened into their characters first, as strings are slow to compute with.
  cases group
  all_goals
    simp only [Format.entries?]
    delta Group.defaultText
    dsimp only
    simp only [String.toList_append, String.reduceToList]
    decide +kernel

instance : ReadsDefaults where
  parse?_defaultText group := by
    obtain ⟨parsed, first⟩ := entries?_defaultText group
    have text : contentText group.defaultText.toUTF8 = group.defaultText := by
      rw [contentText, Text.lossyText, Text.fromUTF8?_toUTF8]
      exact if_neg (by rw [first]; decide)
    have plain : ((group.defaults.reverse : Entries).map fun e => Key.setting e.1 e.2) =
        (group.defaults.reverse : Entries) := by
      cases group <;> decide +kernel
    rw [parse?_eq, text, parsed]
    refine congrArg some (funext fun key => (congrArg (List.lookup key) plain).trans ?_)
    cases group with
    | cli => exact lookup_swap (by decide) ..
    | core => exact lookup_swap (by decide) ..

end Taskbook.Settings
