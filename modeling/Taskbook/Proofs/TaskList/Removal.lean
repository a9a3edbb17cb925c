import Taskbook.Proofs.Command.Numbering

/-! What a removal does to the tasks that are shown by a date. The entry of the task is gone, the
numbers behind it are one less, and nothing else moves: the entries that are left are sorted, and
there is one way to sort them. -/

set_option autoImplicit false

namespace Taskbook.TaskList

open Std

variable {texts : Text.Collation} {tasks : TaskList} {field : DateField} {entries : List Dated}
  {i : Nat}

/-- The tasks that a view by a date shows, each with the number in front of it. -/
def listing (texts : Text.Collation) (tasks : TaskList) (field : DateField) : List (Nat × Task) :=
  (tasks.numberedBy texts field).map fun entry => (entry.1 + 1, entry.2)

/-- Numbered tasks without the one that has a certain number; the numbers above it are one less. -/
def closeUp (number : Nat) (shown : List (Nat × Task)) : List (Nat × Task) :=
  (shown.filter fun entry => entry.1 ≠ number).map fun entry =>
    (if number < entry.1 then entry.1 - 1 else entry.1, entry.2)

/-- The lines of a view by a date, which says so if it shows none. -/
def listingText (field : DateField) (shown : List (Nat × Task)) : String :=
  if shown.isEmpty then "\nNo task has a date for '" ++ field.name ++ "'."
  else String.join (shown.map fun entry => "\n" ++ toString entry.1 ++ ". " ++ entry.2.render)

/-- The place that a task has when the one at place `i` is gone. -/
def lowered (i j : Nat) : Nat := if i < j then j - 1 else j

def Dated.lowered (i : Nat) (entry : Dated) : Dated :=
  { entry with index := TaskList.lowered i entry.index }

def without (i : Nat) (entries : List Dated) : List Dated :=
  (entries.filter fun entry => entry.index ≠ i).map (Dated.lowered i)

section Places

variable {j k : Nat}

private theorem lowered_lt_lowered (hj : j ≠ i) (hk : k ≠ i) (before : j < k) :
    lowered i j < lowered i k := by
  unfold lowered
  split <;> split <;> omega

private theorem getElem?_eraseIdx_lowered (tasks : TaskList) (hj : j ≠ i) :
    (tasks.eraseIdx i)[lowered i j]? = tasks[j]? := by
  unfold lowered
  rw [List.getElem?_eraseIdx]
  split
  · next behind =>
    rw [if_neg (by omega), Nat.sub_add_cancel (by omega)]
  · next before => rw [if_pos (by omega)]

private theorem exists_lowered_eq (i k : Nat) : ∃ j, j ≠ i ∧ lowered i j = k := by
  by_cases before : k < i
  · exact ⟨k, by omega, if_neg (by omega)⟩
  · exact ⟨k + 1, by omega, if_pos (by omega)⟩

end Places

private theorem mem_without_iff {entry : Dated} :
    entry ∈ without i entries ↔ ∃ old ∈ entries, old.index ≠ i ∧ old.lowered i = entry := by
  simp [without, and_assoc]

private theorem pairwise_without {R S : Dated → Dated → Prop} (h : entries.Pairwise R)
    (step : ∀ a b, a.index ≠ i → b.index ≠ i → R a b → S (a.lowered i) (b.lowered i)) :
    (without i entries).Pairwise S := by
  apply List.pairwise_map.mpr
  refine (h.filter _).imp_of_mem ?_
  intro a b memA memB related
  have apartA : a.index ≠ i := by simpa using (List.mem_filter.mp memA).2
  have apartB : b.index ≠ i := by simpa using (List.mem_filter.mp memB).2
  exact step a b apartA apartB related

/-- A sorted selection is one of the shorter list when the entry of the removed task is gone. -/
private theorem StableSelection.without [TransCmp texts]
    (h : StableSelection texts tasks field entries) (i : Nat) :
    StableSelection texts (tasks.eraseIdx i) field (without i entries) where
  lists entry := by
    rw [mem_without_iff]
    constructor
    · rintro ⟨old, mem, apart, rfl⟩
      obtain ⟨there, has⟩ := (h.lists old).mp mem
      exact ⟨(getElem?_eraseIdx_lowered tasks apart).trans there, has⟩
    · rintro ⟨there, has⟩
      obtain ⟨j, apart, same⟩ := exists_lowered_eq i entry.index
      rw [← same, getElem?_eraseIdx_lowered tasks apart] at there
      refine ⟨⟨j, entry.task, entry.date⟩, (h.lists _).mpr ⟨there, has⟩, apart, ?_⟩
      rw [Dated.lowered, same]
  once := by
    have apart : entries.Pairwise fun a b => a.index ≠ b.index := List.pairwise_map.mp h.once
    apply List.pairwise_map.mpr
    refine pairwise_without apart ?_
    intro a b ha hb differ
    rcases Nat.lt_or_gt_of_ne differ with before | behind
    · exact Nat.ne_of_lt (lowered_lt_lowered ha hb before)
    · exact Nat.ne_of_gt (lowered_lt_lowered hb ha behind)
  ordered := by
    refine (pairwise_without h.pairwise ?_).isChain
    intro a b _ _ first
    exact Ordering.ne_gt_iff_isLE.mpr first
  stable := by
    refine pairwise_without h.stable ?_
    intro a b ha hb stands tie
    exact lowered_lt_lowered ha hb (stands tie)

private theorem sortedBy_eraseIdx [TransCmp texts] (tasks : TaskList) (field : DateField)
    (i : Nat) :
    sortedBy texts (tasks.eraseIdx i) field = without i (tasks.sortedBy texts field) :=
  (stableSelection_sortedBy (tasks.eraseIdx i) field).unique
    ((stableSelection_sortedBy tasks field).without i)

private theorem listing_eraseIdx [TransCmp texts] (tasks : TaskList) (field : DateField) (i : Nat) :
    listing texts (tasks.eraseIdx i) field = closeUp (i + 1) (tasks.listing texts field) := by
  have renumber (entry : Dated) :
      (lowered i entry.index + 1, entry.task) =
        (if i + 1 < entry.index + 1 then entry.index + 1 - 1 else entry.index + 1, entry.task) := by
    rw [lowered]
    split <;> split <;> congr 1 <;> omega
  unfold listing closeUp numberedBy
  rw [sortedBy_eraseIdx, without]
  simp only [List.map_map, List.filter_map]
  refine congrArg₂ List.map ?_ ?_
  · funext entry
    exact renumber entry
  · refine List.filter_congr ?_
    intro entry _
    simp

private theorem view_eq_listingText [Text.HasCollation] {name : String}
    (named : name = field.name ∨ name = field.parameterName) (tasks : TaskList) :
    tasks.view (.byDate name) = .ok (listingText field (tasks.listing Text.collation field)) := by
  rw [view_byDate (DateField.ofName?_eq_some_iff.mpr named), listingText, listing, numberedByDate]
  rw [entriesText, List.map_map, List.isEmpty_map]
  split <;> rfl

/-- Deleting a task takes its entry out of every view by a date and lowers the numbers above its own;
the entries that are left stay in their order. -/
theorem listing_delete [Text.HasCollation] [TransCmp Text.collation] (tasks : TaskList)
    (field : DateField) (number : TaskNumber) (valid : 1 ≤ number.value ∧ number.value ≤ tasks.length) :
    ∃ response rest, (Command.delete number).execute tasks = .ok (response, rest) ∧
      rest.listing Text.collation field =
          closeUp number.value.toNat (tasks.listing Text.collation field) ∧
      ∀ name, name = field.name ∨ name = field.parameterName →
        tasks.view (.byDate name) =
            .ok (listingText field (tasks.listing Text.collation field)) ∧
          rest.view (.byDate name) = .ok (listingText field
            (closeUp number.value.toNat (tasks.listing Text.collation field))) := by
  obtain ⟨atLeast, atMost⟩ := valid
  let place : Fin tasks.length := ⟨(number.value - 1).toNat, by omega⟩
  have counted : number.value = place.val + 1 := by
    change number.value = ((number.value - 1).toNat : Int) + 1
    omega
  have deleted := (TaskNumber.addresses_of_value counted).delete
  have same : number.value.toNat = place.val + 1 := by omega
  refine ⟨_, _, deleted, ?_, ?_⟩
  · rw [same, listing_eraseIdx]
  · intro name named
    refine ⟨view_eq_listingText named tasks, ?_⟩
    rw [view_eq_listingText named, same, listing_eraseIdx]

/-- Two spellings of one day tie; the first of them is deleted, and a task without a date is moved. -/
theorem listing_delete_of_tied_spellings :
    let tasks : TaskList := [.deadline "a" "2024-10-01", .todo "b", .deadline "c" "soon",
      .deadline "d" "oct 1 2024", .deadline "e" "30/9/2024"]
    let number : TaskNumber := ⟨1, by decide, by decide⟩
    TransCmp Text.compareTexts ∧ (1 ≤ number.value ∧ number.value ≤ tasks.length) ∧
      tasks.listing Text.compareTexts .due = [(5, .deadline "e" "30/9/2024"),
        (1, .deadline "a" "2024-10-01"), (4, .deadline "d" "oct 1 2024"),
        (3, .deadline "c" "soon")] ∧
      ∃ response rest, (Command.delete number).execute tasks = .ok (response, rest) ∧
        rest.listing Text.compareTexts .due = [(4, .deadline "e" "30/9/2024"),
          (3, .deadline "d" "oct 1 2024"), (2, .deadline "c" "soon")] := by
  intro tasks number
  have valid : 1 ≤ number.value ∧ number.value ≤ tasks.length := by decide
  let entries : List Dated := [⟨4, .deadline "e" "30/9/2024", "30/9/2024"⟩,
    ⟨0, .deadline "a" "2024-10-01", "2024-10-01"⟩, ⟨3, .deadline "d" "oct 1 2024", "oct 1 2024"⟩,
    ⟨2, .deadline "c" "soon", "soon"⟩]
  have selected : StableSelection Text.compareTexts tasks .due entries :=
    .of_perm (by decide +kernel) (by decide +kernel) (by decide +kernel)
  have before : tasks.listing Text.compareTexts .due = [(5, .deadline "e" "30/9/2024"),
      (1, .deadline "a" "2024-10-01"), (4, .deadline "d" "oct 1 2024"),
      (3, .deadline "c" "soon")] := by
    rw [listing, numberedBy, (stableSelection_sortedBy tasks .due).unique selected]
    rfl
  obtain ⟨response, rest, deleted, listed, _⟩ :=
    @listing_delete Text.lexical (inferInstanceAs (TransCmp Text.compareTexts)) tasks .due number
      valid
  refine ⟨inferInstance, valid, before, response, rest, deleted, ?_⟩
  refine listed.trans ?_
  rw [show tasks.listing Text.collation .due = _ from before]
  decide

end Taskbook.TaskList
