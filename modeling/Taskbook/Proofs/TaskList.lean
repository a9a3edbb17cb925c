import Taskbook.TaskList
import Taskbook.Proofs.Date.Order
import Mathlib.Data.List.Nodup
import Mathlib.Data.List.TakeWhile

/-! The tasks that have a date, by that date. There is one list that holds each of them once, under
its position, sorted, and with ties in the order of positions; sorting gives this list. -/

set_option autoImplicit false

namespace Taskbook.TaskList

open Std

variable {texts : Text.Collation} {tasks : TaskList} {field : DateField} {entry : Dated}
  {entries entries' : List Dated}

section Entries

private theorem mem_dated_iff : entry ∈ tasks.dated field ↔
    tasks[entry.index]? = some entry.task ∧ entry.task.date? field = some entry.date := by
  unfold dated
  rw [List.mem_filterMap]
  constructor
  · rintro ⟨⟨task, index⟩, mem, made⟩
    obtain ⟨date, has, rfl⟩ := Option.map_eq_some_iff.mp made
    exact ⟨List.mk_mem_zipIdx_iff_getElem?.mp mem, has⟩
  · rintro ⟨there, has⟩
    exact ⟨(entry.task, entry.index), List.mk_mem_zipIdx_iff_getElem?.mpr there, by simp [has]⟩

private theorem pairwise_index_dated (tasks : TaskList) (field : DateField) :
    (tasks.dated field).Pairwise fun a b => a.index < b.index := by
  have places : tasks.zipIdx.Pairwise fun a b => a.2 < b.2 := by
    apply List.pairwise_map.mp
    rw [List.zipIdx_map_snd]
    exact List.pairwise_lt_range'
  apply List.pairwise_filterMap.mpr
  apply places.imp
  rintro ⟨_, i⟩ ⟨_, j⟩ before entry made entry' made'
  obtain ⟨_, _, rfl⟩ := Option.map_eq_some_iff.mp made
  obtain ⟨_, _, rfl⟩ := Option.map_eq_some_iff.mp made'
  exact before

private theorem nodup_index_dated (tasks : TaskList) (field : DateField) :
    ((tasks.dated field).map Dated.index).Nodup :=
  List.pairwise_map.mpr ((pairwise_index_dated tasks field).imp Nat.ne_of_lt)

private theorem perm_sortedBy (texts : Text.Collation) (tasks : TaskList) (field : DateField) :
    (tasks.sortedBy texts field).Perm (tasks.dated field) := List.mergeSort_perm _ _

theorem mem_numberedBy_iff {i : Nat} {task : Task} :
    (i, task) ∈ tasks.numberedBy texts field ↔
      tasks[i]? = some task ∧ (task.date? field).isSome = true := by
  unfold numberedBy
  rw [List.mem_map]
  constructor
  · rintro ⟨entry, mem, same⟩
    obtain ⟨rfl, rfl⟩ := Prod.mk.inj same
    have found := mem_dated_iff.mp ((perm_sortedBy texts tasks field).mem_iff.mp mem)
    exact ⟨found.1, Option.isSome_iff_exists.mpr ⟨_, found.2⟩⟩
  · rintro ⟨there, has⟩
    obtain ⟨date, has⟩ := Option.isSome_iff_exists.mp has
    have mem : (⟨i, task, date⟩ : Dated) ∈ tasks.dated field := mem_dated_iff.mpr ⟨there, has⟩
    exact ⟨_, (perm_sortedBy texts tasks field).mem_iff.mpr mem, rfl⟩

theorem nodup_numberedBy (texts : Text.Collation) (tasks : TaskList) (field : DateField) :
    ((tasks.numberedBy texts field).map Prod.fst).Nodup := by
  have indices : (tasks.numberedBy texts field).map Prod.fst =
      (tasks.sortedBy texts field).map Dated.index := by
    simp [numberedBy]
  rw [indices, ((perm_sortedBy texts tasks field).map Dated.index).nodup_iff]
  exact nodup_index_dated tasks field

end Entries

/-- The tasks that have a date in the field, each once and under its own position. No entry has a
later date than the one behind it, and entries whose dates tie stand in the order of positions. -/
structure StableSelection (texts : Text.Collation) (tasks : TaskList) (field : DateField)
    (entries : List Dated) : Prop where
  lists : ∀ entry, entry ∈ entries ↔
    tasks[entry.index]? = some entry.task ∧ entry.task.date? field = some entry.date
  once : (entries.map Dated.index).Nodup
  ordered : entries.IsChain fun a b => Date.compareTypedBy texts a.date b.date ≠ .gt
  stable : entries.Pairwise fun a b =>
    Date.compareTypedBy texts a.date b.date = .eq → a.index < b.index

/-- Entries whose dates denote a day, by the calendar, and entries whose dates denote none, by their
texts. -/
structure DaysThenTexts (texts : Text.Collation) (days others : List Dated) : Prop where
  readable : ∀ a ∈ days, ∃ d, Date.ofText? a.date = some d
  byDay : days.Pairwise fun a b => ∀ d e, Date.ofText? a.date = some d →
    Date.ofText? b.date = some e → Date.chronological d e ≠ .gt
  unreadable : ∀ a ∈ others, Date.ofText? a.date = none
  byText : others.Pairwise fun a b => texts a.date b.date ≠ .gt

namespace StableSelection

theorem of_perm (same : entries.Perm (tasks.dated field))
    (ordered : entries.IsChain fun a b => Date.compareTypedBy texts a.date b.date ≠ .gt)
    (stable : entries.Pairwise fun a b =>
      Date.compareTypedBy texts a.date b.date = .eq → a.index < b.index) :
    StableSelection texts tasks field entries where
  lists entry := by rw [same.mem_iff, mem_dated_iff]
  once := by
    rw [(same.map Dated.index).nodup_iff]
    exact nodup_index_dated tasks field
  ordered := ordered
  stable := stable

variable [TransCmp texts]

theorem pairwise (h : StableSelection texts tasks field entries) :
    entries.Pairwise fun a b => (Date.compareTypedBy texts a.date b.date).isLE := by
  have trans : Trans (fun a b : Dated => (Date.compareTypedBy texts a.date b.date).isLE)
      (fun a b : Dated => (Date.compareTypedBy texts a.date b.date).isLE)
      (fun a b : Dated => (Date.compareTypedBy texts a.date b.date).isLE) :=
    ⟨TransCmp.isLE_trans⟩
  apply List.isChain_iff_pairwise.mp
  simpa only [ne_eq, Ordering.ne_gt_iff_isLE] using h.ordered

theorem unique (h : StableSelection texts tasks field entries)
    (h' : StableSelection texts tasks field entries') : entries = entries' := by
  have same : entries.Perm entries' := by
    rw [List.perm_ext_iff_of_nodup h.once.of_map h'.once.of_map]
    intro entry
    rw [h.lists, h'.lists]
  refine same.eq_of_pairwise ?_ (h.pairwise.and h.stable) (h'.pairwise.and h'.stable)
  intro a b _ _ ⟨ab, tie⟩ ⟨ba, tie'⟩
  have equal : Date.compareTypedBy texts a.date b.date = .eq := OrientedCmp.isLE_antisymm ab ba
  have equal' : Date.compareTypedBy texts b.date a.date = .eq := OrientedCmp.eq_symm equal
  exact absurd (tie equal) (Nat.lt_asymm (tie' equal'))

private theorem exists_days (h : StableSelection texts tasks field entries) :
    ∃ days others, entries = days ++ others ∧ DaysThenTexts texts days others := by
  let isDay (a : Dated) : Bool := (Date.ofText? a.date).isSome
  have whole := List.takeWhile_append_dropWhile (p := isDay) (l := entries)
  have ordered := h.pairwise
  rw [← whole, List.pairwise_append] at ordered
  have unreadable : ∀ a ∈ entries.dropWhile isDay, Date.ofText? a.date = none := by
    have head := List.head?_dropWhile_not isDay entries
    cases rest : entries.dropWhile isDay with
    | nil => simp
    | cons first behind =>
      rw [rest] at head ordered
      have noDay : Date.ofText? first.date = none := by simpa [isDay] using head
      refine List.forall_mem_cons.mpr ⟨noDay, fun a mem => ?_⟩
      by_contra day
      obtain ⟨e, has⟩ := Option.ne_none_iff_exists'.mp day
      have inOrder := (List.pairwise_cons.mp ordered.2.1).1 a mem
      obtain ⟨d, has'⟩ := Date.exists_date_of_isLE inOrder has
      rw [noDay] at has'
      cases has'
  refine ⟨entries.takeWhile isDay, entries.dropWhile isDay, whole.symm, ?_, ?_, unreadable, ?_⟩
  · intro a mem
    exact Option.isSome_iff_exists.mp (List.mem_takeWhile_imp (p := isDay) mem)
  · apply ordered.1.imp
    intro a b first d e ha hb
    rw [Date.compareTypedBy_of_dates ha hb] at first
    exact Ordering.ne_gt_iff_isLE.mpr first
  · apply ordered.2.1.imp_of_mem
    intro a b memA memB first
    rw [Date.compareTypedBy_of_texts (unreadable a memA) (unreadable b memB)] at first
    exact Ordering.ne_gt_iff_isLE.mpr first

end StableSelection

section Sorted

variable [TransCmp texts]

private theorem bne_gt_eq_isLE (o : Ordering) : (o != .gt) = o.isLE := by
  cases o <;> rfl

private theorem not_gt_trans (a b c : Dated) :
    Date.compareTypedBy texts a.date b.date != .gt →
      Date.compareTypedBy texts b.date c.date != .gt →
        Date.compareTypedBy texts a.date c.date != .gt := by
  simp only [bne_gt_eq_isLE]
  exact TransCmp.isLE_trans

private theorem not_gt_total (texts : Text.Collation) [TransCmp texts] (a b : Dated) :
    (Date.compareTypedBy texts a.date b.date != .gt ||
      Date.compareTypedBy texts b.date a.date != .gt) = true := by
  have swapped : Date.compareTypedBy texts a.date b.date =
      (Date.compareTypedBy texts b.date a.date).swap := OrientedCmp.eq_swap
  rw [swapped]
  cases Date.compareTypedBy texts b.date a.date <;> rfl

private theorem pairwise_sortedBy (tasks : TaskList) (field : DateField) :
    (tasks.sortedBy texts field).Pairwise fun a b =>
      Date.compareTypedBy texts a.date b.date ≠ .gt := by
  have sorted := List.pairwise_mergeSort not_gt_trans (not_gt_total texts)
    (tasks.dated field)
  exact sorted.imp fun first => by simpa using first

/-- Entries whose dates tie with a date stand as they stood before the sorting. -/
private theorem filter_sortedBy (tasks : TaskList) (field : DateField) (date : String) :
    (tasks.sortedBy texts field).filter (fun a => Date.compareTypedBy texts a.date date == .eq) =
      (tasks.dated field).filter fun a => Date.compareTypedBy texts a.date date == .eq := by
  let ties (a : Dated) : Bool := Date.compareTypedBy texts a.date date == .eq
  have tied : ((tasks.dated field).filter ties).Pairwise fun a b =>
      (Date.compareTypedBy texts a.date b.date != .gt) = true := by
    apply List.pairwise_of_forall_mem_list
    intro a memA b memB
    have tieA : Date.compareTypedBy texts a.date date = .eq := by
      simpa [ties] using (List.mem_filter.mp memA).2
    have tieB : Date.compareTypedBy texts b.date date = .eq := by
      simpa [ties] using (List.mem_filter.mp memB).2
    rw [TransCmp.eq_trans tieA (OrientedCmp.eq_symm tieB)]
    rfl
  have kept : ((tasks.dated field).filter ties).Sublist (tasks.sortedBy texts field) :=
    List.sublist_mergeSort not_gt_trans (not_gt_total texts) tied List.filter_sublist
  have among := kept.filter ties
  rw [List.filter_filter] at among
  simp only [Bool.and_self] at among
  exact (among.eq_of_length ((perm_sortedBy texts tasks field).filter ties).length_eq.symm).symm

theorem stableSelection_sortedBy (tasks : TaskList) (field : DateField) :
    StableSelection texts tasks field (tasks.sortedBy texts field) := by
  refine .of_perm (perm_sortedBy texts tasks field) (pairwise_sortedBy tasks field).isChain ?_
  rw [List.pairwise_iff_forall_sublist]
  intro a b among tie
  let ties (c : Dated) : Bool := Date.compareTypedBy texts c.date b.date == .eq
  have both : [a, b].filter ties = [a, b] := by simp [ties, tie, ReflCmp.compare_self]
  have kept := among.filter ties
  rw [both, filter_sortedBy] at kept
  exact List.pairwise_iff_forall_sublist.mp (pairwise_index_dated tasks field)
    (kept.trans List.filter_sublist)

end Sorted

/-- There is one way to pick the tasks with a date and to sort them stably, and the list of their
numbers is made in it. In it the dates that denote days come first, in whatever layouts they are
written. -/
theorem numberedBy_eq_iff_stableSelection [TransCmp texts] (tasks : TaskList) (field : DateField)
    (result : List (Nat × Task)) :
    (result = tasks.numberedBy texts field ↔
      ∃ entries, StableSelection texts tasks field entries ∧
        result = entries.map fun entry => (entry.index, entry.task)) ∧
      ∀ entries, StableSelection texts tasks field entries →
        ∃ days others, entries = days ++ others ∧ DaysThenTexts texts days others := by
  have sorted : StableSelection texts tasks field (tasks.sortedBy texts field) :=
    stableSelection_sortedBy tasks field
  refine ⟨⟨?_, ?_⟩, fun entries selected => selected.exists_days⟩
  · rintro rfl
    exact ⟨_, sorted, rfl⟩
  · rintro ⟨entries, selected, rfl⟩
    rw [selected.unique sorted]
    rfl

/-- A tie between two spellings of one day, a day before them at the end of the list, and a text. -/
theorem numberedBy_of_tied_spellings :
    let tasks : TaskList := [.deadline "a" "2024-10-01", .todo "b", .deadline "c" "soon",
      .deadline "d" "oct 1 2024", .deadline "e" "30/9/2024"]
    TransCmp Text.compareTexts ∧
      [(4, .deadline "e" "30/9/2024"), (0, .deadline "a" "2024-10-01"),
        (3, .deadline "d" "oct 1 2024"), (2, .deadline "c" "soon")] =
        tasks.numberedByDate .due := by
  intro tasks
  let entries : List Dated := [⟨4, .deadline "e" "30/9/2024", "30/9/2024"⟩,
    ⟨0, .deadline "a" "2024-10-01", "2024-10-01"⟩, ⟨3, .deadline "d" "oct 1 2024", "oct 1 2024"⟩,
    ⟨2, .deadline "c" "soon", "soon"⟩]
  have selected : StableSelection Text.compareTexts tasks .due entries :=
    .of_perm (by decide +kernel) (by decide +kernel) (by decide +kernel)
  have picked := (numberedBy_eq_iff_stableSelection tasks .due _).1.mpr ⟨entries, selected, rfl⟩
  exact ⟨inferInstance, picked⟩

end Taskbook.TaskList
