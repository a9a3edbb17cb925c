import Taskbook.Proofs.Disk
import Taskbook.Proofs.Record
import Taskbook.Proofs.Text.Bytes
import Taskbook.Store
import Mathlib.Data.List.Forall2

/-! Lists of tasks saved and loaded again. A list comes back with at most one return cut off the
last date of each task, provided that no text of it holds a newline; and what was loaded never holds
one. So the lists that come back as they were are known exactly. -/

set_option autoImplicit false

namespace Taskbook

open Taskbook.Text

namespace Task

/-- The date at the end of a task's line, for the types that have dates. -/
def lastDate? (t : Task) : Option String := (Record.scheduleFields t.schedule).getLast?

/-- A task whose line comes back as it is: it is one line, and no return ends its last date. -/
structure Storable (t : Task) : Prop where
  oneLine : ∀ text ∈ t.texts, '\n' ∉ text.toList
  noReturn : ∀ date ∈ t.lastDate?, date.toList.getLast? ≠ some '\r'

namespace Storable

variable {t : Task}

theorem mark (h : t.Storable) (done : Bool) : (t.mark done).Storable :=
  ⟨h.oneLine, h.noReturn⟩

theorem of_texts (h : ∀ text ∈ t.texts, '\n' ∉ text.toList)
    (h' : ∀ text ∈ t.texts, text.toList.getLast? ≠ some '\r') : t.Storable where
  oneLine := h
  noReturn date mem := h' date (List.mem_cons_of_mem _ (List.mem_of_getLast? mem))

end Storable

def chopText (s : String) : String := String.ofList (chop '\r' s.toList)

def chopped (t : Task) : Task :=
  match t.schedule with
  | .todo => t
  | .deadline due => { t with schedule := .deadline (chopText due) }
  | .event start finish => { t with schedule := .event start (chopText finish) }

private theorem chopText_eq_self_iff {s : String} :
    chopText s = s ↔ s.toList.getLast? ≠ some '\r' := by
  rw [← chop_eq_self_iff, chopText, ← String.toList_inj, String.toList_ofList]

private theorem chopped_eq_self_iff {t : Task} :
    t.chopped = t ↔ ∀ date ∈ t.lastDate?, date.toList.getLast? ≠ some '\r' := by
  rcases t with ⟨description, done, schedule⟩
  cases schedule with
  | todo => simp [chopped, lastDate?, Record.scheduleFields]
  | deadline due => simp [chopped, lastDate?, Record.scheduleFields, chopText_eq_self_iff]
  | event start finish => simp [chopped, lastDate?, Record.scheduleFields, chopText_eq_self_iff]

end Task

namespace Record

private theorem chop_escape (field : List Char) :
    chop '\r' (escape field) = escape (chop '\r' field) := by
  rcases List.eq_nil_or_concat field with rfl | ⟨front, c, rfl⟩
  · rfl
  · rw [List.concat_eq_append, escape_append]
    by_cases hc : c = '\r'
    · subst hc
      rw [chop_append_singleton, show escape ['\r'] = ['\r'] by decide, chop_append_singleton]
    · have plain : (front ++ [c]).getLast? ≠ some '\r' := by simpa using hc
      rw [chop_of_getLast?_ne plain, escape_append]
      refine chop_of_getLast?_ne ?_
      by_cases special : c = ',' ∨ c = '\\' <;> simp [escape, special, hc]

private theorem chop_intercalate_escape (front : List String) (last : String) :
    chop '\r' (List.intercalate [','] ((front ++ [last]).map fun f => escape f.toList)) =
      List.intercalate [','] ((front ++ [Task.chopText last]).map fun f => escape f.toList) := by
  induction front with
  | nil => simpa [Task.chopText] using chop_escape last.toList
  | cons field front ih =>
    have more (f : String) : ((front ++ [f]).map fun f => escape f.toList) ≠ [] := by simp
    rw [List.cons_append, List.map_cons, List.intercalate_cons_of_ne_nil (more _),
      List.append_assoc, List.singleton_append, chop_append _ (List.cons_ne_nil _ _),
      chop_cons_of_ne _ (by decide), ih,
      List.cons_append, List.map_cons, List.intercalate_cons_of_ne_nil (more _), List.append_assoc,
      List.singleton_append]

private theorem chop_encode (t : Task) :
    chop '\r' (encode t).toList = (encode t.chopped).toList := by
  rcases t with ⟨description, done, schedule⟩
  rw [encode_toList, encode_toList]
  cases schedule with
  | todo =>
    have line := chop_intercalate_escape ["Todo", description] (if done then "true" else "false")
    have flag : Task.chopText (if done then "true" else "false") =
        if done then "true" else "false" := by
      cases done <;> decide
    rwa [flag] at line
  | deadline due =>
    exact chop_intercalate_escape ["Deadline", description, if done then "true" else "false"] due
  | event start finish =>
    exact chop_intercalate_escape
      ["Event", description, if done then "true" else "false", start] finish

private theorem mem_of_mem_intercalate {c x : Char} {pieces : List (List Char)}
    (h : c ∈ List.intercalate [x] pieces) : c = x ∨ ∃ piece ∈ pieces, c ∈ piece := by
  induction pieces with
  | nil => simp at h
  | cons piece pieces ih =>
    by_cases last : pieces = []
    · subst last
      exact .inr ⟨piece, List.mem_cons_self, by simpa using h⟩
    · rw [List.intercalate_cons_of_ne_nil last, List.append_assoc, List.singleton_append] at h
      rcases List.mem_append.mp h with h | h
      · exact .inr ⟨piece, List.mem_cons_self, h⟩
      · rcases List.mem_cons.mp h with rfl | h
        · exact .inl rfl
        · rcases ih h with rfl | ⟨p, hp, hc⟩
          · exact .inl rfl
          · exact .inr ⟨p, List.mem_cons_of_mem _ hp, hc⟩

private theorem newline_not_mem_encode {t : Task} (h : ∀ text ∈ t.texts, '\n' ∉ text.toList) :
    '\n' ∉ (encode t).toList := by
  intro hn
  rw [encode_toList] at hn
  rcases mem_of_mem_intercalate hn with comma | ⟨piece, hpiece, hn⟩
  · exact absurd comma (by decide)
  · obtain ⟨field, hfield, rfl⟩ := List.mem_map.mp hpiece
    have inField := mem_of_mem_escape hn (by decide)
    have plain : field ∈ t.texts ∨ field ∈ [t.type.name, if t.isDone then "true" else "false"] := by
      simp only [fields, List.cons_append, List.nil_append, List.mem_cons] at hfield
      simp only [Task.texts, List.mem_cons]
      tauto
    rcases plain with plain | plain
    · exact h field plain inField
    · rcases List.mem_cons.mp plain with rfl | plain
      · revert inField
        cases t.type <;> decide
      · obtain rfl := List.mem_singleton.mp plain
        revert inField
        cases t.isDone <;> decide

private theorem allBlank_encode (t : Task) : allBlank (encode t).toList = false := by
  have more : ([t.description, if t.isDone then "true" else "false"] ++
      scheduleFields t.schedule).map (fun f => escape f.toList) ≠ [] := by simp
  have line := (encode_toList t).trans (List.intercalate_cons_of_ne_nil more)
  have named : (escape t.type.name.toList).all isBlank = false := by
    cases t.type <;> decide
  rw [line, allBlank, List.all_append, List.all_append, named, Bool.false_and, Bool.false_and]

end Record

namespace Store

theorem content_toList (tasks : TaskList) :
    (content tasks).toList =
      (tasks.map fun t => (Record.encode t).toList).flatMap fun s => s ++ ['\n'] := by
  simp [content, String.toList_join, List.flatMap_map]

section Whole

variable {α β : Type} {f : α → Option β} {R : α → β → Prop} {xs : List α} {ys : List β}

theorem mapM_eq_some_iff_forall₂ :
    xs.mapM f = some ys ↔ List.Forall₂ (fun x y => f x = some y) xs ys := by
  induction xs generalizing ys with
  | nil => simp [eq_comm]
  | cons x xs ih =>
    rw [List.mapM_cons, List.forall₂_cons_left_iff]
    constructor
    · intro mapped
      obtain ⟨y, first, mapped⟩ := Option.bind_eq_some_iff.mp mapped
      obtain ⟨ys', others, mapped⟩ := Option.bind_eq_some_iff.mp mapped
      exact ⟨y, ys', first, ih.mp others, (Option.some.inj mapped).symm⟩
    · rintro ⟨y, ys', first, others, rfl⟩
      simp [first, ih.mpr others]

private theorem exists_of_forall₂ {y : β} (h : List.Forall₂ R xs ys) (mem : y ∈ ys) :
    ∃ x ∈ xs, R x y := by
  induction h with
  | nil => cases mem
  | cons first _ ih =>
    rcases List.mem_cons.mp mem with rfl | mem
    · exact ⟨_, List.mem_cons_self, first⟩
    · obtain ⟨x, inRest, related⟩ := ih mem
      exact ⟨x, List.mem_cons_of_mem _ inRest, related⟩

end Whole

private theorem mapM_decode?_encode (tasks : TaskList) :
    (tasks.map Record.encode).mapM Record.decode? = some tasks := by
  apply mapM_eq_some_iff_forall₂.mpr
  apply List.forall₂_map_left_iff.mpr
  exact List.forall₂_same.mpr fun t _ => Record.decode?_encode t

theorem parse?_content {tasks : TaskList} (h : ∀ t ∈ tasks, ∀ text ∈ t.texts, '\n' ∉ text.toList) :
    parse? (content tasks) = some (tasks.map Task.chopped) := by
  have lines : textLines (content tasks) = (tasks.map Task.chopped).map Record.encode := by
    rw [textLines, content_toList, lines_flatMap_append_newline, List.map_map, List.map_map,
      List.map_map]
    · refine List.map_congr_left fun t _ => ?_
      simp [Record.chop_encode]
    · intro s hs
      obtain ⟨t, ht, rfl⟩ := List.mem_map.mp hs
      exact Record.newline_not_mem_encode (h t ht)
  have full : ∀ line ∈ (tasks.map Task.chopped).map Record.encode,
      (!allBlank line.toList) = true := by
    intro line hline
    obtain ⟨t, _, rfl⟩ := List.mem_map.mp hline
    simp [Record.allBlank_encode]
  rw [parse?, lines, List.filter_eq_self.mpr full, mapM_decode?_encode]

theorem of_mem_parse? {text : String} {tasks : TaskList} (h : parse? text = some tasks) :
    ∀ t ∈ tasks, ∀ field ∈ t.texts,
      '\n' ∉ field.toList ∧ ∀ c ∈ field.toList, c ∈ text.toList := by
  intro t ht field hfield
  obtain ⟨line, hline, decoded⟩ := exists_of_forall₂ (mapM_eq_some_iff_forall₂.mp h) ht
  obtain ⟨raw, hraw, rfl⟩ := List.mem_map.mp (List.mem_of_mem_filter hline)
  have inLine : ∀ c ∈ field.toList, c ∈ raw := fun c hc => by
    simpa using Record.mem_of_decode? decoded hfield hc
  exact ⟨fun hn => newline_not_mem_of_mem_lines hraw (inLine _ hn),
    fun c hc => mem_of_mem_lines hraw (inLine c hc)⟩

theorem map_chopped_eq_self_iff {tasks : TaskList} :
    tasks.map Task.chopped = tasks ↔
      ∀ t ∈ tasks, ∀ date ∈ t.lastDate?, date.toList.getLast? ≠ some '\r' := by
  constructor
  · intro same t ht
    exact Task.chopped_eq_self_iff.mp
      (List.map_eq_map_iff.mp (same.trans (List.map_id tasks).symm) t ht)
  · intro unreturned
    exact (List.map_congr_left fun t ht =>
      Task.chopped_eq_self_iff.mpr (unreturned t ht)).trans (List.map_id tasks)

/-- The lists that come back from their content are the lists of storable tasks. -/
theorem parse?_content_eq_some_iff {tasks : TaskList} :
    parse? (content tasks) = some tasks ↔ ∀ t ∈ tasks, t.Storable := by
  constructor
  · intro h t ht
    have oneLine := fun t ht field hfield => (of_mem_parse? h t ht field hfield).1
    rw [parse?_content oneLine, Option.some_inj, map_chopped_eq_self_iff] at h
    exact ⟨oneLine t ht, h t ht⟩
  · intro h
    rw [parse?_content fun t ht => (h t ht).oneLine, Option.some_inj, map_chopped_eq_self_iff]
    exact fun t ht => (h t ht).noReturn

end Store

end Taskbook
