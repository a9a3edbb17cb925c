import Taskbook.Record
import Mathlib.Data.List.Basic

/-! Records read back. An escaped field keeps its border whatever follows it, so a line splits into
the fields it was made from, and the task on an encoded line is the task that was encoded. -/

set_option autoImplicit false

namespace Taskbook

open Taskbook.Text

def Task.texts (t : Task) : List String := t.description :: Record.scheduleFields t.schedule

namespace Record

@[simp] theorem escape_nil : escape [] = [] := rfl

@[simp] theorem escape_append (a b : List Char) : escape (a ++ b) = escape a ++ escape b :=
  List.flatMap_append

private theorem escape_cons_of_special {c : Char} (rest : List Char) (h : c = ',' ∨ c = '\\') :
    escape (c :: rest) = '\\' :: c :: escape rest := by
  simp [escape, h]

private theorem escape_cons_of_plain {c : Char} (rest : List Char) (h : ¬(c = ',' ∨ c = '\\')) :
    escape (c :: rest) = c :: escape rest := by
  simp [escape, h]

theorem mem_of_mem_escape {c : Char} {field : List Char} (h : c ∈ escape field) (hc : c ≠ '\\') :
    c ∈ field := by
  obtain ⟨x, hx, hcx⟩ := List.mem_flatMap.mp h
  split at hcx
  · simp only [List.mem_cons, hc, false_or, List.not_mem_nil, or_false] at hcx
    exact hcx ▸ hx
  · exact List.mem_singleton.mp hcx ▸ hx

theorem splitFields_cons_of_plain {c : Char} (rest : List Char) (h : ¬(c = ',' ∨ c = '\\')) :
    splitFields (c :: rest) = extendFirst c (splitFields rest) := by
  have hb : c ≠ '\\' := fun e => h (.inr e)
  have hs : c ≠ ',' := fun e => h (.inl e)
  rw [splitFields]
  · simp [hs]
  · intro d tail hd
    exact absurd hd hb

theorem splitFields_comma (rest : List Char) :
    splitFields (',' :: rest) = [] :: splitFields rest := by
  rw [splitFields]
  · simp
  · simp

private theorem splitFields_escape_append (field rest : List Char) :
    splitFields (escape field ++ rest) = field.foldr extendFirst (splitFields rest) := by
  induction field with
  | nil => rfl
  | cons c field ih =>
    by_cases hc : c = ',' ∨ c = '\\'
    · rw [escape_cons_of_special _ hc, List.cons_append, List.cons_append, splitFields, if_pos hc,
        ih, List.foldr_cons]
    · rw [escape_cons_of_plain _ hc, List.cons_append, splitFields_cons_of_plain _ hc, ih,
        List.foldr_cons]

private theorem foldr_extendFirst {α : Type} (piece front : List α) (rest : List (List α)) :
    piece.foldr extendFirst (front :: rest) = (piece ++ front) :: rest := by
  induction piece with
  | nil => rfl
  | cons x piece ih => rw [List.foldr_cons, ih, extendFirst, List.cons_append]

private theorem splitFields_intercalate_escape {fields : List (List Char)} (h : fields ≠ []) :
    splitFields (List.intercalate [','] (fields.map escape)) = fields := by
  induction fields with
  | nil => exact absurd rfl h
  | cons field fields ih =>
    cases fields with
    | nil =>
      have alone := splitFields_escape_append field []
      rw [List.append_nil, splitFields, foldr_extendFirst, List.append_nil] at alone
      simpa using alone
    | cons next fields =>
      rw [List.map_cons, List.intercalate_cons_of_ne_nil (by simp), List.append_assoc,
        splitFields_escape_append, List.singleton_append, splitFields_comma,
        ih (List.cons_ne_nil _ _), foldr_extendFirst, List.append_nil]

private theorem mem_of_mem_extendFirst {c x : Char} {field : List Char} {fields : List (List Char)}
    (h : field ∈ extendFirst x fields) (hc : c ∈ field) : c = x ∨ ∃ f ∈ fields, c ∈ f := by
  cases fields with
  | nil =>
    obtain rfl := List.mem_singleton.mp h
    exact .inl (List.mem_singleton.mp hc)
  | cons f fields =>
    rcases List.mem_cons.mp h with rfl | h
    · rcases List.mem_cons.mp hc with rfl | hc
      · exact .inl rfl
      · exact .inr ⟨f, List.mem_cons_self, hc⟩
    · exact .inr ⟨field, List.mem_cons_of_mem _ h, hc⟩

private theorem mem_of_mem_splitFields {line field : List Char} {c : Char}
    (h : field ∈ splitFields line) (hc : c ∈ field) : c ∈ line := by
  induction line using splitFields.induct generalizing field with
  | case1 =>
    obtain rfl := List.mem_singleton.mp h
    exact hc
  | case2 d rest hd ih =>
    rw [splitFields, if_pos hd] at h
    rcases mem_of_mem_extendFirst h hc with rfl | ⟨f, hf, hcf⟩
    · simp
    · exact List.mem_cons_of_mem _ (List.mem_cons_of_mem _ (ih hf hcf))
  | case3 d rest hd ih =>
    rw [splitFields, if_neg hd] at h
    rcases mem_of_mem_extendFirst h hc with rfl | ⟨f, hf, hcf⟩
    · simp
    · exact List.mem_cons_of_mem _ (ih hf hcf)
  | case4 rest _ ih =>
    rw [splitFields_comma] at h
    rcases List.mem_cons.mp h with rfl | h
    · simp at hc
    · exact List.mem_cons_of_mem _ (ih h hc)
  | case5 d rest hd hs ih =>
    rw [splitFields, if_neg hs] at h
    · rcases mem_of_mem_extendFirst h hc with rfl | ⟨f, hf, hcf⟩
      · simp
      · exact List.mem_cons_of_mem _ (ih hf hcf)
    · exact hd

theorem encode_toList (t : Task) :
    (encode t).toList = List.intercalate [','] ((fields t).map fun field => escape field.toList) :=
  String.toList_ofList

private theorem splitFields_encode (t : Task) :
    (splitFields (encode t).toList).map String.ofList = fields t := by
  have split : splitFields (List.intercalate [','] (((fields t).map String.toList).map escape)) =
      (fields t).map String.toList :=
    splitFields_intercalate_escape (by simp [fields])
  rw [List.map_map] at split
  rw [encode_toList]
  exact (congrArg (List.map String.ofList) split).trans (by simp)

theorem decode?_encode (t : Task) : decode? (encode t) = some t := by
  rw [decode?, splitFields_encode]
  rcases t with ⟨description, done, schedule⟩
  cases schedule <;> cases done <;> rfl

/-- Every task comes back from its line, whatever its texts hold; so no two tasks share a line. -/
theorem decode?_encode_injective :
    (∀ t, decode? (encode t) = some t) ∧ Function.Injective encode := by
  refine ⟨decode?_encode, fun t t' same => ?_⟩
  have read := congrArg decode? same
  rw [decode?_encode, decode?_encode] at read
  exact Option.some.inj read

example : encode (.event "eat, sleep" "a\\b" "c,d\\") =
    "Event,eat\\, sleep,false,a\\\\b,c\\,d\\\\" := by
  decide +kernel

theorem mem_of_decode? {line text : String} {t : Task} {c : Char} (h : decode? line = some t)
    (ht : text ∈ t.texts) (hc : c ∈ text.toList) : c ∈ line.toList := by
  have fromField : ∀ f ∈ (splitFields line.toList).map String.ofList, c ∈ f.toList →
      c ∈ line.toList := by
    intro f hf hcf
    obtain ⟨field, hfield, rfl⟩ := List.mem_map.mp hf
    exact mem_of_mem_splitFields hfield (by simpa using hcf)
  refine fromField text ?_ hc
  unfold decode? at h
  split at h
  · exact absurd h (by simp)
  · next name rest split =>
    obtain ⟨type, _, made⟩ := Option.bind_eq_some_iff.mp h
    rw [split]
    refine List.mem_cons_of_mem _ ?_
    unfold ofFields? at made
    split at made
    · cases made
      simpa [Task.texts, scheduleFields] using .inl (by simpa [Task.texts, scheduleFields] using ht)
    · cases made
      simp only [Task.texts, scheduleFields, List.mem_cons, List.not_mem_nil, or_false] at ht
      rcases ht with rfl | rfl <;> simp
    · cases made
      simp only [Task.texts, scheduleFields, List.mem_cons, List.not_mem_nil, or_false] at ht
      rcases ht with rfl | rfl | rfl <;> simp
    · exact absurd made (by simp)

end Record

end Taskbook
