import Taskbook.Proofs.Record
import Mathlib.Algebra.Group.Nat.Even
import Mathlib.Data.List.DropRight

/-! The fields of a line, told by its runs of backslashes. A comma ends a field exactly if the run
right before it has an even length. In a field a run stands for half of its length: rounded down
before a comma, and up elsewhere. So a line without two backslashes side by side and without one
before a comma is cut at every comma. -/

set_option autoImplicit false

namespace Taskbook.Record

open Text

/-- The length of the run of backslashes at the end of a text. -/
def runLength (s : List Char) : Nat := (s.rtakeWhile fun c => c = '\\').length

/-- What a text stands for that has a run of `m` backslashes in front of it. Half of every run is
left: rounded down before a comma, and up elsewhere. -/
def halved (m : Nat) : List Char → List Char
  | [] => List.replicate ((m + 1) / 2) '\\'
  | c :: rest =>
    if c = '\\' then halved (m + 1) rest
    else List.replicate (if c = ',' then m / 2 else (m + 1) / 2) '\\' ++ c :: halved 0 rest

/-- A text that is not cut: no run of even length stands before a comma. -/
def Uncut (s : List Char) : Prop :=
  ∀ front rest, s = front ++ ',' :: rest → ¬ Even (runLength front)

/-- A line and its fields. The line is cut at the commas with a run of even length before them, and
each piece is read by its runs. -/
inductive Divided : List Char → List (List Char) → Prop
  | last {piece : List Char} (uncut : Uncut piece) : Divided piece [halved 0 piece]
  | cut {piece rest : List Char} {fields : List (List Char)} (uncut : Uncut piece)
      (even : Even (runLength piece)) (divided : Divided rest fields) :
      Divided (piece ++ ',' :: rest) (halved 0 piece :: fields)

/-- Fields of two texts side by side: the last field of one and the first of the other are one. -/
inductive Joined : List (List Char) → List (List Char) → List (List Char) → Prop
  | mk (init more : List (List Char)) (field field' : List Char) :
      Joined (init ++ [field]) (field' :: more) (init ++ (field ++ field') :: more)

variable {s front rest : List Char} {c : Char}

section Runs

private theorem runLength_le (s : List Char) : runLength s ≤ s.length :=
  (List.rtakeWhile_suffix _ s).length_le

private theorem runLength_cons (c : Char) (s : List Char) :
    runLength (c :: s) =
      if c = '\\' ∧ runLength s = s.length then s.length + 1 else runLength s := by
  unfold runLength List.rtakeWhile
  rw [List.reverse_cons, List.takeWhile_append]
  by_cases whole : (s.reverse.takeWhile fun c => c = '\\').length = s.length
  · by_cases backslash : c = '\\' <;> simp [whole, backslash]
  · simp [whole]

private theorem runLength_cons_of_ne (h : c ≠ '\\') : runLength (c :: s) = runLength s := by
  rw [runLength_cons, if_neg fun both => h both.1]

private theorem runLength_replicate (m : Nat) : runLength (List.replicate m '\\') = m := by
  induction m with
  | zero => rfl
  | succ m ih => rw [List.replicate_succ, runLength_cons, ih, List.length_replicate]; simp

private theorem runLength_append_cons_of_ne (front : List Char) (h : c ≠ '\\') :
    runLength (front ++ c :: s) = runLength s := by
  induction front with
  | nil => exact runLength_cons_of_ne h
  | cons d front ih =>
    have short := runLength_le s
    rw [List.cons_append, runLength_cons, ih, if_neg]
    rintro ⟨_, whole⟩
    simp only [List.length_append, List.length_cons] at whole
    omega

private theorem even_runLength_cons_cons (s : List Char) :
    Even (runLength ('\\' :: '\\' :: s)) ↔ Even (runLength s) := by
  have short := runLength_le s
  rw [runLength_cons, runLength_cons]
  by_cases whole : runLength s = s.length
  · simp [whole, Nat.even_add_one]
  · have inner : ¬ ('\\' = '\\' ∧ runLength s = s.length) := fun both => whole both.2
    have outer : ¬ ('\\' = '\\' ∧ runLength s = ('\\' :: s).length) := by
      rintro ⟨_, whole⟩
      simp only [List.length_cons] at whole
      omega
    rw [if_neg inner, if_neg outer]

private theorem exists_eq_append_of_not_even (odd : ¬ Even (runLength front)) :
    ∃ before, front = before ++ ['\\'] ∧ Even (runLength before) := by
  rcases List.eq_nil_or_concat front with rfl | ⟨before, c, rfl⟩
  · exact absurd Even.zero odd
  · rw [List.concat_eq_append] at odd ⊢
    by_cases backslash : c = '\\'
    · subst backslash
      refine ⟨before, rfl, ?_⟩
      have longer : runLength (before ++ ['\\']) = runLength before + 1 := by
        simp [runLength, List.rtakeWhile_concat_pos]
      rwa [longer, Nat.even_add_one, not_not] at odd
    · have none : runLength (before ++ [c]) = 0 := runLength_append_cons_of_ne before backslash
      rw [none] at odd
      exact absurd Even.zero odd

end Runs

section Joining

variable {fields fields' joined : List (List Char)}

private theorem Joined.extendFirst (h : Joined fields fields' joined) (c : Char) :
    Joined (extendFirst c fields) fields' (extendFirst c joined) := by
  obtain ⟨init, more, field, field'⟩ := h
  cases init with
  | nil => exact .mk [] more (c :: field) field'
  | cons first init => exact .mk ((c :: first) :: init) more field field'

private theorem Joined.cons (h : Joined fields fields' joined) (first : List Char) :
    Joined (first :: fields) fields' (first :: joined) := by
  obtain ⟨init, more, field, field'⟩ := h
  exact .mk (first :: init) more field field'

theorem exists_splitFields_eq (s : List Char) : ∃ field more, splitFields s = field :: more := by
  have extended (c : Char) (fields : List (List Char)) :
      ∃ field more, Text.extendFirst c fields = field :: more := by
    cases fields with
    | nil => exact ⟨_, _, rfl⟩
    | cons => exact ⟨_, _, rfl⟩
  unfold splitFields
  split
  · exact ⟨_, _, rfl⟩
  · split <;> exact extended _ _
  · split
    · exact ⟨_, _, rfl⟩
    · exact extended _ _

private theorem joined_splitFields_append (even : Even (runLength front)) (s : List Char) :
    Joined (splitFields front) (splitFields s) (splitFields (front ++ s)) := by
  induction front using splitFields.induct with
  | case1 =>
    obtain ⟨field, more, same⟩ := exists_splitFields_eq s
    rw [List.nil_append, same]
    exact .mk [] more [] field
  | case2 c rest special ih =>
    have even' : Even (runLength rest) := by
      rcases special with rfl | rfl
      · have skip := runLength_append_cons_of_ne (s := rest) ['\\'] (show ',' ≠ '\\' by decide)
        rw [← skip]
        exact even
      · exact (even_runLength_cons_cons rest).mp even
    rw [List.cons_append, List.cons_append, splitFields, if_pos special, splitFields,
      if_pos special]
    exact (ih even').extendFirst c
  | case3 c rest plain ih =>
    have ne : c ≠ '\\' := fun same => plain (.inr same)
    have even' : Even (runLength (c :: rest)) := by
      rw [runLength_cons_of_ne ne, ← runLength_append_cons_of_ne ['\\'] ne]
      exact even
    rw [List.cons_append, List.cons_append, splitFields, if_neg plain, splitFields, if_neg plain]
    exact (ih even').extendFirst '\\'
  | case4 rest _ ih =>
    rw [runLength_cons_of_ne (by decide)] at even
    rw [List.cons_append, splitFields_comma, splitFields_comma]
    exact (ih even).cons []
  | case5 c rest noEscape noComma ih =>
    by_cases backslash : c = '\\'
    · subst backslash
      cases rest with
      | nil => exact absurd even (by decide)
      | cons d rest => exact absurd rfl (noEscape d rest rfl)
    · have plain : ¬ (c = ',' ∨ c = '\\') := by tauto
      rw [runLength_cons_of_ne backslash] at even
      rw [List.cons_append, splitFields_cons_of_plain _ plain, splitFields_cons_of_plain _ plain]
      exact (ih even).extendFirst c

end Joining

section Pieces

private theorem splitFields_cons_cons (s : List Char) :
    splitFields ('\\' :: '\\' :: s) = extendFirst '\\' (splitFields s) := by
  rw [splitFields, if_pos (.inr rfl)]

private theorem splitFields_replicate (m : Nat) :
    splitFields (List.replicate m '\\') = [List.replicate ((m + 1) / 2) '\\'] := by
  induction m using Nat.twoStepInduction with
  | zero => rfl
  | one => rfl
  | more m ih =>
    have half : (m + 2 + 1) / 2 = (m + 1) / 2 + 1 := by omega
    rw [List.replicate_succ, List.replicate_succ, splitFields_cons_cons, ih, half]
    rfl

private theorem splitFields_replicate_append {field : List Char} (m : Nat) (ne : c ≠ '\\')
    (inside : c = ',' → ¬ Even m) (whole : splitFields rest = [field]) :
    splitFields (List.replicate m '\\' ++ c :: rest) =
      [List.replicate (if c = ',' then m / 2 else (m + 1) / 2) '\\' ++ c :: field] := by
  induction m using Nat.twoStepInduction with
  | zero =>
    have noComma : c ≠ ',' := fun comma => inside comma Even.zero
    have plain : ¬ (c = ',' ∨ c = '\\') := by tauto
    rw [List.replicate_zero, List.nil_append, splitFields_cons_of_plain _ plain, whole,
      if_neg noComma]
    rfl
  | one =>
    change splitFields ('\\' :: c :: rest) = _
    by_cases comma : c = ','
    · rw [splitFields, if_pos (.inl comma), whole, if_pos comma]
      rfl
    · have plain : ¬ (c = ',' ∨ c = '\\') := by tauto
      rw [splitFields, if_neg plain, splitFields_cons_of_plain _ plain, whole, if_neg comma]
      rfl
  | more m ih =>
    have inside' : c = ',' → ¬ Even m := by
      intro comma even
      exact inside comma ((even.add (by decide : Even 2)))
    have half : (m + 2) / 2 = m / 2 + 1 := by omega
    have half' : (m + 2 + 1) / 2 = (m + 1) / 2 + 1 := by omega
    rw [List.replicate_succ, List.replicate_succ, List.cons_append, List.cons_append,
      splitFields_cons_cons, ih inside', half, half']
    split <;> rfl

private theorem Uncut.of_append (h : Uncut (front ++ c :: rest)) (ne : c ≠ '\\') : Uncut rest := by
  rintro before behind rfl
  have inside := h (front ++ c :: before) behind (by simp)
  rwa [runLength_append_cons_of_ne front ne] at inside

private theorem splitFields_replicate_of_uncut {m : Nat}
    (uncut : Uncut (List.replicate m '\\' ++ s)) :
    splitFields (List.replicate m '\\' ++ s) = [halved m s] := by
  induction s generalizing m with
  | nil =>
    rw [List.append_nil]
    exact splitFields_replicate m
  | cons c s ih =>
    by_cases backslash : c = '\\'
    · subst backslash
      have longer : List.replicate m '\\' ++ '\\' :: s = List.replicate (m + 1) '\\' ++ s := by
        rw [List.replicate_succ', List.append_assoc, List.singleton_append]
      rw [longer] at uncut ⊢
      rw [ih uncut, halved, if_pos rfl]
    · have inside : c = ',' → ¬ Even m := by
        rintro rfl
        have odd := uncut (List.replicate m '\\') s rfl
        rwa [runLength_replicate] at odd
      have whole : splitFields s = [halved 0 s] := ih (m := 0) (uncut.of_append backslash)
      rw [splitFields_replicate_append m backslash inside whole, halved, if_neg backslash]

private theorem splitFields_of_uncut (uncut : Uncut s) : splitFields s = [halved 0 s] :=
  splitFields_replicate_of_uncut (m := 0) uncut

private theorem splitFields_append_comma (even : Even (runLength front)) (rest : List Char) :
    splitFields (front ++ ',' :: rest) = splitFields front ++ splitFields rest := by
  have joined := joined_splitFields_append even (',' :: rest)
  rw [splitFields_comma] at joined
  generalize splitFields front = fields, splitFields (front ++ ',' :: rest) = all at joined
  cases joined with
  | mk init more field => simp

private theorem exists_first_cut (even : Even (runLength front)) (rest : List Char) :
    ∃ piece rest', front ++ ',' :: rest = piece ++ ',' :: rest' ∧ Uncut piece ∧
      Even (runLength piece) := by
  induction h : front.length using Nat.strongRecOn generalizing front rest with
  | _ n ih =>
    by_cases uncut : Uncut front
    · exact ⟨front, rest, rfl, uncut, even⟩
    · simp only [Uncut, not_forall, not_not] at uncut
      obtain ⟨before, behind, rfl, even'⟩ := uncut
      have shorter : before.length < n := by
        rw [← h, List.length_append, List.length_cons]
        omega
      have first := ih before.length shorter even' (behind ++ ',' :: rest) rfl
      rwa [List.append_assoc, List.cons_append]

private theorem divided_splitFields (line : List Char) : Divided line (splitFields line) := by
  induction h : line.length using Nat.strongRecOn generalizing line with
  | _ n ih =>
    by_cases uncut : Uncut line
    · rw [splitFields_of_uncut uncut]
      exact .last uncut
    · simp only [Uncut, not_forall, not_not] at uncut
      obtain ⟨front, behind, rfl, even⟩ := uncut
      obtain ⟨piece, rest, same, uncut, even⟩ := exists_first_cut even behind
      have shorter : rest.length < n := by
        rw [← h, same, List.length_append, List.length_cons]
        omega
      rw [same, splitFields_append_comma even, splitFields_of_uncut uncut]
      exact .cut uncut even (ih rest.length shorter rest rfl)

/-- A line is divided in one way. -/
theorem divided_iff {line : List Char} {fields : List (List Char)} :
    Divided line fields ↔ splitFields line = fields := by
  constructor
  · intro divided
    induction divided with
    | last uncut => exact splitFields_of_uncut uncut
    | cut uncut even _ ih =>
      rw [splitFields_append_comma even, splitFields_of_uncut uncut, ih]
      rfl
  · rintro rfl
    exact divided_splitFields line

end Pieces

private theorem splitFields_eq_pieces {line : List Char} (single : ¬ ['\\', '\\'] <:+: line)
    (plain : ¬ ['\\', ','] <:+: line) : splitFields line = pieces ',' line := by
  induction line with
  | nil => rfl
  | cons c rest ih =>
    have rest_eq : splitFields rest = pieces ',' rest :=
      ih (fun inside => single (List.infix_cons inside)) fun inside =>
        plain (List.infix_cons inside)
    by_cases backslash : c = '\\'
    · subst backslash
      cases rest with
      | nil => rfl
      | cons d tail =>
        have other : ¬ (d = ',' ∨ d = '\\') := by
          rintro (rfl | rfl)
          · exact plain ⟨[], tail, rfl⟩
          · exact single ⟨[], tail, rfl⟩
        rw [splitFields, if_neg other, rest_eq, pieces.eq_def ',' ('\\' :: d :: tail)]
        rfl
    · by_cases comma : c = ','
      · rw [comma, splitFields_comma, rest_eq, pieces, if_pos rfl]
      · have other : ¬ (c = ',' ∨ c = '\\') := by tauto
        rw [splitFields_cons_of_plain rest other, rest_eq, pieces, if_neg comma]

/-- On every line the lengths of the runs decide: which commas end a field, which are part of one, and
what is left of a run. -/
theorem splitFields_eq_iff_divided (line : List Char) :
    (∀ fields, splitFields line = fields ↔ Divided line fields) ∧
      (∀ front rest, line = front ++ ',' :: rest → Even (runLength front) →
        splitFields line = splitFields front ++ splitFields rest) ∧
      (∀ front rest, line = front ++ ',' :: rest → ¬ Even (runLength front) →
        ∃ before, front = before ++ ['\\'] ∧
          Joined (splitFields before) (extendFirst ',' (splitFields rest)) (splitFields line)) ∧
      (¬ ['\\', '\\'] <:+: line → ¬ ['\\', ','] <:+: line →
        splitFields line = pieces ',' line) := by
  refine ⟨fun _ => divided_iff.symm, ?_, ?_, splitFields_eq_pieces⟩
  · rintro front rest rfl even
    exact splitFields_append_comma even rest
  · rintro front rest rfl odd
    obtain ⟨before, rfl, even⟩ := exists_eq_append_of_not_even odd
    have joined := joined_splitFields_append even ('\\' :: ',' :: rest)
    rw [splitFields, if_pos (.inl rfl)] at joined
    refine ⟨before, rfl, ?_⟩
    rwa [List.append_assoc]

example : splitFields "a\\\\\\,b\\\\,c\\".toList = ["a\\,b\\".toList, "c\\".toList] := by decide

end Taskbook.Record
