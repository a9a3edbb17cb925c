import Taskbook.Text.Split
import Mathlib.Data.List.Basic

/-! What the lines of a sequence are: they hold no line break, they hold nothing that the sequence
does not, and a piece without a newline comes back as it is but for one return at its end. -/

set_option autoImplicit false

namespace Taskbook.Text

/-- A sequence without the one return at its end, if there is one. -/
def chop {α : Type} [DecidableEq α] (carriage : α) (s : List α) : List α :=
  if s.getLast? = some carriage then s.dropLast else s

theorem chop_of_getLast?_ne {α : Type} [DecidableEq α] {carriage : α} {s : List α}
    (h : s.getLast? ≠ some carriage) : chop carriage s = s := if_neg h

theorem chop_append_singleton {α : Type} [DecidableEq α] (carriage : α) (s : List α) :
    chop carriage (s ++ [carriage]) = s := by
  simp [chop]

theorem chop_append {α : Type} [DecidableEq α] {carriage : α} (front : List α) {s : List α}
    (h : s ≠ []) : chop carriage (front ++ s) = front ++ chop carriage s := by
  unfold chop
  rw [List.getLast?_append_of_ne_nil _ h]
  split
  · exact List.dropLast_append_of_ne_nil h
  · rfl

theorem chop_cons_of_ne {α : Type} [DecidableEq α] {carriage x : α} (s : List α)
    (h : x ≠ carriage) : chop carriage (x :: s) = x :: chop carriage s := by
  cases s with
  | nil => exact chop_of_getLast?_ne (by simpa using h)
  | cons y s => exact chop_append [x] (List.cons_ne_nil y s)

theorem chop_eq_self_iff {α : Type} [DecidableEq α] {carriage : α} {s : List α} :
    chop carriage s = s ↔ s.getLast? ≠ some carriage := by
  refine ⟨fun h ends => ?_, chop_of_getLast?_ne⟩
  have nonempty : s ≠ [] := by
    rintro rfl
    simp at ends
  have short := congrArg List.length h
  rw [chop, if_pos ends, List.length_dropLast] at short
  have := List.length_pos_iff.mpr nonempty
  omega

section Lines

variable {α : Type} [DecidableEq α] {newline carriage : α}

omit [DecidableEq α] in
private theorem mem_extendFirst {x : α} {piece : List α} {rest : List (List α)}
    (h : piece ∈ extendFirst x rest) :
    piece = [x] ∨ (∃ p ∈ rest, piece = x :: p) ∨ piece ∈ rest := by
  cases rest with
  | nil => exact .inl (by simpa [extendFirst] using h)
  | cons p rest =>
    simp only [extendFirst, List.mem_cons] at h
    rcases h with rfl | h
    · exact .inr (.inl ⟨p, List.mem_cons_self, rfl⟩)
    · exact .inr (.inr (List.mem_cons_of_mem _ h))

theorem mem_of_mem_lines {s line : List α} {x : α} (h : line ∈ lines newline carriage s)
    (hx : x ∈ line) : x ∈ s := by
  induction s generalizing line with
  | nil => simp [lines] at h
  | cons y rest ih =>
    simp only [lines] at h
    split at h
    · rcases List.mem_cons.mp h with rfl | h
      · simp at hx
      · exact List.mem_cons_of_mem _ (ih h hx)
    · split at h
      · exact List.mem_cons_of_mem _ (ih h hx)
      · rcases mem_extendFirst h with rfl | ⟨p, hp, rfl⟩ | h
        · exact List.mem_cons.mpr (.inl (List.mem_singleton.mp hx))
        · rcases List.mem_cons.mp hx with rfl | hx
          · exact List.mem_cons_self
          · exact List.mem_cons_of_mem _ (ih hp hx)
        · exact List.mem_cons_of_mem _ (ih h hx)

theorem newline_not_mem_of_mem_lines {s line : List α} (h : line ∈ lines newline carriage s) :
    newline ∉ line := by
  induction s generalizing line with
  | nil => simp [lines] at h
  | cons y rest ih =>
    simp only [lines] at h
    split at h
    · rcases List.mem_cons.mp h with rfl | h
      · simp
      · exact ih h
    · next hy =>
      split at h
      · exact ih h
      · rcases mem_extendFirst h with rfl | ⟨p, hp, rfl⟩ | h
        · simpa using fun e : newline = y => hy e.symm
        · simpa using ⟨fun e : newline = y => hy e.symm, ih hp⟩
        · exact ih h

private theorem lines_append_newline {s : List α} (rest : List α) (h : newline ∉ s) :
    lines newline carriage (s ++ newline :: rest) =
      chop carriage s :: lines newline carriage rest := by
  induction s with
  | nil => simp [lines, chop]
  | cons x s ih =>
    have hx : x ≠ newline := fun e => h (e ▸ List.mem_cons_self)
    have hs : newline ∉ s := fun e => h (List.mem_cons_of_mem _ e)
    rw [List.cons_append, lines, if_neg hx, ih hs]
    cases s with
    | nil => by_cases hc : x = carriage <;> simp [chop, extendFirst, hc]
    | cons y s =>
      have hy : y ≠ newline := fun e => hs (e ▸ List.mem_cons_self)
      rw [if_neg (by simp [hy]), extendFirst, ← List.singleton_append (l := y :: s),
        chop_append _ (List.cons_ne_nil y s), List.singleton_append]

theorem lines_flatMap_append_newline {pieces : List (List α)} (h : ∀ s ∈ pieces, newline ∉ s) :
    lines newline carriage (pieces.flatMap fun s => s ++ [newline]) =
      pieces.map (chop carriage) := by
  induction pieces with
  | nil => rfl
  | cons s pieces ih =>
    rw [List.flatMap_cons, List.append_assoc, List.singleton_append,
      lines_append_newline _ (h s List.mem_cons_self),
      ih fun t ht => h t (List.mem_cons_of_mem _ ht), List.map_cons]

private theorem lines_of_newline_not_mem {s : List α} (nonempty : s ≠ []) (inside : newline ∉ s) :
    lines newline carriage s = [s] := by
  induction s with
  | nil => exact absurd rfl nonempty
  | cons x s ih =>
    have hx : x ≠ newline := fun e => inside (e ▸ List.mem_cons_self)
    have hs : newline ∉ s := fun e => inside (List.mem_cons_of_mem _ e)
    cases s with
    | nil => simp [lines, hx, extendFirst]
    | cons y s =>
      have hy : y ≠ newline := fun e => hs (e ▸ List.mem_cons_self)
      rw [lines, if_neg hx, if_neg (by simp [hy]), ih (List.cons_ne_nil y s) hs, extendFirst]

/-- A sequence cut into its lines. What stands before a newline is one, less a return at its end; and
so is what stands behind the last newline, unless that is nothing. -/
inductive Lined (newline carriage : α) : List α → List (List α) → Prop
  | nil : Lined newline carriage [] []
  | last {s : List α} (nonempty : s ≠ []) (inside : newline ∉ s) : Lined newline carriage s [s]
  | line {s rest : List α} {more : List (List α)} (inside : newline ∉ s)
      (cut : Lined newline carriage rest more) :
      Lined newline carriage (s ++ newline :: rest) (chop carriage s :: more)

theorem lines_of_lined {s : List α} {pieces : List (List α)} (h : Lined newline carriage s pieces) :
    lines newline carriage s = pieces := by
  induction h with
  | nil => rfl
  | last nonempty inside => exact lines_of_newline_not_mem nonempty inside
  | line inside _ ih => rw [lines_append_newline _ inside, ih]

theorem lined_lines (newline carriage : α) (s : List α) :
    Lined newline carriage s (lines newline carriage s) := by
  induction h : s.length using Nat.strongRecOn generalizing s with
  | _ n ih =>
    by_cases broken : newline ∈ s
    · obtain ⟨front, rest, rfl, inside⟩ := List.eq_append_cons_of_mem broken
      have shorter : rest.length < n := by
        rw [← h, List.length_append, List.length_cons]
        omega
      rw [lines_append_newline _ inside]
      exact .line inside (ih rest.length shorter rest rfl)
    · by_cases empty : s = []
      · rw [empty]
        exact .nil
      · rw [lines_of_newline_not_mem empty broken]
        exact .last empty broken

end Lines

end Taskbook.Text
