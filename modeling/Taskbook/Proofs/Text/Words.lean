import Taskbook.Text.Trim
import Mathlib.Data.List.DropRight

/-! The words of a text, and the text without the whitespace at its ends. Whitespace at the ends
changes no word, and trimming takes away just that. -/

set_option autoImplicit false

namespace Taskbook.Text

theorem span_append {p : Char → Bool} {s t : List Char} (h : ∀ x ∈ s, p x = true)
    (stop : ∀ x ∈ t.head?, p x = false) :
    (s ++ t).takeWhile p = s ∧ (s ++ t).dropWhile p = t := by
  rw [List.takeWhile_append_of_pos h, List.dropWhile_append_of_pos h]
  cases t with
  | nil => exact ⟨List.append_nil s, rfl⟩
  | cons c t => simp [stop c rfl]

theorem head_dropWhile (p : Char → Bool) (s : List Char) :
    ∀ x ∈ (s.dropWhile p).head?, p x = false := by
  intro x hx
  have stop := List.head?_dropWhile_not p s
  rw [Option.mem_def.mp hx] at stop
  simpa using stop

theorem last_rdropWhile (p : Char → Bool) (s : List Char) :
    ∀ x ∈ (s.rdropWhile p).getLast?, p x = false := by
  intro x hx
  obtain ⟨nonempty, rfl⟩ := List.mem_getLast?_eq_getLast hx
  exact Bool.eq_false_iff.mpr (List.rdropWhile_last_not p s nonempty)

theorem takeWhile_append_trimStart (s : List Char) : s.takeWhile isBlank ++ trimStart s = s :=
  List.takeWhile_append_dropWhile

theorem blank_of_mem_space : ∀ x ∈ [' '], isBlank x = true :=
  List.forall_mem_singleton.mpr (by decide)

theorem blank_letter_of_isDigit {c : Char} (h : c.isDigit = true) :
    isBlank c = false ∧ isLetter c = false := by
  have table : ∀ n ∈ List.range' 48 10,
      inRanges n blankRanges = false ∧ inRanges n letterRanges = false := by decide
  have between : 48 ≤ c.toNat ∧ c.toNat ≤ 57 := by
    simpa [Char.isDigit, UInt32.le_iff_toNat_le] using h
  exact table c.toNat (List.mem_range'_1.mpr ⟨between.1, by omega⟩)

theorem blank_digit_of_isAlpha {c : Char} (letter : c.isAlpha = true) :
    isBlank c = false ∧ c.isDigit = false := by
  have table : ∀ n ∈ List.range' 65 58, inRanges n blankRanges = false := by decide
  have between : 65 ≤ c.toNat ∧ c.toNat ≤ 122 := by
    rcases Bool.or_eq_true_iff.mp letter with upper | lower
    · obtain ⟨fromA, toZ⟩ := of_decide_eq_true upper
      have first : 65 ≤ c.toNat := UInt32.le_iff_toNat_le.mp fromA
      have last : c.toNat ≤ 90 := UInt32.le_iff_toNat_le.mp toZ
      omega
    · obtain ⟨fromA, toZ⟩ := Bool.and_eq_true_iff.mp lower
      have first : 97 ≤ c.toNat := UInt32.le_iff_toNat_le.mp (of_decide_eq_true fromA)
      have last : c.toNat ≤ 122 := UInt32.le_iff_toNat_le.mp (of_decide_eq_true toZ)
      omega
  refine ⟨table c.toNat (List.mem_range'_1.mpr ⟨between.1, by omega⟩), ?_⟩
  rw [Char.isDigit, Bool.and_eq_false_iff]
  right
  simp only [decide_eq_false_iff_not, UInt32.le_iff_toNat_le]
  change ¬ c.toNat ≤ 57
  omega

/-- The pieces of a text between its whitespace. -/
def words (s : List Char) : List (List Char) := (s.splitOnP isBlank).filter fun w => !w.isEmpty

section Words

variable {s t w : List Char} {c : Char}

theorem words_append_cons (s t : List Char) (h : isBlank c = true) :
    words (s ++ c :: t) = words s ++ words t := by
  rw [words, List.splitOnP_append_cons s t h, List.filter_append, words, words]

@[simp] theorem words_nil : words [] = [] := rfl

theorem words_of_solid (h : ∀ x ∈ w, isBlank x = false) (nonempty : w ≠ []) : words w = [w] := by
  rw [words, List.splitOnP_eq_singleton h]
  simp [nonempty]

theorem words_blanks_append (h : ∀ x ∈ s, isBlank x = true) : words (s ++ t) = words t := by
  induction s with
  | nil => rfl
  | cons c s ih =>
    have rest := ih fun x hx => h x (List.mem_cons_of_mem _ hx)
    have first := words_append_cons [] (s ++ t) (h c List.mem_cons_self)
    simpa [rest] using first

theorem words_append_blanks (h : ∀ x ∈ t, isBlank x = true) : words (s ++ t) = words s := by
  cases t with
  | nil => rw [List.append_nil]
  | cons c t =>
    have rest : words (t ++ []) = words [] :=
      words_blanks_append fun x hx => h x (List.mem_cons_of_mem _ hx)
    rw [words_append_cons s t (h c List.mem_cons_self)]
    simpa using rest

theorem words_solid_append (h : ∀ x ∈ w, isBlank x = false) (nonempty : w ≠ [])
    (bordered : ∀ x ∈ t.head?, isBlank x = true) : words (w ++ t) = w :: words t := by
  cases t with
  | nil => rw [List.append_nil, words_of_solid h nonempty, words_nil]
  | cons c t =>
    have blank : isBlank c = true := bordered c rfl
    have rest := words_append_cons [] t blank
    rw [words_append_cons w t blank, words_of_solid h nonempty, List.singleton_append]
    simpa using rest.symm

theorem words_front_append {front : List Char} (blank : ∀ x ∈ front, isBlank x = true)
    (solid : ∀ x ∈ w, isBlank x = false) (nonempty : w ≠ [])
    (bordered : ∀ x ∈ t.head?, isBlank x = true) : words (front ++ w ++ t) = w :: words t := by
  rw [List.append_assoc, words_blanks_append blank, words_solid_append solid nonempty bordered]

end Words

structure IsTrimmed (s : List Char) : Prop where
  head : ∀ c ∈ s.head?, isBlank c = false
  last : ∀ c ∈ s.getLast?, isBlank c = false

private theorem trimEnd_eq_rdropWhile (s : List Char) : trimEnd s = s.rdropWhile isBlank := rfl

theorem exists_eq_append_trim (s : List Char) :
    ∃ front back, s = front ++ trim s ++ back ∧ (∀ x ∈ front, isBlank x = true) ∧
      ∀ x ∈ back, isBlank x = true := by
  refine ⟨s.takeWhile isBlank, (trimStart s).rtakeWhile isBlank, ?_,
    fun x hx => List.mem_takeWhile_imp hx, fun x hx => List.mem_rtakeWhile_imp hx⟩
  rw [List.append_assoc, trim, trimEnd_eq_rdropWhile, List.rdropWhile_append_rtakeWhile, trimStart,
    List.takeWhile_append_dropWhile]

private theorem head?_blank_of_prefix {s t : List Char} (pre : s <+: t) {c : Char}
    (h : c ∈ s.head?) : c ∈ t.head? := by
  obtain ⟨rest, rfl⟩ := pre
  cases s with
  | nil => simp at h
  | cons x s => exact h

theorem isTrimmed_trim (s : List Char) : IsTrimmed (trim s) where
  head c hc := by
    have inFront := head?_blank_of_prefix (List.rdropWhile_prefix isBlank (trimStart s)) hc
    exact head_dropWhile isBlank s c inFront
  last := last_rdropWhile isBlank (trimStart s)

theorem trimStart_of_head {s : List Char} (h : ∀ c ∈ s.head?, isBlank c = false) :
    trimStart s = s := by
  cases s with
  | nil => rfl
  | cons c s => simp [trimStart, h c rfl]

theorem trim_append_append (front back : List Char) {s : List Char} (h : IsTrimmed s)
    (hfront : ∀ x ∈ front, isBlank x = true) (hback : ∀ x ∈ back, isBlank x = true) :
    trim (front ++ s ++ back) = s := by
  have start : trimStart (front ++ s ++ back) = trimStart (s ++ back) := by
    rw [List.append_assoc]
    exact List.dropWhile_append_of_pos hfront
  cases s with
  | nil =>
    have gone : trimStart ([] ++ back) = [] := List.dropWhile_eq_nil_iff.mpr hback
    rw [trim, start, gone]
    rfl
  | cons c s =>
    have stays : trimStart (c :: s ++ back) = c :: s ++ back := trimStart_of_head h.head
    have behind : ∀ x ∈ back.reverse, isBlank x = true :=
      fun x hx => hback x (List.mem_reverse.mp hx)
    have ends : trimStart (c :: s).reverse = (c :: s).reverse :=
      trimStart_of_head fun x hx => h.last x (by rwa [List.head?_reverse] at hx)
    rw [trim, start, stays, trimEnd, List.reverse_append, List.dropWhile_append_of_pos behind]
    exact (congrArg List.reverse ends).trans (List.reverse_reverse _)

theorem words_trim (s : List Char) : words (trim s) = words s := by
  obtain ⟨front, back, split, hfront, hback⟩ := exists_eq_append_trim s
  conv_rhs => rw [split]
  rw [words_append_blanks hback, words_blanks_append hfront]

end Taskbook.Text
