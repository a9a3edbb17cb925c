import Taskbook.Proofs.Text.Words
import Taskbook.Token.Lexer

/-! Free text on a line: what the lexer takes as a literal, and that it takes all of it. A literal
is made of words that begin with no marker; it ends where the line does or where a marker is. -/

set_option autoImplicit false

namespace Taskbook.Lexer

open Taskbook.Text

variable {s t w rest : List Char} {c : Char}

/-- A text that begins with a slash or a dash and a letter right behind it. -/
def StartsMarker (s : List Char) : Prop :=
  ∃ dash letter rest, s = dash :: letter :: rest ∧ (dash = '/' ∨ dash = '-') ∧
    isLetter letter = true

def Unmarked (s : List Char) : Prop := ∀ w ∈ words s, ¬ StartsMarker w

/-- A place where a word can end: the end of the text, or whitespace. -/
def Bordered (s : List Char) : Prop := ∀ x ∈ s.head?, isBlank x = true

/-- A place where a plain text ends: the end of the text, or a marker. -/
def EndsPlain (s : List Char) : Prop := s = [] ∨ StartsMarker s

/-- A text that stands on a line as it is: it is not empty, has no whitespace at its ends, and no
word of it begins with a marker. -/
structure Canonical (text : String) : Prop where
  nonempty : text ≠ ""
  isTrimmed : IsTrimmed text.toList
  unmarked : Unmarked text.toList

theorem opensMarker_iff : opensMarker s = true ↔ StartsMarker s := by
  constructor
  · intro h
    unfold opensMarker marker? at h
    split at h
    · next dash letter rest =>
      split at h
      · next both => exact ⟨dash, letter, rest, rfl, both⟩
      · exact absurd h (by simp)
    · exact absurd h (by simp)
  · rintro ⟨dash, letter, rest, rfl, both⟩
    simp [opensMarker, marker?, both]

private theorem exists_range_of_inRanges {n : Nat} {table : List (Nat × Nat)}
    (h : inRanges n table = true) : ∃ r ∈ table, r.1 ≤ n ∧ n ≤ r.2 := by
  induction table with
  | nil => simp [inRanges] at h
  | cons r table ih =>
    simp only [inRanges] at h
    split at h
    · exact absurd h (by simp)
    · next low =>
      rcases Bool.or_eq_true_iff.mp h with high | h
      · exact ⟨r, List.mem_cons_self, Nat.le_of_not_lt low, of_decide_eq_true high⟩
      · obtain ⟨r', hr', between⟩ := ih h
        exact ⟨r', List.mem_cons_of_mem _ hr', between⟩

private theorem isLetter_of_isBlank (h : isBlank c = true) : isLetter c = false := by
  obtain ⟨r, hr, low, high⟩ := exists_range_of_inRanges h
  have table : ∀ r ∈ blankRanges, ∀ n ∈ List.range' r.1 (r.2 + 1 - r.1),
      inRanges n letterRanges = false := by decide +kernel
  exact table r hr c.toNat (List.mem_range'_1.mpr ⟨low, by omega⟩)

theorem isNameChar_of_isBlank (h : isBlank c = true) : isNameChar c = false := by
  have noLetter := isLetter_of_isBlank h
  obtain ⟨r, hr, low, high⟩ := exists_range_of_inRanges h
  have table : ∀ r ∈ blankRanges, ∀ n ∈ List.range' r.1 (r.2 + 1 - r.1),
      inRanges n numeralRanges = false ∧ n ≠ '_'.toNat := by decide +kernel
  obtain ⟨noNumeral, other⟩ := table r hr c.toNat (List.mem_range'_1.mpr ⟨low, by omega⟩)
  have noLine : c ≠ '_' := fun same => other (congrArg Char.toNat same)
  simp [isNameChar, isAlphanumeric, noLetter, noNumeral, noLine]

theorem not_isBlank_of_isNameChar (h : isNameChar c = true) : isBlank c = false := by
  rw [Bool.eq_false_iff]
  intro blank
  rw [isNameChar_of_isBlank blank] at h
  exact absurd h (by simp)

theorem not_opensMarker_of_blank (h : isBlank c = true) : opensMarker (c :: s) = false := by
  rw [Bool.eq_false_iff, ne_eq, opensMarker_iff]
  rintro ⟨dash, letter, rest, same, isDash, _⟩
  obtain ⟨rfl, _⟩ := List.cons.inj same
  rcases isDash with rfl | rfl <;> exact absurd h (by decide)

/-- Whether a word begins with a marker can be told from the word alone. -/
theorem opensMarker_append (nonempty : w ≠ []) (bordered : Bordered t) :
    opensMarker (w ++ t) = opensMarker w := by
  rw [Bool.eq_iff_iff, opensMarker_iff, opensMarker_iff]
  cases w with
  | nil => exact absurd rfl nonempty
  | cons x w =>
    cases w with
    | cons y w => simp [StartsMarker]
    | nil =>
      constructor
      · rintro ⟨dash, letter, rest, same, _, isLetter⟩
        obtain ⟨rfl, rfl⟩ := List.cons.inj same
        have blank : isBlank letter = true := bordered letter rfl
        exact absurd isLetter (by simp [isLetter_of_isBlank blank])
      · rintro ⟨dash, letter, rest, same, _⟩
        exact absurd same (by simp)

theorem word_append_afterWord (s : List Char) : word s ++ afterWord s = s :=
  List.takeWhile_append_dropWhile

theorem bordered_afterWord (s : List Char) : Bordered (afterWord s) := by
  intro x hx
  simpa using head_dropWhile (fun c => !isBlank c) s x hx

theorem words_eq_word_cons (h : word s ≠ []) : words s = word s :: words (afterWord s) := by
  conv_lhs => rw [← word_append_afterWord s]
  exact words_solid_append (fun x hx => by simpa using List.mem_takeWhile_imp hx) h
    (bordered_afterWord s)

theorem word_trimStart_eq_nil_iff : word (trimStart s) = [] ↔ trimStart s = [] := by
  constructor
  · intro noWord
    have first := head_dropWhile isBlank s
    rw [← trimStart] at first
    cases start : trimStart s with
    | nil => rfl
    | cons c rest =>
      have solid : isBlank c = false := first c (by rw [start]; rfl)
      simp [start, word, solid] at noWord
  · intro noText
    rw [noText]
    rfl

theorem Unmarked.not_opensMarker (h : Unmarked s) : opensMarker s = false := by
  rw [Bool.eq_false_iff, ne_eq, opensMarker_iff]
  rintro ⟨dash, letter, rest, rfl, isDash, hletter⟩
  have solid : isBlank dash = false ∧ isBlank letter = false := by
    refine ⟨by rcases isDash with rfl | rfl <;> decide, Bool.eq_false_iff.mpr fun blank => ?_⟩
    exact absurd hletter (by simp [isLetter_of_isBlank blank])
  have first : word (dash :: letter :: rest) = dash :: letter :: word rest := by
    simp [word, solid]
  have isFirst := words_eq_word_cons (s := dash :: letter :: rest) (by simp [first])
  exact h (word (dash :: letter :: rest)) (isFirst ▸ List.mem_cons_self)
    ⟨dash, letter, word rest, first, isDash, hletter⟩

theorem unmarked_of_solid (solid : ∀ x ∈ w, isBlank x = false) (nonempty : w ≠ [])
    (h : opensMarker w = false) : Unmarked w := by
  intro v hv
  rw [words_of_solid solid nonempty] at hv
  rw [List.mem_singleton.mp hv, ← opensMarker_iff, h]
  simp

theorem canonical_of_solid {text : String} (nonempty : text ≠ "")
    (solid : ∀ x ∈ text.toList, isBlank x = false) (h : opensMarker text.toList = false) :
    Canonical text where
  nonempty := nonempty
  isTrimmed :=
    ⟨fun x hx => solid x (List.mem_of_mem_head? hx), fun x hx => solid x (List.mem_of_getLast? hx)⟩
  unmarked := unmarked_of_solid solid (mt String.toList_eq_nil_iff.mp nonempty) h

private theorem Unmarked.trimStart (h : Unmarked s) : Unmarked (trimStart s) := by
  intro w hw
  refine h w ?_
  rw [← takeWhile_append_trimStart s, words_blanks_append fun x hx => List.mem_takeWhile_imp hx]
  exact hw

theorem of_plainWord? (h : plainWord? s = some (w, rest)) :
    ∃ front word, w = front ++ word ∧ s = w ++ rest ∧ (∀ x ∈ front, isBlank x = true) ∧
      (∀ x ∈ word, isBlank x = false) ∧ word ≠ [] ∧ opensMarker word = false ∧ Bordered rest := by
  unfold plainWord? at h
  dsimp only at h
  split at h
  · exact absurd h (by simp)
  · next plain =>
    obtain ⟨unmarked, nonempty⟩ : opensMarker (trimStart s) = false ∧ word (trimStart s) ≠ [] := by
      simpa using plain
    obtain ⟨rfl, rfl⟩ := Prod.mk.inj (Option.some.inj h)
    have split := word_append_afterWord (trimStart s)
    have bordered := bordered_afterWord (trimStart s)
    refine ⟨s.takeWhile isBlank, word (trimStart s), rfl, ?_, fun x hx => List.mem_takeWhile_imp hx,
      fun x hx => by simpa using List.mem_takeWhile_imp hx, nonempty, ?_, bordered⟩
    · rw [List.append_assoc, split]
      exact (takeWhile_append_trimStart s).symm
    · rw [← opensMarker_append nonempty bordered, split, unmarked]

private theorem plainWord?_eq_some {front word : List Char} (blank : ∀ x ∈ front, isBlank x = true)
    (solid : ∀ x ∈ word, isBlank x = false) (nonempty : word ≠ [])
    (unmarked : opensMarker word = false) (bordered : Bordered rest) :
    plainWord? (front ++ word ++ rest) = some (front ++ word, rest) := by
  have first : ∀ x ∈ (word ++ rest).head?, isBlank x = false := by
    cases word with
    | nil => exact absurd rfl nonempty
    | cons x word => exact fun y hy => Option.some.inj hy ▸ solid x List.mem_cons_self
  obtain ⟨blanks, start⟩ := span_append blank first
  obtain ⟨taken, left⟩ :=
    span_append (p := fun c => !isBlank c) (s := word) (t := rest)
      (fun x hx => by simp [solid x hx]) fun x hx => by simp [bordered x hx]
  rw [← List.append_assoc] at blanks start
  unfold plainWord?
  simp only [trimStart, Lexer.word, afterWord, start, blanks, taken, left,
    opensMarker_append nonempty bordered, unmarked]
  simp [nonempty]

theorem plainWord?_eq_none_iff :
    plainWord? s = none ↔ trimStart s = [] ∨ opensMarker (trimStart s) = true := by
  unfold plainWord?
  simp only [Bool.or_eq_true, List.isEmpty_iff, word_trimStart_eq_nil_iff]
  split
  · next none' => exact iff_of_true rfl none'.symm
  · next some' => exact iff_of_false (by simp) fun h => some' h.symm

theorem EndsPlain.solid_head (h : EndsPlain t) : ∀ x ∈ t.head?, isBlank x = false := by
  intro x hx
  rcases h with rfl | ⟨dash, letter, rest, rfl, isDash, _⟩
  · simp at hx
  · obtain rfl := Option.some.inj hx
    rcases isDash with rfl | rfl <;> decide

theorem plainWord?_blanks_append (blank : ∀ x ∈ s, isBlank x = true) (ends : EndsPlain t) :
    plainWord? (s ++ t) = none := by
  rw [plainWord?_eq_none_iff, trimStart, (span_append blank ends.solid_head).2, opensMarker_iff]
  exact ends

theorem plainWords_of_eq_none (h : plainWord? s = none) : plainWords s = ([], s) := by
  unfold plainWords
  split
  · rfl
  · next found => exact absurd found (by simp [h])

private theorem plainWords_of_eq_some (h : plainWord? s = some (w, rest)) :
    plainWords s = (w ++ (plainWords rest).1, (plainWords rest).2) := by
  conv_lhs => unfold plainWords
  split
  · next found => exact absurd found (by simp [h])
  · next found =>
    obtain ⟨rfl, rfl⟩ := Prod.mk.inj (Option.some.inj (found.symm.trans h))
    rfl

theorem plainWords_append_eq (s : List Char) : (plainWords s).1 ++ (plainWords s).2 = s := by
  fun_induction plainWords s with
  | case1 => rfl
  | case2 s w rest h ih =>
    obtain ⟨_, _, _, split, _⟩ := of_plainWord? h
    rw [List.append_assoc, ih, split]

theorem bordered_nil : Bordered [] := fun x hx => by simp at hx

theorem bordered_space (s : List Char) : Bordered (' ' :: s) := by
  rintro x ⟨⟩
  decide

theorem Bordered.of_append (h : Bordered (s ++ t)) : Bordered s := by
  cases s with
  | nil => exact fun x hx => by simp at hx
  | cons c s => exact h

theorem Bordered.append (hs : Bordered s) (ht : Bordered t) : Bordered (s ++ t) := by
  cases s with
  | nil => exact ht
  | cons c s => exact hs

theorem unmarked_plainWords (s : List Char) : Unmarked (plainWords s).1 := by
  fun_induction plainWords s with
  | case1 => exact fun w hw => by simp at hw
  | case2 s w rest h ih =>
    obtain ⟨front, word, rfl, _, blank, solid, nonempty, unmarked, bordered⟩ := of_plainWord? h
    have bordered' : Bordered (plainWords rest).1 := by
      rw [← plainWords_append_eq rest] at bordered
      exact bordered.of_append
    intro v hv
    rw [words_front_append blank solid nonempty bordered', List.mem_cons] at hv
    rcases hv with rfl | hv
    · rw [← opensMarker_iff, unmarked]
      simp
    · exact ih v hv

theorem plainWord?_plainWords (s : List Char) : plainWord? (plainWords s).2 = none := by
  fun_induction plainWords s with
  | case1 s h => exact h
  | case2 s w rest h ih => exact ih

theorem plainWords_append (unmarked : Unmarked s) (last : ∀ x ∈ s.getLast?, isBlank x = false)
    (bordered : Bordered t) (ends : plainWord? t = none) : plainWords (s ++ t) = (s, t) := by
  -- By the length of the text: what is left behind its first plain word is such a text again.
  induction h : s.length using Nat.strongRecOn generalizing s with
  | _ n ih =>
    cases taken : plainWord? s with
    | none =>
      have nothing : s = [] := by
        rcases plainWord?_eq_none_iff.mp taken with blank | marked
        · cases ends' : s.getLast? with
          | none => exact List.getLast?_eq_none_iff.mp ends'
          | some x =>
            have solid := last x ends'
            have blank' := List.dropWhile_eq_nil_iff.mp blank x (List.mem_of_getLast? ends')
            exact absurd blank' (by simp [solid])
        · exact absurd marked (by simp [unmarked.trimStart.not_opensMarker])
      rw [nothing, List.nil_append, plainWords_of_eq_none ends]
    | some p =>
      obtain ⟨w, rest⟩ := p
      obtain ⟨front, word, rfl, rfl, blank, solid, nonempty, plain, bordered'⟩ :=
        of_plainWord? taken
      have taken' : plainWord? (front ++ word ++ (rest ++ t)) = some (front ++ word, rest ++ t) :=
        plainWord?_eq_some blank solid nonempty plain (bordered'.append bordered)
      have more : plainWords (rest ++ t) = (rest, t) := by
        refine ih rest.length ?_ ?_ ?_ rfl
        · have := plainWord?_length taken
          omega
        · intro v hv
          refine unmarked v ?_
          rw [words_front_append blank solid nonempty bordered']
          exact List.mem_cons_of_mem _ hv
        · intro x hx
          exact last x (by rw [List.getLast?_append, Option.mem_def.mp hx]; rfl)
      rw [List.append_assoc, plainWords_of_eq_some taken', more]

theorem plainWords_ends (h : (plainWords s).1 ≠ []) :
    (∃ x ∈ (plainWords s).1, isBlank x = false) ∧ Bordered (plainWords s).2 := by
  fun_induction plainWords s with
  | case1 => exact absurd rfl h
  | case2 s w rest found ih =>
    obtain ⟨front, word, rfl, _, _, solid, nonempty, _, bordered⟩ := of_plainWord? found
    obtain ⟨x, hx⟩ := List.exists_mem_of_ne_nil word nonempty
    refine ⟨⟨x, by simp [hx], solid x hx⟩, ?_⟩
    by_cases more : (plainWords rest).1 = []
    · have same := plainWords_append_eq rest
      rw [more, List.nil_append] at same
      exact same.symm ▸ bordered
    · exact (ih more).2

end Taskbook.Lexer
