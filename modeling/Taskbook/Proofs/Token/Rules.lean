import Taskbook.Proofs.Token.Literal

/-! What the rules of the lexer take, told without the rules: a parameter, a literal or whitespace
in front of a rest. Every text that is not empty begins with exactly one of these parts, so the
tokens of a text are those of its parts one after the other. -/

set_option autoImplicit false

namespace Taskbook.Lexer

open Taskbook.Text

variable {s t rest : List Char} {tokens : List Token}

theorem isNameChar_of_mem_name {letter : Char} {name : List Char} (first : isLetter letter = true)
    (inner : ∀ x ∈ name, isNameChar x = true) : ∀ x ∈ letter :: name, isNameChar x = true :=
  List.forall_mem_cons.mpr ⟨isNameChar_of_isLetter first, inner⟩

/-- A part of a text that is taken at once, with the tokens it makes and the rest of the text. -/
inductive Taken : List Char → List Token → List Char → Prop
  | parameter (dash letter : Char) (name rest : List Char) (isDash : dash = '/' ∨ dash = '-')
      (first : isLetter letter = true) (inner : ∀ x ∈ name, isNameChar x = true)
      (stop : ∀ x ∈ rest.head?, isNameChar x = false) :
      Taken (dash :: letter :: name ++ rest)
        [⟨.forwardDash, String.singleton dash⟩, ⟨.param, String.ofList (letter :: name)⟩] rest
  /-- A literal reaches up to the next marker, and there is whitespace between the two. -/
  | literal (s rest : List Char) (unmarked : Unmarked s) (solid : ∃ x ∈ s, isBlank x = false)
      (ends : EndsPlain rest) (gap : rest = [] ∨ ∃ x ∈ s.getLast?, isBlank x = true) :
      Taken (s ++ rest) [⟨.literal, String.ofList s⟩] rest
  | blanks (s rest : List Char) (nonempty : s ≠ []) (blank : ∀ x ∈ s, isBlank x = true)
      (ends : EndsPlain rest) : Taken (s ++ rest) [] rest

theorem Taken.exists_part (h : Taken s tokens rest) : ∃ part, part ≠ [] ∧ part ++ rest = s := by
  cases h with
  | parameter => exact ⟨_, List.cons_ne_nil _ _, rfl⟩
  | literal s rest _ solid =>
    obtain ⟨x, hx, _⟩ := solid
    exact ⟨s, List.ne_nil_of_mem hx, rfl⟩
  | blanks s rest nonempty => exact ⟨s, nonempty, rfl⟩

theorem Taken.ne_nil (h : Taken s tokens rest) : s ≠ [] := by
  obtain ⟨part, nonempty, rfl⟩ := h.exists_part
  exact List.append_ne_nil_of_left_ne_nil nonempty rest

private theorem parameter?_eq_none (h : opensMarker s = false) : parameter? s = none := by
  have noMarker : marker? s = none := by simpa [opensMarker] using h
  simp [parameter?, noMarker]

private theorem literal?_append (unmarked : Unmarked s) (last : ∀ x ∈ s.getLast?, isBlank x = false)
    (nonempty : s ≠ []) (blank : ∀ x ∈ t, isBlank x = true) (ends : EndsPlain rest)
    (bordered : Bordered (t ++ rest)) :
    literal? (s ++ (t ++ rest)) = some ([⟨.literal, String.ofList (s ++ t)⟩], rest) := by
  obtain ⟨gap, left⟩ := span_append blank ends.solid_head
  rw [literal?, plainWords_append unmarked last bordered (plainWord?_blanks_append blank ends)]
  simp [nonempty, gap, trimStart, left]

theorem step?_of_taken (h : Taken s tokens rest) : step? s = some (tokens, rest) := by
  cases h with
  | parameter dash letter name rest isDash first inner stop =>
    obtain ⟨taken, left⟩ := span_append (isNameChar_of_mem_name first inner) stop
    have marker : marker? (dash :: letter :: (name ++ rest)) = some dash := by
      simp [marker?, isDash, first]
    simp only [List.cons_append] at taken left ⊢
    simp [step?, parameter?, marker, taken, left]
  | literal s rest unmarked solid ends gap =>
    -- The literal is its plain words and the whitespace behind them.
    obtain ⟨text, blanks, rfl, last, blank⟩ : ∃ text blanks, s = text ++ blanks ∧
        (∀ x ∈ text.getLast?, isBlank x = false) ∧ ∀ x ∈ blanks, isBlank x = true :=
      ⟨s.rdropWhile isBlank, s.rtakeWhile isBlank, List.rdropWhile_append_rtakeWhile.symm,
        last_rdropWhile isBlank s, fun x hx => List.mem_rtakeWhile_imp hx⟩
    have unmarked' : Unmarked text := fun w hw => unmarked w (by rwa [words_append_blanks blank])
    have nonempty : text ≠ [] := by
      rintro rfl
      obtain ⟨x, hx, solid⟩ := solid
      exact absurd (blank x hx) (by simp [solid])
    have bordered : Bordered (blanks ++ rest) := by
      cases blanks with
      | cons x blanks => exact fun y hy => Option.some.inj hy ▸ blank x List.mem_cons_self
      | nil =>
        rcases gap with rfl | ⟨x, hx, blank'⟩
        · exact fun x hx => by simp at hx
        · exact absurd blank' (by simp [last x (by simpa using hx)])
    have noMarker : opensMarker (text ++ blanks ++ rest) = false := by
      rw [List.append_assoc, opensMarker_append nonempty bordered]
      exact unmarked'.not_opensMarker
    rw [step?, parameter?_eq_none noMarker, List.append_assoc,
      literal?_append unmarked' last nonempty blank ends bordered]
    rfl
  | blanks s rest nonempty blank ends =>
    obtain ⟨gap, left⟩ := span_append blank ends.solid_head
    have noMarker : opensMarker (s ++ rest) = false := by
      cases s with
      | nil => exact absurd rfl nonempty
      | cons c s => exact not_opensMarker_of_blank (blank c List.mem_cons_self)
    have noLiteral : literal? (s ++ rest) = none := by
      simp [literal?, plainWords_of_eq_none (plainWord?_blanks_append blank ends)]
    simp [step?, parameter?_eq_none noMarker, noLiteral, blank?, gap, trimStart, left, nonempty]

theorem exists_taken_of_startsMarker (marked : StartsMarker s) :
    ∃ dash name rest, Taken s [⟨.forwardDash, dash⟩, ⟨.param, name⟩] rest := by
  obtain ⟨dash, letter, s, rfl, isDash, first⟩ := marked
  have split : s.takeWhile isNameChar ++ s.dropWhile isNameChar = s :=
    List.takeWhile_append_dropWhile
  have taken := Taken.parameter dash letter (s.takeWhile isNameChar) (s.dropWhile isNameChar)
    isDash first (fun x hx => List.mem_takeWhile_imp hx) (head_dropWhile isNameChar s)
  simp only [List.cons_append, split] at taken
  exact ⟨_, _, _, taken⟩

theorem exists_taken (nonempty : s ≠ []) : ∃ tokens rest, Taken s tokens rest := by
  by_cases marked : opensMarker s = true
  · obtain ⟨_, _, rest, taken⟩ := exists_taken_of_startsMarker (opensMarker_iff.mp marked)
    exact ⟨_, rest, taken⟩
  -- Without a marker in front the text begins with its plain words, or with whitespace if it has
  -- none, and the whitespace behind them belongs to the same part.
  · have split := plainWords_append_eq s
    have ends : EndsPlain (trimStart (plainWords s).2) := by
      have stop := plainWord?_eq_none_iff.mp (plainWord?_plainWords s)
      rwa [opensMarker_iff] at stop
    have gap := takeWhile_append_trimStart (plainWords s).2
    have blank : ∀ x ∈ (plainWords s).2.takeWhile isBlank, isBlank x = true :=
      fun x hx => List.mem_takeWhile_imp hx
    generalize (plainWords s).2.takeWhile isBlank = blanks at gap blank
    by_cases noWord : (plainWords s).1 = []
    · have taken := Taken.blanks blanks (trimStart (plainWords s).2)
      rw [noWord, List.nil_append] at split
      rw [gap, split] at taken
      refine ⟨_, _, taken ?_ blank (split ▸ ends)⟩
      rintro rfl
      rw [List.nil_append, split] at gap
      rw [split, gap, EndsPlain, ← opensMarker_iff] at ends
      exact ends.elim nonempty marked
    · obtain ⟨⟨x, hx, solid⟩, bordered⟩ := plainWords_ends noWord
      have taken := Taken.literal ((plainWords s).1 ++ blanks) (trimStart (plainWords s).2)
      rw [List.append_assoc, gap, split] at taken
      refine ⟨_, _, taken ?_ ⟨x, List.mem_append_left _ hx, solid⟩ ends ?_⟩
      · intro w hw
        rw [words_append_blanks blank] at hw
        exact unmarked_plainWords s w hw
      · rcases List.eq_nil_or_concat blanks with rfl | ⟨blanks, y, rfl⟩
        · left
          rw [List.nil_append] at gap
          cases left : (plainWords s).2 with
          | nil => rfl
          | cons y t =>
            have blank' := bordered y (by rw [left]; rfl)
            have solid' := ends.solid_head y (by rw [gap, left]; rfl)
            exact absurd blank' (by simp [solid'])
        · right
          exact ⟨y, by simp, blank y (by simp)⟩

theorem Taken.unique {tokens' : List Token} {rest' : List Char} (h : Taken s tokens rest)
    (h' : Taken s tokens' rest') : tokens = tokens' ∧ rest = rest' :=
  Prod.mk.inj (Option.some.inj ((step?_of_taken h).symm.trans (step?_of_taken h')))

/-- The rules take just what is told of them. -/
theorem step?_eq_some_iff : step? s = some (tokens, rest) ↔ Taken s tokens rest := by
  constructor
  · intro h
    have nonempty : s ≠ [] := by
      rintro rfl
      exact absurd (step?_length h) (by simp)
    obtain ⟨tokens', rest', taken⟩ := exists_taken nonempty
    obtain ⟨rfl, rfl⟩ := Prod.mk.inj (Option.some.inj (h.symm.trans (step?_of_taken taken)))
    exact taken
  · exact step?_of_taken

inductive Scanned : List Char → List Token → Prop
  | nil : Scanned [] []
  | cons {s rest : List Char} {tokens more : List Token} (taken : Taken s tokens rest)
      (scanned : Scanned rest more) : Scanned s (tokens ++ more)

theorem scanned_scan (s : List Char) : Scanned s (scan s) := by
  fun_induction scan s with
  | case1 s empty => exact List.isEmpty_iff.mp empty ▸ .nil
  | case2 s nonempty declined =>
    obtain ⟨tokens, rest, taken⟩ := exists_taken (mt List.isEmpty_iff.mpr nonempty)
    exact absurd (step?_of_taken taken) (by simp [declined])
  | case3 s _ tokens rest found ih => exact .cons (step?_eq_some_iff.mp found) ih

theorem scan_eq_iff : scan s = tokens ↔ Scanned s tokens := by
  constructor
  · rintro rfl
    exact scanned_scan s
  · intro scanned
    induction scanned with
    | nil => unfold scan; rfl
    | cons taken scanned ih =>
      unfold scan
      rw [if_neg (mt List.isEmpty_iff.mp taken.ne_nil)]
      split
      · next declined => exact absurd (step?_of_taken taken) (by simp [declined])
      · next found =>
        obtain ⟨rfl, rfl⟩ := (step?_eq_some_iff.mp found).unique taken
        rw [ih]

end Taskbook.Lexer
