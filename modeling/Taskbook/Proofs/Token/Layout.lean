import Taskbook.Proofs.Token.Line

/-! Where the tokens of a line stand. Side by side, each with the gap behind it, they give the line
back to the letter. A gap is a whole run of whitespace: the first word or a parameter's name stands
in front of it, and a marker or nothing behind it. -/

set_option autoImplicit false

namespace Taskbook.Lexer

open Text

structure Gap where
  text : List Char
  blank : ∀ x ∈ text, isBlank x = true

def Gap.none : Gap := ⟨[], fun x hx => absurd hx (by simp)⟩

structure Placed where
  token : Token
  gap : Gap

/-- The text on which tokens stand side by side. -/
def spread (row : List Placed) : List Char :=
  row.flatMap fun p => p.token.text.toList ++ p.gap.text

def ink (s : List Char) : List Char := s.filter fun c => !isBlank c

/-- A text that begins with a gap, and the tokens behind it in their places, the end of the command
as the last. -/
inductive Laid : List Char → Gap → List Placed → Prop
  | nil : Laid [] .none [⟨Token.endOfCommand, .none⟩]
  | parameter {s rest : List Char} {dash name : Token} {gap : Gap} {row : List Placed}
      (taken : Taken s [dash, name] rest) (more : Laid rest gap row) :
      Laid s .none (⟨dash, .none⟩ :: ⟨name, gap⟩ :: row)
  | literal {s rest : List Char} {t : Token} {row : List Placed} (taken : Taken s [t] rest)
      (more : Laid rest .none row) : Laid s .none (⟨t, .none⟩ :: row)
  | blanks {s : List Char} {gap : Gap} {row : List Placed} (taken : Taken (gap.text ++ s) [] s)
      (more : Laid s .none row) : Laid (gap.text ++ s) gap row

/-- A line from its first word or marker on, with its tokens in their places. -/
inductive LaidLine : List Char → List Placed → Prop
  | headless {s : List Char} {row : List Placed} (ends : EndsPlain s) (laid : Laid s .none row) :
      LaidLine s row
  | headed {first : Token} {rest : List Char} {gap : Gap} {row : List Placed}
      (kind : first.kind ≠ .forwardDash) (nonempty : first.text.toList ≠ [])
      (solid : ∀ x ∈ first.text.toList, isBlank x = false) (plain : ¬ StartsMarker first.text.toList)
      (bordered : Bordered rest) (laid : Laid rest gap row) :
      LaidLine (first.text.toList ++ rest) (⟨first, gap⟩ :: row)

/-- A row in which gaps stand behind names alone, and reach up to a marker or the end. -/
def Spaced (row : List Placed) : Prop :=
  ∀ p after, p :: after <:+ row → p.gap.text ≠ [] → p.token.kind = .param ∧
    (∃ x ∈ p.token.text.toList.getLast?, isBlank x = false) ∧ EndsPlain (spread after)

variable {s t rest : List Char} {gap : Gap} {row : List Placed} {p : Placed} {after : List Placed}
  {tokens : List Token}

@[simp] theorem text_none : Gap.none.text = [] := rfl

@[simp] theorem spread_cons (p : Placed) (row : List Placed) :
    spread (p :: row) = p.token.text.toList ++ p.gap.text ++ spread row := List.flatMap_cons

@[simp] theorem spread_append (row more : List Placed) :
    spread (row ++ more) = spread row ++ spread more := List.flatMap_append

theorem ink_append (s t : List Char) : ink (s ++ t) = ink s ++ ink t := List.filter_append ..

private theorem ink_eq_nil (h : ∀ x ∈ s, isBlank x = true) : ink s = [] :=
  List.filter_eq_nil_iff.mpr fun x hx => by simp [h x hx]

private theorem ink_trimStart (s : List Char) : ink (trimStart s) = ink s := by
  conv_rhs => rw [← takeWhile_append_trimStart s, ink_append]
  rw [ink_eq_nil fun x hx => List.mem_takeWhile_imp hx, List.nil_append]

theorem ink_spread (row : List Placed) :
    ink (spread row) = ink ((row.map Placed.token).flatMap fun t => t.text.toList) := by
  induction row with
  | nil => rfl
  | cons p row ih =>
    rw [spread_cons, ink_append, ink_append, ink_eq_nil p.gap.blank, ih, List.append_nil,
      List.map_cons, List.flatMap_cons, ink_append]

theorem Taken.exists_eq_of_startsMarker (taken : Taken s tokens rest) (marked : StartsMarker s) :
    ∃ dash name, tokens = [dash, name] := by
  obtain ⟨_, _, _, marker⟩ := exists_taken_of_startsMarker marked
  exact ⟨_, _, (taken.unique marker).1⟩

theorem Taken.not_endsPlain (taken : Taken s [] rest) : ¬ EndsPlain s := by
  rintro (nothing | marked)
  · exact taken.ne_nil nothing
  · obtain ⟨_, _, same⟩ := taken.exists_eq_of_startsMarker marked
    exact absurd same (by simp)

private theorem Laid.gap_eq_none (laid : Laid s gap row) (ends : EndsPlain s) : gap = .none := by
  cases laid with
  | nil => rfl
  | parameter => rfl
  | literal => rfl
  | blanks taken => exact absurd ends taken.not_endsPlain

private theorem Scanned.exists_laid (scanned : Scanned s tokens) :
    ∃ gap row, Laid s gap row ∧ row.map Placed.token = tokens ++ [Token.endOfCommand] := by
  induction scanned with
  | nil => exact ⟨.none, _, .nil, rfl⟩
  | @cons s rest tokens more taken _ ih =>
    obtain ⟨gap, row, laid, same⟩ := ih
    have part := taken
    rw [List.append_assoc, ← same]
    cases taken with
    | parameter => exact ⟨.none, _, .parameter part laid, rfl⟩
    | literal s rest _ _ ends =>
      obtain rfl := laid.gap_eq_none ends
      exact ⟨.none, _, .literal part laid, rfl⟩
    | blanks s rest _ blank ends =>
      obtain rfl := laid.gap_eq_none ends
      let front : Gap := ⟨s, blank⟩
      exact ⟨front, row, @Laid.blanks rest front row part laid, rfl⟩

theorem Taken.eq_append (taken : Taken s tokens rest) (made : tokens ≠ []) :
    s = tokens.flatMap (fun t => t.text.toList) ++ rest := by
  cases taken with
  | parameter => simp
  | literal => simp
  | blanks => exact absurd rfl made

private theorem Laid.eq_append (laid : Laid s gap row) : s = gap.text ++ spread row := by
  induction laid with
  | nil => rfl
  | parameter taken _ ih =>
    have text := taken.eq_append (by simp)
    rw [ih] at text
    simpa using text
  | literal taken _ ih =>
    have text := taken.eq_append (by simp)
    rw [ih] at text
    simpa using text
  | blanks _ _ ih => exact congrArg _ ih

private theorem Laid.endsPlain (laid : Laid s gap row) (h : gap.text ≠ []) :
    EndsPlain (spread row) := by
  cases laid with
  | nil => exact absurd rfl h
  | parameter => exact absurd rfl h
  | literal => exact absurd rfl h
  | blanks taken more =>
    have text := more.eq_append
    rw [text_none, List.nil_append] at text
    generalize start : gap.text ++ _ = whole at taken
    cases taken with
    | blanks front s nonempty blank ends => exact text ▸ ends

private theorem Spaced.cons (spaced : Spaced row) (h : p.gap.text ≠ [] → p.token.kind = .param ∧
    (∃ x ∈ p.token.text.toList.getLast?, isBlank x = false) ∧ EndsPlain (spread row)) :
    Spaced (p :: row) := by
  intro q after suffix
  rcases List.suffix_cons_iff.mp suffix with same | suffix
  · obtain ⟨rfl, rfl⟩ := List.cons.inj same
    exact h
  · exact spaced q after suffix

private theorem Spaced.cons_none (spaced : Spaced row) (t : Token) : Spaced (⟨t, .none⟩ :: row) :=
  spaced.cons fun no => absurd rfl no

private theorem Taken.exists_solid_last {dash name : Token} (taken : Taken s [dash, name] rest) :
    name.kind = .param ∧ ∃ x ∈ name.text.toList.getLast?, isBlank x = false := by
  cases taken with
  | parameter _ letter inner rest _ first isName =>
    rw [String.toList_ofList]
    refine ⟨rfl, _, List.getLast?_eq_some_getLast (List.cons_ne_nil letter inner), ?_⟩
    have last := List.getLast_mem (List.cons_ne_nil letter inner)
    exact not_isBlank_of_isNameChar (isNameChar_of_mem_name first isName _ last)

private theorem Laid.spaced (laid : Laid s gap row) : Spaced row := by
  induction laid with
  | nil =>
    refine Spaced.cons_none (fun p after suffix => ?_) _
    exact absurd (List.suffix_nil.mp suffix) (by simp)
  | parameter taken more ih =>
    obtain ⟨param, last⟩ := taken.exists_solid_last
    exact (ih.cons fun nonempty => ⟨param, last, more.endsPlain nonempty⟩).cons_none _
  | literal _ _ ih => exact ih.cons_none _
  | blanks _ _ ih => exact ih

section Line

variable {line : String}

private theorem ink_line (text : spread row = trimStart line.toList)
    (tokens : row.map Placed.token = tokenize line) :
    ink (String.join ((tokenize line).map Token.text)).toList = ink line.toList := by
  have joined : (String.join ((tokenize line).map Token.text)).toList =
      (row.map Placed.token).flatMap fun t => t.text.toList := by
    rw [← tokens, String.toList_join, List.flatMap_map]
  rw [joined, ← ink_spread, text, ink_trimStart]

private theorem kind_ne_of_firstWord? {first : Token} (found : firstWord? s = some (first, rest)) :
    first.kind ≠ .forwardDash := by
  obtain ⟨_, _, _, made⟩ := of_firstWord? found
  rw [made]
  cases named : TokenKind.ofKeyword? (String.ofList (word s)) with
  | none => simp
  | some kind =>
    have keyword := TokenKind.keyword?_of_ofKeyword? named
    intro dash
    obtain rfl : kind = .forwardDash := dash
    exact absurd keyword (by simp [TokenKind.keyword?])

theorem exists_laidLine (line : String) :
    ∃ row, LaidLine (trimStart line.toList) row ∧ row.map Placed.token = tokenize line := by
  have start : ∀ x ∈ (trimStart line.toList).head?, isBlank x = false :=
    head_dropWhile isBlank line.toList
  unfold tokenize scanLine
  generalize trimStart line.toList = s at start
  cases found : firstWord? s with
  | none =>
    obtain ⟨gap, row, laid, tokens⟩ := (scanned_scan s).exists_laid
    have ends : EndsPlain s := by
      have headless := firstWord?_eq_none_iff.mp found
      rwa [← trimStart_of_head start, word_trimStart_eq_nil_iff, trimStart_of_head start] at headless
    obtain rfl := laid.gap_eq_none ends
    exact ⟨row, .headless ends laid, tokens⟩
  | some first =>
    obtain ⟨first, rest⟩ := first
    obtain ⟨split, nonempty, plain, made⟩ := of_firstWord? found
    obtain ⟨gap, row, laid, tokens⟩ := (scanned_scan rest).exists_laid
    have isWord : first.text.toList = word s := by rw [made, String.toList_ofList]
    have bordered : Bordered rest := by
      have behind : afterWord s = rest :=
        List.append_cancel_left ((word_append_afterWord s).trans split.symm)
      exact behind ▸ bordered_afterWord s
    rw [← isWord] at nonempty plain split
    have solid : ∀ x ∈ first.text.toList, isBlank x = false := isWord ▸ solid_word
    have line := LaidLine.headed (kind_ne_of_firstWord? found) nonempty solid plain bordered laid
    rw [split] at line
    exact ⟨_, line, congrArg (first :: ·) tokens⟩

theorem LaidLine.spread_eq (line : LaidLine s row) : spread row = s := by
  cases line with
  | headless _ laid => exact laid.eq_append.symm
  | headed _ _ _ _ _ laid => rw [spread_cons, List.append_assoc, ← laid.eq_append]

private theorem LaidLine.spaced (line : LaidLine s row) (suffix : p :: after <:+ row)
    (there : p.gap.text ≠ []) :
    (p.token.kind = .param ∨ p :: after = row ∧ (words s).head? = some p.token.text.toList) ∧
      (∃ x ∈ p.token.text.toList.getLast?, isBlank x = false) ∧ EndsPlain (spread after) := by
  cases line with
  | headless _ laid =>
    obtain ⟨param, last, stop⟩ := laid.spaced p after suffix there
    exact ⟨.inl param, last, stop⟩
  | headed _ nonempty solid _ bordered laid =>
    rcases List.suffix_cons_iff.mp suffix with same | suffix
    · obtain ⟨rfl, rfl⟩ := List.cons.inj same
      have last := solid _ (List.getLast_mem nonempty)
      refine ⟨.inr ⟨rfl, ?_⟩, ⟨_, List.getLast?_eq_some_getLast nonempty, last⟩,
        laid.endsPlain there⟩
      rw [words_solid_append solid nonempty bordered]
      rfl
    · obtain ⟨param, last, stop⟩ := laid.spaced p after suffix there
      exact ⟨.inl param, last, stop⟩

/-- Nothing but whitespace is left out of the tokens. -/
theorem exists_row_tokenize (line : String) :
    ∃ row, row.map Placed.token = tokenize line ∧ spread row = trimStart line.toList ∧
      (∀ p after, p :: after <:+ row → p.gap.text ≠ [] →
        (p.token.kind = .param ∨
            p :: after = row ∧ (words line.toList).head? = some p.token.text.toList) ∧
          (∃ x ∈ p.token.text.toList.getLast?, isBlank x = false) ∧ EndsPlain (spread after)) ∧
      ink (String.join ((tokenize line).map Token.text)).toList = ink line.toList := by
  obtain ⟨row, laid, tokens⟩ := exists_laidLine line
  have text := laid.spread_eq
  have sameWords : words (trimStart line.toList) = words line.toList := by
    conv_rhs => rw [← takeWhile_append_trimStart line.toList]
    rw [words_blanks_append fun x hx => List.mem_takeWhile_imp hx]
  refine ⟨row, tokens, text, fun p after suffix there => ?_, ink_line text tokens⟩
  rw [← sameWords]
  exact laid.spaced suffix there

end Line

end Taskbook.Lexer
