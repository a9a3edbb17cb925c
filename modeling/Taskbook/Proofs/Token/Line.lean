import Taskbook.Proofs.Token.Rules

/-! The tokens of a whole line: its first word, and what is scanned behind it. -/

set_option autoImplicit false

namespace Taskbook

open Text

private theorem TokenKind.ofKeyword?_of_keyword? {kind : TokenKind} {word : String}
    (h : kind.keyword? = some word) : ofKeyword? word = some kind := by
  cases kind <;> cases h <;> decide

theorem TokenKind.keyword?_of_ofKeyword? {kind : TokenKind} {word : String}
    (h : ofKeyword? word = some kind) : kind.keyword? = some word := by
  simpa using List.find?_some h

namespace Lexer

variable {s rest : List Char} {tokens : List Token} {t : Token}

theorem scan_of_taken (h : Taken s tokens rest) : scan s = tokens ++ scan rest :=
  scan_eq_iff.mpr (.cons h (scanned_scan rest))

theorem scan_nil : scan [] = [] := scan_eq_iff.mpr .nil

theorem exists_taken_of_mem_scan (h : t ∈ scan s) :
    ∃ front part tokens rest, s = front ++ part ∧ Taken part tokens rest ∧ t ∈ tokens := by
  have scanned := scanned_scan s
  revert h
  generalize scan s = tokens at scanned
  induction scanned with
  | nil => exact fun h => absurd h (by simp)
  | @cons s rest tokens more taken _ ih =>
    rw [List.mem_append]
    rintro (h | h)
    · exact ⟨[], s, tokens, rest, rfl, taken, h⟩
    · obtain ⟨front, part, tokens', rest', rfl, taken', h⟩ := ih h
      obtain ⟨before, _, rfl⟩ := taken.exists_part
      exact ⟨_, part, tokens', rest', (List.append_assoc before front part).symm, taken', h⟩

private theorem unmarked_of_mem_scan (h : t ∈ scan s) (literal : t.kind = .literal) :
    Unmarked t.text.toList := by
  obtain ⟨_, _, _, _, _, taken, made⟩ := exists_taken_of_mem_scan h
  cases taken with
  | parameter => rcases List.mem_pair.mp made with rfl | rfl <;> exact absurd literal (by simp)
  | literal s rest unmarked =>
    obtain rfl := List.mem_singleton.mp made
    rwa [String.toList_ofList]
  | blanks => exact absurd made (by simp)

private theorem mem_of_mem_scan {c : Char} (h : t ∈ scan s) (hc : c ∈ t.text.toList) : c ∈ s := by
  obtain ⟨front, _, _, _, rfl, taken, made⟩ := exists_taken_of_mem_scan h
  refine List.mem_append_right front ?_
  cases taken with
  | parameter dash letter name =>
    rcases List.mem_pair.mp made with rfl | rfl
    · obtain rfl : c = dash := by simpa using hc
      exact List.mem_cons_self
    · have inName : c ∈ letter :: name := by simpa using hc
      exact List.mem_append_left _ (List.mem_cons_of_mem dash inName)
  | literal =>
    obtain rfl := List.mem_singleton.mp made
    exact List.mem_append_left _ (by simpa using hc)
  | blanks => exact absurd made (by simp)

theorem firstWord?_eq_none_iff : firstWord? s = none ↔ word s = [] ∨ StartsMarker s := by
  unfold firstWord?
  split
  · next declined => simpa [opensMarker_iff, or_comm] using declined
  · next taken => simpa [opensMarker_iff, or_comm] using taken

theorem of_firstWord? (h : firstWord? s = some (t, rest)) :
    word s ++ rest = s ∧ word s ≠ [] ∧ ¬ StartsMarker (word s) ∧
      t = ⟨(TokenKind.ofKeyword? (String.ofList (word s))).getD .literal,
        String.ofList (word s)⟩ := by
  unfold firstWord? at h
  split at h
  · exact absurd h (by simp)
  · next plain =>
    obtain ⟨unmarked, nonempty⟩ : opensMarker s = false ∧ word s ≠ [] := by simpa using plain
    obtain ⟨rfl, rfl⟩ := Prod.mk.inj (Option.some.inj h)
    refine ⟨word_append_afterWord s, nonempty, ?_, rfl⟩
    rw [← opensMarker_iff, ← opensMarker_append nonempty (bordered_afterWord s),
      word_append_afterWord, unmarked]
    exact Bool.false_ne_true

theorem solid_word : ∀ x ∈ word s, isBlank x = false :=
  fun x hx => by simpa using List.mem_takeWhile_imp hx

private theorem mem_tokenize {line : String} (h : t ∈ tokenize line) :
    (∃ front word rest, line.toList = front ++ word ++ rest ∧ t.text.toList = word ∧
      Unmarked word) ∨ (∃ front rest, line.toList = front ++ rest ∧ t ∈ scan rest) ∨
      t = Token.endOfCommand := by
  have start := takeWhile_append_trimStart line.toList
  rcases List.mem_append.mp h with h | h
  · unfold scanLine at h
    split at h
    · exact .inr (.inl ⟨_, _, start.symm, h⟩)
    · next token rest found =>
      obtain ⟨split, nonempty, plain, rfl⟩ := of_firstWord? found
      rw [← split, ← List.append_assoc] at start
      rcases List.mem_cons.mp h with rfl | h
      · rw [← opensMarker_iff, Bool.not_eq_true] at plain
        have unmarked := unmarked_of_solid solid_word nonempty plain
        exact .inl ⟨_, _, _, start.symm, String.toList_ofList, unmarked⟩
      · exact .inr (.inl ⟨_, _, start.symm, h⟩)
  · exact .inr (.inr (List.mem_singleton.mp h))

theorem unmarked_of_mem_tokenize {line : String} (h : t ∈ tokenize line)
    (literal : t.kind = .literal) : Unmarked t.text.toList := by
  rcases mem_tokenize h with ⟨_, _, _, _, rfl, unmarked⟩ | ⟨_, _, _, h⟩ | rfl
  · exact unmarked
  · exact unmarked_of_mem_scan h literal
  · exact absurd literal (by decide)

theorem mem_of_mem_tokenize {line : String} {c : Char} (h : t ∈ tokenize line)
    (hc : c ∈ t.text.toList) : c ∈ line.toList := by
  rcases mem_tokenize h with ⟨_, _, _, split, rfl, _⟩ | ⟨_, _, split, h⟩ | rfl
  · rw [split]
    exact List.mem_append_left _ (List.mem_append_right _ hc)
  · rw [split]
    exact List.mem_append_right _ (mem_of_mem_scan h hc)
  · simp [Token.endOfCommand] at hc

theorem word_trimStart_append {front word : List Char} (blank : ∀ x ∈ front, isBlank x = true)
    (solid : ∀ x ∈ word, isBlank x = false) (nonempty : word ≠ []) (bordered : Bordered rest) :
    Lexer.word (trimStart (front ++ word ++ rest)) = word ∧
      afterWord (trimStart (front ++ word ++ rest)) = rest := by
  have start : trimStart (front ++ word ++ rest) = word ++ rest := by
    rw [List.append_assoc, trimStart, List.dropWhile_append_of_pos blank]
    refine trimStart_of_head fun x hx => solid x ?_
    rw [List.head?_append_of_ne_nil _ nonempty] at hx
    exact List.mem_of_head? hx
  rw [start]
  exact span_append (fun x hx => by simp [solid x hx]) fun x hx => by simp [bordered x hx]

theorem tokenize_of_plain {line word : String} {front : List Char}
    (blank : ∀ x ∈ front, isBlank x = true) (solid : ∀ x ∈ word.toList, isBlank x = false)
    (nonempty : word.toList ≠ []) (unmarked : opensMarker word.toList = false)
    (bordered : Bordered rest) (h : line.toList = front ++ word.toList ++ rest) :
    tokenize line = ⟨(TokenKind.ofKeyword? word).getD .literal, word⟩ :: scan rest ++
      [Token.endOfCommand] := by
  obtain ⟨first, behind⟩ := word_trimStart_append blank solid nonempty bordered
  rw [← h] at first behind
  have found : firstWord? (trimStart line.toList) =
      some (⟨(TokenKind.ofKeyword? word).getD .literal, word⟩, rest) := by
    have plain : opensMarker (trimStart line.toList) = false := by
      rw [← word_append_afterWord (trimStart line.toList), first, behind,
        opensMarker_append nonempty bordered, unmarked]
    have isWord := List.isEmpty_eq_false_iff.mpr nonempty
    unfold firstWord?
    rw [plain, first, behind, isWord, String.ofList_toList]
    rfl
  rw [tokenize, scanLine, found]

theorem tokenize_of_keyword? {line word : String} {kind : TokenKind} {front : List Char}
    (keyword : kind.keyword? = some word) (blank : ∀ x ∈ front, isBlank x = true)
    (bordered : Bordered rest) (h : line.toList = front ++ word.toList ++ rest) :
    tokenize line = ⟨kind, word⟩ :: scan rest ++ [Token.endOfCommand] := by
  have shape : word.toList.all (fun x => !isBlank x) = true ∧ word.toList ≠ [] ∧
      opensMarker word.toList = false := by
    cases kind <;> cases keyword <;> decide
  obtain ⟨solid', nonempty, unmarked⟩ := shape
  have solid : ∀ x ∈ word.toList, isBlank x = false :=
    fun x hx => by simpa using List.all_eq_true.mp solid' x hx
  rw [tokenize_of_plain blank solid nonempty unmarked bordered h,
    TokenKind.ofKeyword?_of_keyword? keyword, Option.getD_some]

end Lexer

end Taskbook
