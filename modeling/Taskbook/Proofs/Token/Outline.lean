import Taskbook.Proofs.Token.Line

/-! The outline of a line: a first word with text behind it, then parameters, each with or without a
text. The tokens of every line are those of an outline, and so they come in no other order: two
literals stand side by side at the start alone, and a keyword is never read further on. -/

set_option autoImplicit false

namespace Taskbook.Lexer

open Text

def IsName (s : List Char) : Prop :=
  ∃ letter rest, s = letter :: rest ∧ isLetter letter = true ∧ ∀ x ∈ s, isNameChar x = true

theorem IsName.cons {letter : Char} {name : List Char} (first : isLetter letter = true)
    (inner : ∀ x ∈ name, isNameChar x = true) : IsName (letter :: name) :=
  ⟨letter, name, rfl, first, isNameChar_of_mem_name first inner⟩

/-- A text that makes a literal: it holds more than whitespace, and no word of it begins with a
marker. -/
structure IsFree (s : List Char) : Prop where
  solid : ∃ x ∈ s, isBlank x = false
  unmarked : Unmarked s

structure FirstWord where
  text : String
  nonempty : text ≠ ""
  solid : ∀ x ∈ text.toList, isBlank x = false
  plain : ¬ StartsMarker text.toList

structure FreeText where
  text : String
  free : IsFree text.toList

structure Parameter where
  dash : Char
  name : String
  text : Option FreeText
  isDash : dash = '/' ∨ dash = '-'
  isName : IsName name.toList

/-- A line in its parts. Only behind a first word can there be text in front of all parameters. -/
structure Outline where
  head : Option (FirstWord × Option FreeText)
  parameters : List Parameter

def FirstWord.token (w : FirstWord) : Token :=
  ⟨(TokenKind.ofKeyword? w.text).getD .literal, w.text⟩

def FreeText.token (f : FreeText) : Token := ⟨.literal, f.text⟩

def Parameter.tokens (p : Parameter) : List Token :=
  ⟨.forwardDash, String.singleton p.dash⟩ :: ⟨.param, p.name⟩ :: (p.text.map FreeText.token).toList

namespace Outline

def behind (o : Outline) : List Token :=
  ((o.head.bind Prod.snd).map FreeText.token).toList ++ o.parameters.flatMap Parameter.tokens

def tokens (o : Outline) : List Token :=
  (o.head.map fun head => head.1.token).toList ++ o.behind ++ [Token.endOfCommand]

end Outline

section Kinds

variable {t : Token} {o : Outline}

private theorem FirstWord.isFree (w : FirstWord) : IsFree w.text.toList := by
  have nonempty : w.text.toList ≠ [] := mt String.toList_eq_nil_iff.mp w.nonempty
  have plain : opensMarker w.text.toList = false := by
    rw [← Bool.not_eq_true, opensMarker_iff]
    exact w.plain
  obtain ⟨x, hx⟩ := List.exists_mem_of_ne_nil _ nonempty
  exact ⟨⟨x, hx, w.solid x hx⟩, unmarked_of_solid w.solid nonempty plain⟩

theorem FirstWord.kind_token (w : FirstWord) :
    w.token.kind = .literal ∨ w.token.kind.keyword? = some w.text := by
  unfold FirstWord.token
  cases named : TokenKind.ofKeyword? w.text with
  | none => exact .inl rfl
  | some kind => exact .inr (TokenKind.keyword?_of_ofKeyword? named)

private theorem Outline.mem_behind (h : t ∈ o.behind) :
    t.kind = .forwardDash ∨ t.kind = .param ∧ IsName t.text.toList ∨
      t.kind = .literal ∧ IsFree t.text.toList := by
  have free (text : Option FreeText) (mem : t ∈ (text.map FreeText.token).toList) :
      t.kind = .literal ∧ IsFree t.text.toList := by
    obtain ⟨f, _, rfl⟩ := Option.map_eq_some_iff.mp (Option.mem_toList.mp mem)
    exact ⟨rfl, f.free⟩
  rcases List.mem_append.mp h with mem | mem
  · exact .inr (.inr (free _ mem))
  · obtain ⟨p, _, mem⟩ := List.mem_flatMap.mp mem
    rcases List.mem_cons.mp mem with rfl | mem
    · exact .inl rfl
    rcases List.mem_cons.mp mem with rfl | mem
    · exact .inr (.inl ⟨rfl, p.isName⟩)
    · exact .inr (.inr (free _ mem))

private theorem Outline.mem_tokens (h : t ∈ o.tokens) :
    t = Token.endOfCommand ∨ t.kind.keyword? = some t.text ∨ t.kind = .forwardDash ∨
      t.kind = .param ∧ IsName t.text.toList ∨ t.kind = .literal ∧ IsFree t.text.toList := by
  rcases List.mem_append.mp h with h | h
  · rcases List.mem_append.mp h with h | h
    · obtain ⟨head, _, rfl⟩ := Option.map_eq_some_iff.mp (Option.mem_toList.mp h)
      rcases head.1.kind_token with literal | keyword
      · exact .inr (.inr (.inr (.inr ⟨literal, head.1.isFree⟩)))
      · exact .inr (.inl keyword)
    · exact .inr (.inr (mem_behind h))
  · exact .inl (List.mem_singleton.mp h)

private theorem Outline.isFree_of_mem_tokens (h : t ∈ o.tokens) (literal : t.kind = .literal) :
    IsFree t.text.toList := by
  rcases mem_tokens h with rfl | keyword | dash | ⟨param, _⟩ | ⟨_, free⟩
  · exact absurd literal (by decide)
  · exact absurd keyword (by simp [literal, TokenKind.keyword?])
  · exact absurd literal (by simp [dash])
  · exact absurd literal (by simp [param])
  · exact free

private theorem Outline.isName_of_mem_tokens (h : t ∈ o.tokens) (param : t.kind = .param) :
    IsName t.text.toList := by
  rcases mem_tokens h with rfl | keyword | dash | ⟨_, isName⟩ | ⟨literal, _⟩
  · exact absurd param (by decide)
  · exact absurd keyword (by simp [param, TokenKind.keyword?])
  · exact absurd param (by simp [dash])
  · exact isName
  · exact absurd param (by simp [literal])

private theorem Outline.tokens_eq (o : Outline) :
    o.tokens = (o.head.map fun head => head.1.token).toList ++
      (o.behind ++ [Token.endOfCommand]) := by
  rw [tokens, List.append_assoc]

private theorem Outline.keyword?_of_mem_behind (h : t ∈ o.behind ++ [Token.endOfCommand]) :
    t.kind.keyword? = none := by
  rcases List.mem_append.mp h with h | h
  · rcases mem_behind h with kind | ⟨kind, _⟩ | ⟨kind, _⟩ <;> rw [kind] <;> rfl
  · rw [List.mem_singleton.mp h]
    rfl

private theorem Outline.keyword_of_getElem? {i : Nat} {keyword : String} (h : o.tokens[i]? = some t)
    (named : t.kind.keyword? = some keyword) :
    i = 0 ∧ t.text = keyword ∧ ∃ head ∈ o.head, t = head.1.token := by
  have notBehind : t ∉ o.behind ++ [Token.endOfCommand] := by
    intro mem
    rw [keyword?_of_mem_behind mem] at named
    exact absurd named (by simp)
  rw [tokens_eq] at h
  cases there : o.head with
  | none =>
    rw [there] at h
    exact absurd (List.mem_of_getElem? h) notBehind
  | some head =>
    rw [there] at h
    cases i with
    | succ i => exact absurd (List.mem_of_getElem? (i := i) h) notBehind
    | zero =>
      obtain rfl : head.1.token = t := Option.some.inj h
      rcases head.1.kind_token with literal | keyword'
      · exact absurd named (by simp [literal, TokenKind.keyword?])
      · exact ⟨rfl, Option.some.inj (keyword'.symm.trans named), head, rfl, rfl⟩

private theorem Outline.kind_ne_endOfCommand (h : t ∈ o.head.map (fun head => head.1.token)
    ∨ t ∈ o.behind) : t.kind ≠ .endOfCommand := by
  intro ends
  rcases h with h | h
  · obtain ⟨head, _, rfl⟩ := Option.map_eq_some_iff.mp h
    rcases head.1.kind_token with literal | keyword
    · exact absurd ends (by simp [literal])
    · exact absurd keyword (by simp [ends, TokenKind.keyword?])
  · rcases mem_behind h with kind | ⟨kind, _⟩ | ⟨kind, _⟩ <;> exact absurd ends (by simp [kind])

end Kinds

variable {s : List Char} {tokens : List Token}

private theorem Scanned.exists_parameters (scanned : Scanned s tokens) :
    ∃ (text : Option FreeText) (parameters : List Parameter),
      tokens = (text.map FreeText.token).toList ++ parameters.flatMap Parameter.tokens ∧
        (EndsPlain s → text = none) := by
  induction scanned with
  | nil => exact ⟨none, [], rfl, fun _ => rfl⟩
  | cons taken _ ih =>
    obtain ⟨text, parameters, rfl, apart⟩ := ih
    cases taken with
    | parameter dash letter name rest isDash first inner =>
      have isName : IsName (String.ofList (letter :: name)).toList := by
        rw [String.toList_ofList]
        exact .cons first inner
      exact ⟨none, ⟨dash, _, text, isDash, isName⟩ :: parameters, rfl, fun _ => rfl⟩
    | literal s rest unmarked solid ends gap =>
      have free : IsFree s := ⟨solid, unmarked⟩
      -- A literal ends at a marker, so no other one follows it.
      obtain rfl := apart ends
      refine ⟨some ⟨String.ofList s, by rwa [String.toList_ofList]⟩, parameters, rfl, ?_⟩
      rintro (nothing | marked)
      · obtain ⟨x, hx, _⟩ := solid
        exact absurd (List.append_eq_nil_iff.mp nothing).1 (List.ne_nil_of_mem hx)
      · obtain ⟨dash, name, _, marker⟩ := exists_taken_of_startsMarker marked
        have same := ((Taken.literal _ _ unmarked solid ends gap).unique marker).1
        exact absurd (congrArg List.length same) (by simp)
    | blanks s rest nonempty blank ends =>
      obtain rfl := apart ends
      exact ⟨none, parameters, rfl, fun _ => rfl⟩

private theorem Scanned.kind_of_endsPlain {t : Token} (scanned : Scanned s (t :: tokens))
    (ends : EndsPlain s) : t.kind = .forwardDash := by
  obtain ⟨text, parameters, same, apart⟩ := scanned.exists_parameters
  obtain rfl := apart ends
  cases parameters with
  | nil => cases same
  | cons p parameters => rw [(List.cons.inj same).1]

private theorem Scanned.eq_nil_of_endsPlain (scanned : Scanned s []) (ends : EndsPlain s) :
    s = [] := by
  rcases ends with nothing | marked
  · exact nothing
  · obtain ⟨dash, name, rest, taken⟩ := exists_taken_of_startsMarker marked
    have made := scan_of_taken taken
    rw [scan_eq_iff.mpr scanned] at made
    cases made

theorem scan_of_isFree (h : IsFree s) : scan s = [⟨.literal, String.ofList s⟩] := by
  have taken := Taken.literal s [] h.unmarked h.solid (.inl rfl) (.inl rfl)
  rw [List.append_nil] at taken
  rw [scan_of_taken taken, scan]
  rfl

theorem scan_eq_literal_iff {text : String} :
    scan s = [⟨.literal, text⟩] ↔ IsFree s ∧ text = String.ofList s := by
  constructor
  · intro alone
    have scanned := scanned_scan s
    rw [alone] at scanned
    generalize one : [Token.mk .literal text] = tokens at scanned
    cases scanned with
    | nil => cases one
    | cons taken scanned =>
      cases taken with
      | parameter => cases one
      | literal s rest unmarked solid ends =>
        obtain ⟨same, none⟩ := List.cons.inj one
        have left := Scanned.eq_nil_of_endsPlain (none ▸ scanned) ends
        rw [left, List.append_nil]
        exact ⟨⟨solid, unmarked⟩, congrArg Token.text same⟩
      | blanks s rest nonempty blank ends =>
        rw [List.nil_append] at one
        have dashed := Scanned.kind_of_endsPlain (one ▸ scanned) ends
        cases dashed
  · rintro ⟨free, rfl⟩
    exact scan_of_isFree free

theorem kind_ne_of_mem_scan {t : Token} (mem : t ∈ scan s) : t.kind ≠ .endOfCommand := by
  obtain ⟨_, _, _, _, _, taken, made⟩ := exists_taken_of_mem_scan mem
  cases taken with
  | parameter => rcases List.mem_pair.mp made with rfl | rfl <;> simp
  | literal => simp [List.mem_singleton.mp made]
  | blanks => cases made

private theorem exists_outline (line : String) :
    ∃ o : Outline, tokenize line = o.tokens ∧
      (o.head = none ↔ trimStart line.toList = [] ∨ StartsMarker (trimStart line.toList)) ∧
      ∀ head ∈ o.head, (words line.toList).head? = some head.1.text.toList := by
  have headless := firstWord?_eq_none_iff (s := trimStart line.toList)
  rw [word_trimStart_eq_nil_iff] at headless
  cases found : firstWord? (trimStart line.toList) with
  | none =>
    have ends : EndsPlain (trimStart line.toList) := headless.mp found
    obtain ⟨text, parameters, scanned, apart⟩ :=
      (scanned_scan (trimStart line.toList)).exists_parameters
    obtain rfl := apart ends
    refine ⟨⟨none, parameters⟩, ?_, iff_of_true rfl ends, fun _ no => absurd no (by simp)⟩
    simp only [tokenize, scanLine, found, scanned]
    rfl
  | some first =>
    obtain ⟨token, rest⟩ := first
    obtain ⟨_, nonempty, plain, rfl⟩ := of_firstWord? found
    obtain ⟨text, parameters, scanned, _⟩ := (scanned_scan rest).exists_parameters
    let w : FirstWord :=
      { text := String.ofList (word (trimStart line.toList))
        nonempty := mt String.ofList_eq_empty_iff.mp nonempty
        solid := by
          rw [String.toList_ofList]
          exact solid_word
        plain := by rwa [String.toList_ofList] }
    have isFirst : (words line.toList).head? = some w.text.toList := by
      rw [← takeWhile_append_trimStart line.toList,
        words_blanks_append fun x hx => List.mem_takeWhile_imp hx, words_eq_word_cons nonempty,
        String.toList_ofList]
      rfl
    have headed : ¬ (trimStart line.toList = [] ∨ StartsMarker (trimStart line.toList)) := by
      rw [← headless, found]
      simp
    refine ⟨⟨some (w, text), parameters⟩, ?_, iff_of_false (by simp) headed, ?_⟩
    · simp only [tokenize, scanLine, found, scanned]
      rfl
    · intro head same
      obtain rfl := Option.some.inj same
      exact isFirst

/-- The tokens of a line are those of an outline. -/
theorem tokenize_eq_tokens_outline (line : String) :
    ∃ o : Outline, tokenize line = o.tokens ∧
      (o.head = none ↔ trimStart line.toList = [] ∨ StartsMarker (trimStart line.toList)) ∧
      (∀ head ∈ o.head, (words line.toList).head? = some head.1.text.toList) ∧
      (∀ (i : Nat) (t : Token) (keyword : String), (tokenize line)[i]? = some t →
        t.kind.keyword? = some keyword →
          i = 0 ∧ t.text = keyword ∧ ∃ head ∈ o.head, t = head.1.token) ∧
      (∀ t ∈ tokenize line, t.kind = .param → IsName t.text.toList) ∧
      (∀ t ∈ tokenize line, t.kind = .literal → IsFree t.text.toList) ∧
      ∃ before, tokenize line = before ++ [Token.endOfCommand] ∧
        ∀ t ∈ before, t.kind ≠ .endOfCommand := by
  obtain ⟨o, same, headless, first⟩ := exists_outline line
  refine ⟨o, same, headless, first, ?_, ?_, ?_, ?_⟩
  · intro i t keyword
    rw [same]
    exact Outline.keyword_of_getElem?
  · intro t
    rw [same]
    exact Outline.isName_of_mem_tokens
  · intro t
    rw [same]
    exact Outline.isFree_of_mem_tokens
  · refine ⟨_, same, fun t mem => Outline.kind_ne_endOfCommand (o := o) ?_⟩
    rwa [List.mem_append, Option.mem_toList] at mem

end Taskbook.Lexer
