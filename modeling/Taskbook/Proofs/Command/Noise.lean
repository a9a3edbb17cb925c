import Taskbook.Proofs.Command.Spelling
import Taskbook.Proofs.Token.Respell

/-! Spelling that makes no difference. A command is made from the bare tokens behind the first one,
and so is what is said about a line that is none; only an unknown word is repeated, and that is the
first word of the line as it stands. -/

set_option autoImplicit false

namespace Taskbook

open Text Lexer

/-- What comes of reading tokens: a command, or the text that is said about them. -/
def said (result : Except Refusal Command) : Except String Command :=
  result.mapError fun refusal => refusal.error.message

def Command.reading (line : String) : Except String Command := said (ofLine line)

variable {usage : Usage} {slot : Slot} {position : Nat} {closing t : Token}
  {ahead ahead' : List Token} {line line' : String} {s s' rest front back : List Char}
  {w : FirstWord}

section Tokens

@[simp] theorem trimmed_trimmed (text : String) : trimmed (trimmed text) = trimmed text := by
  have same := trim_append_append [] [] (isTrimmed_trim text.toList) (by simp) (by simp)
  rw [List.nil_append, List.append_nil] at same
  rw [trimmed, trimmed, String.toList_ofList, same]

@[simp] theorem Token.kind_bare (t : Token) : t.bare.kind = t.kind := rfl

namespace Slot

private theorem check_bare (right : t.kind = slot.kind) :
    slot.check usage t.bare.text = slot.check usage t.text := by
  obtain ⟨kind, content⟩ := t
  subst right
  cases slot with
  | dash | name | argument => rfl
  | text | view => simp only [check, kind, Token.bare, trimmed_trimmed]

private theorem feed_bare {slots : List Slot} (right : t.kind = slot.kind)
    (build : Build (slot :: slots)) :
    slot.feed t.bare.text build = slot.feed t.text build := by
  obtain ⟨kind, content⟩ := t
  subst right
  cases slot with
  | dash | name | view => rfl
  | text | argument => exact congrArg build (trimmed_trimmed content)

end Slot

private theorem said_readSlots_bare (slots : List Slot) (build : Slot.Build slots) (position : Nat)
    (ahead : List Token) :
    said (Form.readSlots usage slots build ⟨position, ahead.map Token.bare, closing⟩).1 =
      said (Form.readSlots usage slots build ⟨position, ahead, closing⟩).1 := by
  induction slots generalizing position ahead with
  | nil => cases ahead <;> rfl
  | cons slot slots ih =>
    cases ahead with
    | nil => rfl
    | cons t ahead =>
      rw [List.map_cons, Form.readSlots, Form.readSlots, Cursor.take?, Cursor.take?]
      dsimp only
      by_cases right : t.kind = slot.kind
      · have right' : t.bare.kind = slot.kind := right
        rw [if_pos right, if_pos right']
        dsimp only
        rw [Slot.check_bare right, Slot.feed_bare right]
        cases slot.check usage t.text with
        | error => rfl
        | ok => exact ih _ _ ahead
      · have wrong : ¬ t.bare.kind = slot.kind := right
        rw [if_neg right, if_neg wrong]
        rfl

private theorem said_parse_bare (position : Nat) (t : Token) (ahead : List Token) :
    said (Cursor.parse ⟨position, t :: ahead.map Token.bare, closing⟩).1 =
      said (Cursor.parse ⟨position, t :: ahead, closing⟩).1 := by
  have next : (Cursor.peek ⟨position + 1, ahead.map Token.bare, closing⟩).kind =
      (Cursor.peek ⟨position + 1, ahead, closing⟩).kind := by
    cases ahead <;> rfl
  simp only [Cursor.parse, next]
  cases Form.ofKind? t.kind (Cursor.peek ⟨position + 1, ahead, closing⟩).kind with
  | none => rfl
  | some form => exact said_readSlots_bare form.slots form.build (position + 1) ahead

/-- Tokens are read alike if the first of them is the same and the others are the same when bare. -/
private theorem said_ofTokens_eq (same : ahead.map Token.bare = ahead'.map Token.bare)
    (unended : ∀ u ∈ t :: ahead, u.kind ≠ .endOfCommand)
    (unended' : ∀ u ∈ t :: ahead', u.kind ≠ .endOfCommand) :
    said (Command.ofTokens (t :: ahead ++ [Token.endOfCommand])) =
      said (Command.ofTokens (t :: ahead' ++ [Token.endOfCommand])) := by
  rw [Command.ofTokens, Command.ofTokens, Cursor.ofTokens_append_end unended,
    Cursor.ofTokens_append_end unended', ← said_parse_bare, same, said_parse_bare]

end Tokens

section Lines

namespace Lexer

private theorem FirstWord.kind_ne_endOfCommand (w : FirstWord) : w.token.kind ≠ .endOfCommand := by
  rcases w.kind_token with literal | keyword
  · rw [literal]
    exact nofun
  · intro ends
    rw [ends] at keyword
    cases keyword

private theorem Headed.tokenize (headed : Headed w line.toList rest) :
    tokenize line = w.token :: scan rest ++ [Token.endOfCommand] := by
  obtain ⟨front, blank, split⟩ := headed.split
  have unmarked : opensMarker w.text.toList = false := by
    rw [← Bool.not_eq_true, opensMarker_iff]
    exact w.plain
  exact tokenize_of_plain blank w.solid w.toList_ne_nil unmarked headed.bordered split.symm

private theorem Headed.reading_eq (headed : Headed w line.toList rest) {rest' : List Char}
    (headed' : Headed w line'.toList rest')
    (same : (scan rest).map Token.bare = (scan rest').map Token.bare) :
    Command.reading line = Command.reading line' := by
  have unended (rest : List Char) : ∀ u ∈ w.token :: scan rest, u.kind ≠ .endOfCommand := by
    intro u mem
    rcases List.mem_cons.mp mem with rfl | mem
    · exact w.kind_ne_endOfCommand
    · exact kind_ne_of_mem_scan mem
  rw [Command.reading, Command.reading, Command.ofLine, Command.ofLine, headed.tokenize,
    headed'.tokenize]
  exact said_ofTokens_eq same (unended rest) (unended rest')

private theorem headed_cases (s : List Char) :
    trimStart s = [] ∨ StartsMarker (trimStart s) ∨ ∃ w rest, Headed w s rest := by
  by_cases blank : trimStart s = []
  · exact .inl blank
  by_cases marked : StartsMarker (trimStart s)
  · exact .inr (.inl marked)
  have nonempty : word (trimStart s) ≠ [] := mt word_trimStart_eq_nil_iff.mp blank
  have bordered := bordered_afterWord (trimStart s)
  have split := word_append_afterWord (trimStart s)
  let w : FirstWord :=
    { text := String.ofList (word (trimStart s))
      nonempty := mt String.ofList_eq_empty_iff.mp nonempty
      solid := by
        rw [String.toList_ofList]
        exact solid_word
      plain := by
        rw [String.toList_ofList]
        intro first
        exact marked (split ▸ first.append _) }
  have text : w.text.toList = word (trimStart s) := String.toList_ofList
  refine .inr (.inr ⟨w, afterWord (trimStart s), ⟨s.takeWhile isBlank, ?_, ?_⟩, bordered⟩)
  · exact fun x hx => List.mem_takeWhile_imp hx
  · rw [text, List.append_assoc, split, takeWhile_append_trimStart]

private theorem exists_headed (plain : ∀ word ∈ (words s).head?, ¬ StartsMarker word) :
    trimStart s = [] ∨ ∃ w rest, Headed w s rest := by
  rcases headed_cases s with blank | marked | headed
  · exact .inl blank
  · have nonempty : word (trimStart s) ≠ [] := mt word_trimStart_eq_nil_iff.mp marked.ne_nil
    have first : (words s).head? = some (word (trimStart s)) := by
      rw [← takeWhile_append_trimStart s, words_blanks_append fun x hx => List.mem_takeWhile_imp hx,
        words_eq_word_cons nonempty, takeWhile_append_trimStart]
      rfl
    rw [← word_append_afterWord (trimStart s), ← opensMarker_iff,
      opensMarker_append nonempty (bordered_afterWord _), opensMarker_iff] at marked
    exact absurd marked (plain _ first)
  · exact .inr headed

private theorem reading_of_startsMarker {dash : Char} (start : trimStart line.toList = dash :: s)
    (marked : StartsMarker (dash :: s)) :
    Command.reading line =
      .error (ParseError.message (.unknownCommand (String.singleton dash))) := by
  have noWord : firstWord? (dash :: s) = none := firstWord?_eq_none_iff.mpr (.inr marked)
  obtain ⟨_, letter, s, same, isDash, first⟩ := marked
  obtain ⟨rfl, rfl⟩ := List.cons.inj same
  have unended : ∀ u ∈ scan (dash :: letter :: s), u.kind ≠ .endOfCommand :=
    fun u mem => kind_ne_of_mem_scan mem
  rw [Command.reading, Command.ofLine, Lexer.tokenize, start, scanLine, noWord, Command.ofTokens,
    Cursor.ofTokens_append_end unended, scan_marker isDash first]
  rfl

private theorem Headed.surrounded (headed : Headed w s rest)
    (hfront : ∀ x ∈ front, isBlank x = true)
    (hback : ∀ x ∈ back, isBlank x = true) : Headed w (front ++ s ++ back) (rest ++ back) := by
  obtain ⟨front', blank, rfl⟩ := headed.split
  have outer : ∀ x ∈ front ++ front', isBlank x = true := by
    intro x hx
    rcases List.mem_append.mp hx with hx | hx
    · exact hfront x hx
    · exact blank x hx
  have stops : Bordered back := fun x hx => hback x (List.mem_of_mem_head? hx)
  exact ⟨⟨front ++ front', outer, by simp only [List.append_assoc]⟩, headed.bordered.append stops⟩

end Lexer

namespace Command

private theorem reading_surrounded {front back : String}
    (hfront : ∀ x ∈ front.toList, isBlank x = true) (hback : ∀ x ∈ back.toList, isBlank x = true)
    (line : String) :
    reading (front ++ line ++ back) = reading line := by
  have whole : (front ++ line ++ back).toList = front.toList ++ line.toList ++ back.toList := by
    rw [String.toList_append, String.toList_append]
  have start : trimStart (front ++ line ++ back).toList =
      if (trimStart line.toList).isEmpty then [] else trimStart line.toList ++ back.toList := by
    rw [whole, List.append_assoc, trimStart, List.dropWhile_append_of_pos hfront,
      List.dropWhile_append, List.dropWhile_eq_nil_iff.mpr hback]
    rfl
  rcases headed_cases line.toList with blank | marked | ⟨w, rest, headed⟩
  · rw [blank] at start
    rw [reading, reading, ofLine, ofLine, tokenize, tokenize, start, blank]
    rfl
  · obtain ⟨dash, letter, rest, same, both⟩ := marked
    rw [same] at start
    rw [reading_of_startsMarker start ⟨dash, letter, _, rfl, both⟩,
      reading_of_startsMarker same ⟨dash, letter, _, rfl, both⟩]
  · have headed' : Headed w (front ++ line ++ back).toList (rest ++ back.toList) := by
      rw [whole]
      exact headed.surrounded hfront hback
    exact headed'.reading_eq headed (bare_scan_append_blanks rest hback)

/-- Spelling makes no difference: whitespace around the line, and, if its first word is no marker,
which character a marker has and which whitespace is in front of it or behind the first word. -/
theorem reading_of_noise (line : String) :
    (∀ front back : String, (∀ x ∈ front.toList, isBlank x = true) →
      (∀ x ∈ back.toList, isBlank x = true) → reading (front ++ line ++ back) = reading line) ∧
    ((∀ word ∈ (words line.toList).head?, ¬ StartsMarker word) → ∀ line' : String,
      Relation.ReflTransGen Respelt line.toList line'.toList → reading line' = reading line) := by
  refine ⟨fun front back hfront hback => reading_surrounded hfront hback line, ?_⟩
  intro plain line' respelts
  rcases exists_headed plain with nothing | ⟨w, rest, headed⟩
  · rcases respelts.cases_head with same | ⟨_, respelt, _⟩
    · rw [String.toList_injective same]
    · exact absurd nothing respelt.trimStart_ne_nil
  · obtain ⟨rest', headed', same⟩ := headed_of_respelts respelts headed
    exact headed'.reading_eq headed same

/-- An event with a tab behind its first word, two spaces in front of a marker and a dash for a
slash. -/
theorem reading_of_noise_event :
    let line := "event a /from x /to y"
    let line' := "event\ta  /from x -to y"
    (∀ word ∈ (words line.toList).head?, ¬ StartsMarker word) ∧
      Relation.ReflTransGen Respelt line.toList line'.toList ∧
      reading (" " ++ line ++ "\n") = .ok (.addEvent "a" "x" "y") ∧
      reading line' = .ok (.addEvent "a" "x" "y") := by
  intro line line'
  have plain : ∀ word ∈ (words line.toList).head?, ¬ StartsMarker word := by
    intro word isFirst
    have first : (words line.toList).head? = some "event".toList := by decide +kernel
    rw [Option.mem_unique isFirst first, ← opensMarker_iff]
    decide
  have solid : ∀ x ∈ "event".toList, isBlank x = false := by
    have all : "event".toList.all (fun x => !isBlank x) = true := by decide +kernel
    exact fun x hx => by simpa using List.all_eq_true.mp all x hx
  have blankTab : ∀ x ∈ ['\t'], isBlank x = true := List.forall_mem_singleton.mpr (by decide)
  have blankTwo : ∀ x ∈ [' ', ' '], isBlank x = true :=
    List.forall_mem_cons.mpr ⟨by decide, blank_of_mem_space⟩
  have tab : Respelt line.toList "event\ta /from x /to y".toList := by
    have step := Respelt.behind [] "event".toList [' '] ['\t'] "a /from x /to y".toList (by simp)
      (by simp) solid (by simp) (by simp) blank_of_mem_space blankTab
    simpa [line] using step
  have spaces : Respelt "event\ta /from x /to y".toList "event\ta  /from x /to y".toList := by
    have step := Respelt.before "event\ta".toList [' '] [' ', ' '] "/from x /to y".toList (by simp)
      (by simp) blank_of_mem_space blankTwo (opensMarker_iff.mp (by decide +kernel))
    simpa using step
  have dash : Respelt "event\ta  /from x /to y".toList line'.toList := by
    have looking : Chained (tailWord ("event\ta  /from x".toList ++ [' '])) :=
      chained_of_gap _ (by simp) blank_of_mem_space
    have step := Respelt.dash _ "to y".toList '/' '-' (opensMarker_iff.mp (by decide +kernel))
      looking (.inr rfl)
    simpa [line'] using step
  have respelts : Relation.ReflTransGen Respelt line.toList line'.toList :=
    ((Relation.ReflTransGen.single tab).tail spaces).tail dash
  have made : reading line = .ok (.addEvent "a" "x" "y") := by decide +kernel
  obtain ⟨around, within⟩ := reading_of_noise line
  have front : ∀ x ∈ " ".toList, isBlank x = true := by simpa using blank_of_mem_space
  have back : ∀ x ∈ "\n".toList, isBlank x = true := by
    have newline : isBlank '\n' = true := by decide
    simpa using newline
  refine ⟨plain, respelts, ?_, (within plain line' respelts).trans made⟩
  exact (around " " "\n" front back).trans made

end Command

end Lines

end Taskbook
