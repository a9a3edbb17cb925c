import Taskbook.Proofs.Command.Grammar
import Taskbook.Proofs.Command.Number
import Taskbook.Proofs.Token.Outline

/-! Which commands a line can give, and a line for each of them. A text comes out of a line trimmed
and without a marker at the start of a word; and every such text goes into a line as it is, with a
space on either side of it. -/

set_option autoImplicit false

namespace Taskbook

open Text Lexer

variable {text : String} {tokens : List Token} {c : Command}

def Command.texts : Command → List String
  | .exit | .list .all | .mark _ | .unmark _ | .delete _ => []
  | .list (.byDate field) => [field]
  | .addTodo description => [description]
  | .addDeadline description due => [description, due]
  | .addEvent description start finish => [description, start, finish]

/-- A line that gives a command and has nothing in it beyond what is needed. -/
def Command.spelled : Command → String
  | .exit => "bye"
  | .list .all => "list"
  | .list (.byDate field) => "list /view date /attribute " ++ field
  | .mark number => "mark " ++ number.text
  | .unmark number => "unmark " ++ number.text
  | .delete number => "delete " ++ number.text
  | .addTodo description => "todo " ++ description
  | .addDeadline description due => "deadline " ++ description ++ " /by " ++ due
  | .addEvent description start finish =>
    "event " ++ description ++ " /from " ++ start ++ " /to " ++ finish

namespace Sentence

private theorem exists_literal (h : Sentence tokens c) (mem : text ∈ c.texts) :
    ∃ content, ⟨.literal, content⟩ ∈ tokens ∧ text = trimmed content ∧ text ≠ "" := by
  cases h with
  | exit | list | mark | unmark | delete => simp [Command.texts] at mem
  | listView | todo | deadline | event =>
    simp only [Command.texts, List.mem_cons, List.not_mem_nil, or_false] at mem
    rcases mem with rfl | rfl | rfl <;> exact ⟨_, by simp, rfl, ‹_›⟩

private theorem kind_ne (h : Sentence tokens c) : ∀ t ∈ tokens, t.kind ≠ .endOfCommand := by
  cases h <;> simp

end Sentence

namespace Lexer

private theorem Unmarked.canonical_trimmed (h : Unmarked text.toList)
    (nonempty : trimmed text ≠ "") :
    Canonical (trimmed text) where
  nonempty
  isTrimmed := by
    rw [trimmed, String.toList_ofList]
    exact isTrimmed_trim text.toList
  unmarked := by
    rw [trimmed, String.toList_ofList]
    intro w hw
    rw [words_trim] at hw
    exact h w hw

variable {rest : List Char}

private theorem Canonical.trimmed_behind (h : Canonical text) :
    trimmed (String.ofList (' ' :: text.toList)) = text := by
  have trim := trim_append_append [' '] [] h.isTrimmed blank_of_mem_space (by simp)
  simp only [List.append_nil, List.singleton_append] at trim
  rw [trimmed, String.toList_ofList, trim, String.ofList_toList]

private theorem Canonical.trimmed_between (h : Canonical text) :
    trimmed (String.ofList (' ' :: (text.toList ++ [' ']))) = text := by
  have trim := trim_append_append [' '] [' '] h.isTrimmed blank_of_mem_space blank_of_mem_space
  simp only [List.cons_append, List.nil_append] at trim
  rw [trimmed, String.toList_ofList, trim, String.ofList_toList]

private theorem Canonical.exists_solid (h : Canonical text) :
    ∃ x ∈ text.toList, isBlank x = false := by
  cases chars : text.toList with
  | nil => exact absurd (String.toList_eq_nil_iff.mp chars) h.nonempty
  | cons x s => exact ⟨x, List.mem_cons_self, h.isTrimmed.head x (by rw [chars]; rfl)⟩

private theorem Canonical.unmarked_append (h : Canonical text)
    (blank : ∀ x ∈ rest, isBlank x = true) :
    Unmarked (' ' :: (text.toList ++ rest)) := by
  intro w hw
  rw [← List.singleton_append, words_blanks_append blank_of_mem_space,
    words_append_blanks blank] at hw
  exact h.unmarked w hw

private theorem Canonical.scan_last (h : Canonical text) :
    scan (' ' :: text.toList) = [⟨.literal, String.ofList (' ' :: text.toList)⟩] := by
  obtain ⟨x, hx, solid⟩ := h.exists_solid
  have unmarked : Unmarked (' ' :: (text.toList ++ [])) := h.unmarked_append (by simp)
  rw [List.append_nil] at unmarked
  exact scan_of_isFree ⟨⟨x, List.mem_cons_of_mem _ hx, solid⟩, unmarked⟩

private theorem Canonical.scan_before (h : Canonical text) (marked : StartsMarker rest) :
    scan (' ' :: (text.toList ++ ' ' :: rest)) =
      ⟨.literal, String.ofList (' ' :: (text.toList ++ [' ']))⟩ :: scan rest := by
  obtain ⟨x, hx, solid⟩ := h.exists_solid
  have taken := Taken.literal (' ' :: (text.toList ++ [' '])) rest
    (h.unmarked_append blank_of_mem_space)
    ⟨x, by simp [hx], solid⟩ (.inr marked)
    (.inr ⟨' ', List.getLast?_concat (l := ' ' :: text.toList), by decide⟩)
  simp only [List.cons_append, List.append_assoc, List.nil_append] at taken
  exact scan_of_taken taken

private theorem scan_parameter {letter : Char} {name : List Char} (first : isLetter letter = true)
    (inner : ∀ x ∈ name, isNameChar x = true) :
    scan ('/' :: letter :: (name ++ ' ' :: rest)) =
      ⟨.forwardDash, "/"⟩ :: ⟨.param, String.ofList (letter :: name)⟩ :: scan (' ' :: rest) := by
  have stop : ∀ x ∈ (' ' :: rest).head?, isNameChar x = false := by
    rintro x ⟨⟩
    decide
  exact scan_of_taken (.parameter '/' letter name (' ' :: rest) (.inl rfl) first inner stop)

end Lexer

theorem Cursor.ofTokens_append_end (unended : ∀ t ∈ tokens, t.kind ≠ .endOfCommand) :
    ofTokens (tokens ++ [Token.endOfCommand]) = ⟨0, tokens, Token.endOfCommand⟩ := by
  have body : (tokens ++ [Token.endOfCommand]).takeWhile (fun t => t.kind != .endOfCommand) =
      tokens := by
    rw [List.takeWhile_append_of_pos fun t ht => by simpa using unended t ht]
    simp [Token.endOfCommand]
  have noEnd : tokens.find? (fun t => t.kind == .endOfCommand) = none :=
    List.find?_eq_none.mpr fun t ht => by simpa using unended t ht
  rw [ofTokens, body, List.find?_append, noEnd]
  rfl

namespace Command

private theorem ofLine_of_sentence {line : String}
    (h : tokenize line = tokens ++ [Token.endOfCommand])
    (sentence : Sentence tokens c) : ofLine line = .ok c := by
  rw [ofLine, h, ofTokens, Cursor.ofTokens_append_end sentence.kind_ne]
  exact (Cursor.parse_eq_ok_iff rfl).mpr sentence

theorem canonical_of_ofLine {line : String} (h : ofLine line = .ok c) :
    ∀ text ∈ c.texts, Canonical text := by
  intro text mem
  obtain ⟨content, inLine, rfl, nonempty⟩ := (ofTokens_eq_ok_iff.mp h).exists_literal mem
  have unmarked := unmarked_of_mem_tokenize ((List.takeWhile_prefix _).mem inLine) rfl
  exact unmarked.canonical_trimmed nonempty

private theorem ofLine_of_keyword? {line word : String} {kind : TokenKind} {rest : List Char}
    (keyword : kind.keyword? = some word) (bordered : Bordered rest)
    (h : line.toList = word.toList ++ rest) (sentence : Sentence (⟨kind, word⟩ :: scan rest) c) :
    ofLine line = .ok c := by
  have split : line.toList = [] ++ word.toList ++ rest := h
  exact ofLine_of_sentence (tokenize_of_keyword? keyword (by simp) bordered split) sentence

private theorem ofLine_of_text {line word text : String} {kind : TokenKind}
    (keyword : kind.keyword? = some word) (canonical : Canonical text)
    (h : line.toList = word.toList ++ ' ' :: text.toList)
    (sentence : Sentence [⟨kind, word⟩, ⟨.literal, String.ofList (' ' :: text.toList)⟩] c) :
    ofLine line = .ok c := by
  refine ofLine_of_keyword? keyword (bordered_space text.toList) h ?_
  rw [canonical.scan_last]
  exact sentence

private theorem decimal_behind (number : TaskNumber) :
    Decimal (trimmed (String.ofList (' ' :: number.text.toList))).toList number.value := by
  rw [number.canonical_text.trimmed_behind]
  exact number.decimal_text

private theorem ofLine_list {field : String} (canonical : Canonical field) :
    ofLine (spelled (.list (.byDate field))) = .ok (.list (.byDate field)) := by
  have chars : ("list /view date /attribute " ++ field).toList = "list".toList ++
      ' ' :: '/' :: 'v' :: ("iew".toList ++ ' ' :: ("date".toList ++ ' ' :: '/' :: 'a' ::
        ("ttribute".toList ++ ' ' :: field.toList))) := by
    simp [String.toList_append]
  have solid : "date".toList.all (fun x => !isBlank x) = true := by decide
  have date : Canonical "date" :=
    canonical_of_solid (by decide) (fun x hx => by simpa using List.all_eq_true.mp solid x hx)
      (by decide)
  refine ofLine_of_keyword? (rfl : TokenKind.list.keyword? = some "list") (bordered_space _)
    chars ?_
  have blank (s : List Char) : scan (' ' :: '/' :: 'v' :: s) = scan ('/' :: 'v' :: s) :=
    scan_of_taken (.blanks [' '] ('/' :: 'v' :: s) (by simp) blank_of_mem_space
      (.inr ⟨'/', 'v', s, rfl, .inl rfl, by decide⟩))
  rw [blank, scan_parameter (by decide) (List.all_eq_true.mp (by decide)),
    date.scan_before ⟨'/', 'a', _, rfl, .inl rfl, by decide⟩,
    scan_parameter (by decide) (List.all_eq_true.mp (by decide)), canonical.scan_last]
  have sentence := Sentence.listView "list" "/"
    (String.ofList (' ' :: ("date".toList ++ [' ']))) "/" (String.ofList (' ' :: field.toList))
  rw [date.trimmed_between, canonical.trimmed_behind] at sentence
  exact sentence rfl canonical.nonempty

private theorem ofLine_addDeadline {description due : String} (canonical : Canonical description)
    (canonical' : Canonical due) :
    ofLine (spelled (.addDeadline description due)) = .ok (.addDeadline description due) := by
  have chars : ("deadline " ++ description ++ " /by " ++ due).toList = "deadline".toList ++
      ' ' :: (description.toList ++ ' ' :: '/' :: 'b' :: ("y".toList ++ ' ' :: due.toList)) := by
    simp [String.toList_append]
  refine ofLine_of_keyword? (rfl : TokenKind.deadline.keyword? = some "deadline") (bordered_space _)
    chars ?_
  rw [canonical.scan_before ⟨'/', 'b', _, rfl, .inl rfl, by decide⟩,
    scan_parameter (by decide) (List.all_eq_true.mp (by decide)), canonical'.scan_last]
  have sentence := Sentence.deadline "deadline"
    (String.ofList (' ' :: (description.toList ++ [' ']))) "/" (String.ofList (' ' :: due.toList))
  rw [canonical.trimmed_between, canonical'.trimmed_behind] at sentence
  exact sentence canonical.nonempty canonical'.nonempty

private theorem ofLine_addEvent {description start finish : String}
    (canonical : Canonical description) (canonical' : Canonical start)
    (canonical'' : Canonical finish) :
    ofLine (spelled (.addEvent description start finish)) =
      .ok (.addEvent description start finish) := by
  have chars : ("event " ++ description ++ " /from " ++ start ++ " /to " ++ finish).toList =
      "event".toList ++ ' ' :: (description.toList ++ ' ' :: '/' :: 'f' :: ("rom".toList ++
        ' ' :: (start.toList ++ ' ' :: '/' :: 't' :: ("o".toList ++ ' ' :: finish.toList)))) := by
    simp [String.toList_append]
  refine ofLine_of_keyword? (rfl : TokenKind.event.keyword? = some "event") (bordered_space _)
    chars ?_
  rw [canonical.scan_before ⟨'/', 'f', _, rfl, .inl rfl, by decide⟩,
    scan_parameter (by decide) (List.all_eq_true.mp (by decide)),
    canonical'.scan_before ⟨'/', 't', _, rfl, .inl rfl, by decide⟩,
    scan_parameter (by decide) (List.all_eq_true.mp (by decide)), canonical''.scan_last]
  have sentence := Sentence.event "event" (String.ofList (' ' :: (description.toList ++ [' '])))
    "/" (String.ofList (' ' :: (start.toList ++ [' ']))) "/" (String.ofList (' ' :: finish.toList))
  rw [canonical.trimmed_between, canonical'.trimmed_between, canonical''.trimmed_behind] at sentence
  exact sentence canonical.nonempty canonical'.nonempty canonical''.nonempty

private theorem ofLine_spelled (h : ∀ text ∈ c.texts, Canonical text) :
    ofLine c.spelled = .ok c := by
  have nothing : scan [] = [] := by unfold scan; rfl
  cases c with
  | exit =>
    refine ofLine_of_keyword? (rfl : TokenKind.exit.keyword? = some "bye") bordered_nil rfl ?_
    rw [nothing]
    exact .exit "bye"
  | list view =>
    cases view with
    | all =>
      refine ofLine_of_keyword? (rfl : TokenKind.list.keyword? = some "list") bordered_nil rfl ?_
      rw [nothing]
      exact .list "list"
    | byDate field => exact ofLine_list (h field (by simp [texts]))
  | mark number =>
    have chars : ("mark " ++ number.text).toList = "mark".toList ++ ' ' :: number.text.toList := by
      simp [String.toList_append]
    exact ofLine_of_text (rfl : TokenKind.mark.keyword? = some "mark") number.canonical_text chars
      (.mark _ _ number (decimal_behind number))
  | unmark number =>
    have chars : ("unmark " ++ number.text).toList =
        "unmark".toList ++ ' ' :: number.text.toList := by
      simp [String.toList_append]
    exact ofLine_of_text (rfl : TokenKind.unmark.keyword? = some "unmark") number.canonical_text
      chars (.unmark _ _ number (decimal_behind number))
  | delete number =>
    have chars : ("delete " ++ number.text).toList =
        "delete".toList ++ ' ' :: number.text.toList := by
      simp [String.toList_append]
    exact ofLine_of_text (rfl : TokenKind.delete.keyword? = some "delete") number.canonical_text
      chars (.delete _ _ number (decimal_behind number))
  | addTodo description =>
    have canonical : Canonical description := h description (by simp [texts])
    have chars : ("todo " ++ description).toList = "todo".toList ++ ' ' :: description.toList := by
      simp [String.toList_append]
    have sentence := Sentence.todo "todo" (String.ofList (' ' :: description.toList))
    rw [canonical.trimmed_behind] at sentence
    exact ofLine_of_text (rfl : TokenKind.todo.keyword? = some "todo") canonical chars
      (sentence canonical.nonempty)
  | addDeadline description due =>
    exact ofLine_addDeadline (h description (by simp [texts])) (h due (by simp [texts]))
  | addEvent description start finish =>
    exact ofLine_addEvent (h description (by simp [texts])) (h start (by simp [texts]))
      (h finish (by simp [texts]))

theorem mem_of_ofLine {line text : String} {x : Char} (h : ofLine line = .ok c)
    (mem : text ∈ c.texts) (hx : x ∈ text.toList) : x ∈ line.toList := by
  obtain ⟨content, inLine, rfl, _⟩ := (ofTokens_eq_ok_iff.mp h).exists_literal mem
  obtain ⟨front, back, split, _⟩ := exists_eq_append_trim content.toList
  refine mem_of_mem_tokenize ((List.takeWhile_prefix _).mem inLine) ?_
  rw [trimmed, String.toList_ofList] at hx
  rw [split]
  exact List.mem_append_left back (List.mem_append_right front hx)

/-- The commands that lines give are those whose texts can stand on a line as they are, and each of
them is given by its plain line. -/
theorem exists_ofLine_iff_spelled (c : Command) :
    ((∃ line, ofLine line = .ok c) ↔ ∀ text ∈ c.texts, Canonical text) ∧
      (ofLine c.spelled = .ok c ↔ ∀ text ∈ c.texts, Canonical text) :=
  ⟨⟨fun ⟨_, h⟩ => canonical_of_ofLine h, fun h => ⟨c.spelled, ofLine_spelled h⟩⟩,
    ⟨canonical_of_ofLine, ofLine_spelled⟩⟩

end Command

end Taskbook
