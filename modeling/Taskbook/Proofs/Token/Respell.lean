import Mathlib.Logic.Relation
import Taskbook.Proofs.Token.Chain

/-! Two spellings of a line. Where a marker has the other character in front of its name, or where
whitespace in front of a marker or behind the first word is other whitespace, the tokens change only
in what no command is made from. A scan can be cut in front of a marker, so what changes at one place
of the line changes no token of another one. -/

set_option autoImplicit false

namespace Taskbook

open Text

/-- A token without what no command is made from: which character a marker has, and the whitespace
around a text. -/
def Token.bare (t : Token) : Token where
  kind := t.kind
  text :=
    match t.kind with
    | .forwardDash => ""
    | .literal => trimmed t.text
    | _ => t.text

private theorem Token.bare_literal {x y : String} (same : trimmed x = trimmed y) :
    bare ⟨.literal, x⟩ = bare ⟨.literal, y⟩ := by
  simp [bare, same]

namespace Lexer

/-- A line, the first word of it, which is not a marker, and what stands behind that. -/
structure Headed (w : FirstWord) (s rest : List Char) : Prop where
  split : ∃ front, (∀ x ∈ front, isBlank x = true) ∧ front ++ w.text.toList ++ rest = s
  bordered : Bordered rest

/-- One change of a line's spelling. -/
inductive Respelt : List Char → List Char → Prop
  /-- A marker has the other one of its two characters. -/
  | dash (a b : List Char) (dash dash' : Char) (marked : StartsMarker (dash :: b))
      (looking : Chained (tailWord a)) (isDash : dash' = '/' ∨ dash' = '-') :
      Respelt (a ++ dash :: b) (a ++ dash' :: b)
  /-- There is other whitespace in front of a marker. -/
  | before (a gap gap' b : List Char) (nonempty : gap ≠ []) (nonempty' : gap' ≠ [])
      (blank : ∀ x ∈ gap, isBlank x = true) (blank' : ∀ x ∈ gap', isBlank x = true)
      (marked : StartsMarker b) : Respelt (a ++ gap ++ b) (a ++ gap' ++ b)
  /-- There is other whitespace behind the first word. -/
  | behind (front word gap gap' b : List Char) (outer : ∀ x ∈ front, isBlank x = true)
      (isWord : word ≠ []) (solid : ∀ x ∈ word, isBlank x = false) (nonempty : gap ≠ [])
      (nonempty' : gap' ≠ []) (blank : ∀ x ∈ gap, isBlank x = true)
      (blank' : ∀ x ∈ gap', isBlank x = true) :
      Respelt (front ++ word ++ gap ++ b) (front ++ word ++ gap' ++ b)

variable {s s' t a b front part rest gap : List Char} {tokens : List Token} {w : FirstWord}

section Blanks

private theorem trimmed_append_blanks (s : List Char) (blank : ∀ x ∈ gap, isBlank x = true) :
    trimmed (String.ofList (s ++ gap)) = trimmed (String.ofList s) := by
  obtain ⟨front, back, split, hfront, hback⟩ := exists_eq_append_trim s
  have behind : ∀ x ∈ back ++ gap, isBlank x = true := by
    intro x hx
    rcases List.mem_append.mp hx with hx | hx
    · exact hback x hx
    · exact blank x hx
  have same : trim (s ++ gap) = trim s := by
    conv_lhs => rw [split, List.append_assoc]
    exact trim_append_append front (back ++ gap) (isTrimmed_trim s) hfront behind
  rw [trimmed, trimmed, String.toList_ofList, String.toList_ofList, same]

private theorem trimmed_blanks_append (s : List Char) (blank : ∀ x ∈ gap, isBlank x = true) :
    trimmed (String.ofList (gap ++ s)) = trimmed (String.ofList s) := by
  have same : trim (gap ++ s) = trim s := by
    rw [trim, trimStart, List.dropWhile_append_of_pos blank]
    rfl
  rw [trimmed, trimmed, String.toList_ofList, String.toList_ofList, same]

private theorem scan_blanks (blank : ∀ x ∈ gap, isBlank x = true) : scan gap = [] := by
  by_cases nonempty : gap = []
  · rw [nonempty, scan_nil]
  · have taken := Taken.blanks gap [] nonempty blank (.inl rfl)
    rw [List.append_nil] at taken
    rw [scan_of_taken taken, scan_nil, List.append_nil]

private theorem EndsPlain.append (ends : EndsPlain s) (nonempty : s ≠ []) (t : List Char) :
    EndsPlain (s ++ t) :=
  .inr ((ends.resolve_left nonempty).append t)

theorem bare_scan_append_blanks (s : List Char) (blank : ∀ x ∈ gap, isBlank x = true) :
    (scan (s ++ gap)).map Token.bare = (scan s).map Token.bare := by
  have scanned := scanned_scan s
  generalize made : scan s = tokens at scanned
  rw [← made]
  clear made
  induction scanned with
  | nil => rw [List.nil_append, scan_blanks blank, scan_nil]
  | @cons s rest _ _ taken _ ih =>
    rw [scan_of_taken taken, List.map_append, ← ih]
    cases taken with
    | parameter dash letter name rest isDash first inner stop =>
      have stop' : ∀ x ∈ (rest ++ gap).head?, isNameChar x = false := by
        intro x hx
        cases rest with
        | nil => exact isNameChar_of_isBlank (blank x (List.mem_of_mem_head? hx))
        | cons y rest => exact stop x hx
      have taken := Taken.parameter dash letter name (rest ++ gap) isDash first inner stop'
      rw [← List.append_assoc] at taken
      rw [scan_of_taken taken, List.map_append]
    | literal s rest unmarked solid ends stop =>
      by_cases last : rest = []
      · obtain ⟨x, hx, solid⟩ := solid
        have unmarked' : Unmarked (s ++ gap) := fun w hw =>
          unmarked w (by rwa [words_append_blanks blank] at hw)
        have taken := Taken.literal (s ++ gap) [] unmarked' ⟨x, List.mem_append_left _ hx, solid⟩
          (.inl rfl) (.inl rfl)
        rw [List.append_nil] at taken
        rw [last, List.append_nil, scan_of_taken taken, List.nil_append, scan_blanks blank, scan_nil,
          List.append_nil, List.map_singleton, List.map_singleton,
          Token.bare_literal (trimmed_append_blanks s blank)]
        rfl
      · have taken := Taken.literal s (rest ++ gap) unmarked solid (ends.append last gap)
          (.inr (stop.resolve_left last))
        rw [← List.append_assoc] at taken
        rw [scan_of_taken taken, List.map_append]
    | blanks s rest nonempty blank' ends =>
      by_cases last : rest = []
      · have both : ∀ x ∈ s ++ gap, isBlank x = true := by
          intro x hx
          rcases List.mem_append.mp hx with hx | hx
          · exact blank' x hx
          · exact blank x hx
        rw [last, List.append_nil, scan_blanks both, List.nil_append, scan_blanks blank]
        rfl
      · have taken := Taken.blanks s (rest ++ gap) nonempty blank' (ends.append last gap)
        rw [← List.append_assoc] at taken
        rw [scan_of_taken taken, List.map_append]

private theorem bare_scan_blanks_append (s : List Char) (blank : ∀ x ∈ gap, isBlank x = true) :
    (scan (gap ++ s)).map Token.bare = (scan s).map Token.bare := by
  by_cases none : gap = []
  · rw [none, List.nil_append]
  by_cases empty : s = []
  · rw [empty, List.append_nil, scan_blanks blank, scan_nil]
  obtain ⟨tokens, rest, part⟩ := exists_taken empty
  have made := scan_of_taken part
  rw [made]
  cases part with
  | parameter dash letter name rest isDash first =>
    have marked : StartsMarker (dash :: letter :: name ++ rest) :=
      ⟨dash, letter, name ++ rest, rfl, isDash, first⟩
    have apart := Taken.blanks gap _ none blank (.inr marked)
    rw [scan_of_taken apart, List.nil_append, made]
  | literal s rest unmarked solid ends stop =>
    obtain ⟨x, hx, solid⟩ := solid
    have unmarked' : Unmarked (gap ++ s) := fun w hw =>
      unmarked w (by rwa [words_blanks_append blank] at hw)
    have taken := Taken.literal (gap ++ s) rest unmarked' ⟨x, List.mem_append_right _ hx, solid⟩
      ends (stop.imp_right fun last => by
        rwa [List.getLast?_append_of_ne_nil _ (List.ne_nil_of_mem hx)])
    rw [List.append_assoc] at taken
    rw [scan_of_taken taken, List.map_append, List.map_append, List.map_singleton,
      List.map_singleton, Token.bare_literal (trimmed_blanks_append s blank)]
  | blanks s rest _ blank' ends =>
    have both : ∀ x ∈ gap ++ s, isBlank x = true := by
      intro x hx
      rcases List.mem_append.mp hx with hx | hx
      · exact blank x hx
      · exact blank' x hx
    have taken := Taken.blanks (gap ++ s) rest (List.append_ne_nil_of_left_ne_nil none s) both ends
    rw [List.append_assoc] at taken
    rw [scan_of_taken taken]

end Blanks

section Cuts

private theorem EndsPlain.of_append (ends : EndsPlain (s ++ t)) (marked : StartsMarker t) :
    EndsPlain s := by
  rcases s with _ | ⟨x, _ | ⟨y, s⟩⟩
  · exact .inl rfl
  · obtain ⟨dash, letter, _, same, _, first⟩ := ends.resolve_left (by simp)
    obtain ⟨dash', isHead, isDash⟩ := marked.head
    obtain ⟨_, rfl⟩ := List.cons.inj same
    obtain rfl := Option.some.inj isHead
    have other := not_isNameChar_of_isDash isDash
    rw [isNameChar_of_isLetter first] at other
    exact absurd other (by simp)
  · obtain ⟨dash, letter, rest, same, isDash, first⟩ := ends.resolve_left (by simp)
    obtain ⟨rfl, rest'⟩ := List.cons.inj same
    obtain ⟨rfl, _⟩ := List.cons.inj rest'
    exact .inr ⟨x, y, s, rfl, isDash, first⟩

private theorem Taken.of_append (taken : Taken (part ++ (rest ++ t)) tokens (rest ++ t))
    (marked : StartsMarker t) : Taken (part ++ rest) tokens rest := by
  generalize whole : part ++ (rest ++ t) = s at taken
  generalize behind : rest ++ t = u at taken
  cases taken with
  | parameter dash letter name u isDash first inner stop =>
    obtain rfl := behind
    obtain rfl : part = dash :: letter :: name := List.append_cancel_right whole
    refine .parameter dash letter name rest isDash first inner fun x hx => stop x ?_
    rwa [List.head?_append_of_ne_nil _ (List.ne_nil_of_mem (List.mem_of_mem_head? hx))]
  | literal s u unmarked solid ends stop =>
    obtain rfl := behind
    obtain rfl : part = s := List.append_cancel_right whole
    have more : rest ++ t ≠ [] := by
      obtain ⟨_, _, _, rfl, _⟩ := marked
      simp
    exact .literal part rest unmarked solid (ends.of_append marked) (.inr (stop.resolve_left more))
  | blanks s u nonempty blank ends =>
    obtain rfl := behind
    obtain rfl : part = s := List.append_cancel_right whole
    exact .blanks part rest nonempty blank (ends.of_append marked)

/-- A scan can be cut where a marker is found. -/
private theorem scan_append (resumes : Resumes front (s ++ t)) (marked : StartsMarker t)
    (chained : Chained (tailWord (front ++ s))) : scan (s ++ t) = scan s ++ scan t := by
  -- By the length of the text in front: no part of it reaches over the marker.
  induction h : s.length using Nat.strongRecOn generalizing s front with
  | _ n ih =>
    by_cases none : s = []
    · rw [none, List.nil_append, scan_nil, List.nil_append]
    obtain ⟨tokens, rest, taken⟩ := exists_taken (List.append_ne_nil_of_left_ne_nil none t)
    obtain ⟨part, some, split⟩ := taken.exists_part
    rcases List.append_eq_append_iff.mp split with ⟨m, rfl, rfl⟩ | ⟨m, rfl, rfl⟩
    · rw [List.append_assoc] at resumes taken
      have step := resumes.step taken
      rw [← List.append_assoc] at chained
      have shorter : m.length < n := by
        have long := List.length_pos_iff.mpr some
        rw [← h, List.length_append]
        omega
      rw [List.append_assoc, scan_of_taken taken, ih m.length shorter step chained rfl,
        scan_of_taken (taken.of_append marked), List.append_assoc]
    · by_cases whole : m = []
      · subst whole
        rw [List.nil_append] at taken
        have own : Taken (s ++ []) tokens [] := Taken.of_append taken marked
        rw [List.append_nil] at own
        rw [List.nil_append, scan_of_taken taken, scan_of_taken own, scan_nil, List.append_nil]
      · rw [← List.append_assoc] at taken
        exact absurd chained (taken.not_chained_within resumes none whole marked)

end Cuts

section Lines

theorem FirstWord.toList_ne_nil (w : FirstWord) : w.text.toList ≠ [] :=
  mt String.toList_eq_nil_iff.mp w.nonempty

private theorem bordered_gap (nonempty : gap ≠ []) (blank : ∀ x ∈ gap, isBlank x = true)
    (b : List Char) :
    Bordered (gap ++ b) := by
  intro x hx
  rw [List.head?_append_of_ne_nil _ nonempty] at hx
  exact blank x (List.mem_of_mem_head? hx)

theorem chained_of_gap (a : List Char) (nonempty : gap ≠ [])
    (blank : ∀ x ∈ gap, isBlank x = true) : Chained (tailWord (a ++ gap)) := by
  rw [tailWord_of_startsWord ((startsWord_of_blank blank).append a nonempty)]
  exact .nil

namespace Headed

private theorem exists_of_marker (headed : Headed w (a ++ b) rest) (marked : StartsMarker b)
    (chained : Chained (tailWord a)) :
    ∃ m, rest = m ++ b ∧ Headed w a m ∧ Chained (tailWord (w.text.toList ++ m)) := by
  obtain ⟨front, blank, split⟩ := headed.split
  have starts := startsWord_of_blank blank
  rcases List.append_eq_append_iff.mp split with ⟨m, rfl, rfl⟩ | ⟨m, within, rfl⟩
  · rw [List.append_assoc, tailWord_append_of_startsWord starts] at chained
    exact ⟨m, rfl, ⟨⟨front, blank, rfl⟩, headed.bordered.of_append⟩, chained⟩
  -- Otherwise the marker would be in front of the first word, its own start, or inside.
  · have notWord (same : m = w.text.toList) : False := by
      rw [same, ← opensMarker_iff, opensMarker_append w.toList_ne_nil headed.bordered,
        opensMarker_iff] at marked
      exact w.plain marked
    rcases List.append_eq_append_iff.mp within with ⟨k, rfl, inside⟩ | ⟨k, rfl, rfl⟩
    · rw [tailWord_append_of_startsWord starts] at chained
      by_cases none : k = []
      · exact (notWord (by rw [inside, none, List.nil_append])).elim
      · have solid : ∀ x ∈ k ++ m, isBlank x = false := inside ▸ w.solid
        exact absurd chained (not_chained_of_plain solid (inside ▸ w.plain) none)
    · by_cases none : k = []
      · exact (notWord (by rw [none, List.nil_append])).elim
      · rw [List.append_assoc] at marked
        have inner : ∀ x ∈ k, isBlank x = true := fun x hx => blank x (List.mem_append_right a hx)
        exact (marked.not_bordered (bordered_gap none inner _)).elim

private theorem bordered_append (headed : Headed w s (a ++ b)) (marked : StartsMarker b)
    (t : List Char) :
    Bordered (a ++ t) := by
  have none : a ≠ [] := by
    rintro rfl
    exact marked.not_bordered headed.bordered
  intro x hx
  rw [List.head?_append_of_ne_nil _ none] at hx
  exact headed.bordered.of_append x hx

private theorem replace (headed : Headed w s rest) (bordered : Bordered (rest ++ t)) :
    Headed w (s ++ t) (rest ++ t) := by
  obtain ⟨front, blank, rfl⟩ := headed.split
  exact ⟨⟨front, blank, (List.append_assoc ..).symm⟩, bordered⟩

private theorem scan_append (headed : Headed w s (a ++ b)) (marked : StartsMarker b)
    (chained : Chained (tailWord (w.text.toList ++ a))) : scan (a ++ b) = scan a ++ scan b :=
  Lexer.scan_append (.of_plain w.solid w.plain w.toList_ne_nil headed.bordered) marked chained

end Headed

theorem scan_marker {dash letter : Char} (isDash : dash = '/' ∨ dash = '-')
    (first : isLetter letter = true) (s : List Char) :
    scan (dash :: letter :: s) = ⟨.forwardDash, String.singleton dash⟩ ::
      ⟨.param, String.ofList (letter :: s.takeWhile isNameChar)⟩ ::
        scan (s.dropWhile isNameChar) := by
  have taken := Taken.parameter dash letter (s.takeWhile isNameChar) (s.dropWhile isNameChar)
    isDash first (fun x hx => List.mem_takeWhile_imp hx) (head_dropWhile isNameChar s)
  rw [List.cons_append, List.cons_append, List.takeWhile_append_dropWhile] at taken
  exact scan_of_taken taken

private theorem bare_scan_dash {dash dash' : Char} (marked : StartsMarker (dash :: b))
    (isDash' : dash' = '/' ∨ dash' = '-') :
    (scan (dash' :: b)).map Token.bare = (scan (dash :: b)).map Token.bare := by
  obtain ⟨_, letter, b, same, isDash, first⟩ := marked
  obtain ⟨rfl, rfl⟩ := List.cons.inj same
  rw [scan_marker isDash' first, scan_marker isDash first]
  rfl

private theorem StartsMarker.of_dash {dash dash' : Char} (marked : StartsMarker (dash :: b))
    (isDash' : dash' = '/' ∨ dash' = '-') : StartsMarker (dash' :: b) := by
  obtain ⟨_, letter, rest, same, _, first⟩ := marked
  obtain ⟨_, rfl⟩ := List.cons.inj same
  exact ⟨dash', letter, rest, rfl, isDash', first⟩

namespace Headed

private theorem word_trimStart (headed : Headed w s rest) :
    word (trimStart s) = w.text.toList ∧ afterWord (trimStart s) = rest := by
  obtain ⟨front, blank, rfl⟩ := headed.split
  exact word_trimStart_append blank w.solid w.toList_ne_nil headed.bordered

private theorem exists_of_gap (headed : Headed w (a ++ gap) rest)
    (blank : ∀ x ∈ gap, isBlank x = true) :
    ∃ m, rest = m ++ gap ∧ Headed w a m := by
  obtain ⟨front, outer, split⟩ := headed.split
  have bordered := headed.bordered
  rcases List.append_eq_append_iff.mp split with ⟨m, rfl, rfl⟩ | ⟨k, within, rfl⟩
  · exact ⟨m, rfl, ⟨front, outer, rfl⟩, bordered.of_append⟩
  · obtain rfl : k = [] := by
      by_contra some
      have last := List.getLast_mem some
      have same := congrArg List.getLast? within
      rw [List.getLast?_append_of_ne_nil _ w.toList_ne_nil, List.getLast?_append_of_ne_nil _ some,
        List.getLast?_eq_some_getLast some] at same
      have solid := w.solid _ (List.mem_of_getLast? same)
      rw [blank _ (List.mem_append_left rest last)] at solid
      exact absurd solid (by simp)
    rw [List.append_nil] at within
    exact ⟨[], rfl, ⟨front, outer, by rw [List.append_nil, within]⟩, bordered_nil⟩

private theorem fill (headed : Headed w a rest) (nonempty : gap ≠ [])
    (blank : ∀ x ∈ gap, isBlank x = true) (marked : StartsMarker b) :
    Headed w (a ++ gap ++ b) (rest ++ gap ++ b) ∧
      (scan (rest ++ gap ++ b)).map Token.bare =
        (scan rest).map Token.bare ++ (scan b).map Token.bare := by
  have line : Headed w (a ++ gap ++ b) (rest ++ gap ++ b) := by
    rw [List.append_assoc, List.append_assoc]
    exact headed.replace (headed.bordered.append (bordered_gap nonempty blank b))
  refine ⟨line, ?_⟩
  have chained := chained_of_gap (w.text.toList ++ rest) nonempty blank
  rw [List.append_assoc] at chained
  rw [line.scan_append marked chained, List.map_append, bare_scan_append_blanks rest blank]

end Headed

private theorem Respelt.headed (respelt : Respelt s s') (headed : Headed w s rest) :
    ∃ rest', Headed w s' rest' ∧ (scan rest').map Token.bare = (scan rest).map Token.bare := by
  cases respelt with
  | dash a b dash dash' marked looking isDash =>
    obtain ⟨m, rfl, own, chained⟩ := headed.exists_of_marker marked looking
    have marked' := marked.of_dash isDash
    have other := own.replace (headed.bordered_append marked (dash' :: b))
    refine ⟨m ++ dash' :: b, other, ?_⟩
    rw [headed.scan_append marked chained, other.scan_append marked' chained, List.map_append,
      List.map_append, bare_scan_dash marked isDash]
  | before a gap gap' b nonempty nonempty' blank blank' marked =>
    obtain ⟨_, rfl, within, _⟩ := headed.exists_of_marker marked (chained_of_gap a nonempty blank)
    obtain ⟨m, rfl, own⟩ := within.exists_of_gap blank
    obtain ⟨other, same⟩ := own.fill nonempty' blank' marked
    exact ⟨m ++ gap' ++ b, other, same.trans (own.fill nonempty blank marked).2.symm⟩
  | behind front word gap gap' b outer isWord solid nonempty nonempty' blank blank' =>
    obtain ⟨first, behind⟩ := headed.word_trimStart
    obtain ⟨first', behind'⟩ :=
      word_trimStart_append outer solid isWord (bordered_gap nonempty blank b)
    rw [← List.append_assoc] at first' behind'
    obtain rfl : word = w.text.toList := first'.symm.trans first
    obtain rfl : gap ++ b = rest := behind'.symm.trans behind
    have other : Headed w (front ++ w.text.toList ++ gap' ++ b) (gap' ++ b) :=
      ⟨⟨front, outer, (List.append_assoc ..).symm⟩, bordered_gap nonempty' blank' b⟩
    refine ⟨gap' ++ b, other, ?_⟩
    rw [bare_scan_blanks_append b blank', bare_scan_blanks_append b blank]

theorem headed_of_respelts (respelts : Relation.ReflTransGen Respelt s s')
    (headed : Headed w s rest) :
    ∃ rest', Headed w s' rest' ∧ (scan rest').map Token.bare = (scan rest).map Token.bare := by
  induction respelts with
  | refl => exact ⟨rest, headed, rfl⟩
  | tail _ respelt ih =>
    obtain ⟨rest', headed', same⟩ := ih
    obtain ⟨rest'', headed'', same'⟩ := respelt.headed headed'
    exact ⟨rest'', headed'', same'.trans same⟩

theorem Respelt.trimStart_ne_nil (respelt : Respelt s s') : trimStart s ≠ [] := by
  intro nothing
  have blank : ∀ x ∈ s, isBlank x = true := List.dropWhile_eq_nil_iff.mp nothing
  cases respelt with
  | dash a b dash dash' marked =>
    exact marked.not_bordered fun x hx =>
      blank x (List.mem_append_right a (List.mem_of_mem_head? hx))
  | before a gap gap' b _ _ _ _ marked =>
    exact marked.not_bordered fun x hx =>
      blank x (List.mem_append_right _ (List.mem_of_mem_head? hx))
  | behind front word gap gap' b _ isWord solid =>
    obtain ⟨x, hx⟩ := List.exists_mem_of_ne_nil word isWord
    have both : isBlank x = true := blank x (by simp [hx])
    rw [solid x hx] at both
    exact absurd both (by simp)

end Lines

end Lexer

end Taskbook
