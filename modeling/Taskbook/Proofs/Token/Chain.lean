import Taskbook.Proofs.Token.Outline

/-! Where a scan looks for a marker. It does so at the start of a word, and also inside a word if all
that the word has in front of it are parameters, as each of them ends where the next can begin. -/

set_option autoImplicit false

namespace Taskbook.Lexer

open Text

/-- A place where a word can start: the start of the text, or behind whitespace. -/
def StartsWord (front : List Char) : Prop := ∀ x ∈ front.getLast?, isBlank x = true

/-- What a text ends in, behind its last whitespace. -/
def tailWord (s : List Char) : List Char := s.rtakeWhile fun c => !isBlank c

/-- Parameters side by side, without whitespace. -/
inductive Chained : List Char → Prop
  | nil : Chained []
  | parameter {dash : Char} {name rest : List Char} (isDash : dash = '/' ∨ dash = '-')
      (isName : IsName name) (more : Chained rest) : Chained (dash :: (name ++ rest))

/-- A marker that a place of a text begins with, where its word has nothing but parameters in front
of it. What stands in front of the text counts as well. -/
def OpensAt (front s : List Char) (i : Nat) : Prop :=
  StartsMarker (s.drop i) ∧ Chained (tailWord (front ++ s.take i))

/-- How a scan goes on behind a text: where a marker is looked for, or else where a word ends. -/
inductive Resumes (front s : List Char) : Prop
  | looking (chained : Chained (tailWord front))
      (stop : tailWord front ≠ [] → ∀ x ∈ s.head?, isNameChar x = false)
  | passing (plain : ¬ Chained (tailWord front)) (bordered : Bordered s)

variable {s t a b front part rest : List Char} {tokens : List Token} {c : Char}

section Chains

theorem not_isNameChar_of_isDash (h : c = '/' ∨ c = '-') : isNameChar c = false := by
  rcases h with rfl | rfl <;> decide

theorem not_isBlank_of_isDash (h : c = '/' ∨ c = '-') : isBlank c = false := by
  rcases h with rfl | rfl <;> decide

theorem StartsMarker.head (h : StartsMarker s) : ∃ dash ∈ s.head?, dash = '/' ∨ dash = '-' := by
  obtain ⟨dash, _, _, rfl, isDash, _⟩ := h
  exact ⟨dash, rfl, isDash⟩

theorem StartsMarker.ne_nil (marked : StartsMarker s) : s ≠ [] := by
  obtain ⟨_, _, _, rfl, _⟩ := marked
  simp

theorem StartsMarker.not_bordered (marked : StartsMarker s) : ¬ Bordered s := by
  obtain ⟨dash, isHead, isDash⟩ := marked.head
  intro bordered
  have blank := bordered dash isHead
  rw [not_isBlank_of_isDash isDash] at blank
  exact absurd blank (by simp)

theorem StartsMarker.append (h : StartsMarker s) (t : List Char) : StartsMarker (s ++ t) := by
  obtain ⟨dash, letter, rest, rfl, both⟩ := h
  exact ⟨dash, letter, rest ++ t, rfl, both⟩

private theorem Chained.startsMarker (chained : Chained s) (nonempty : s ≠ []) :
    StartsMarker s := by
  cases chained with
  | nil => exact absurd rfl nonempty
  | parameter isDash isName =>
    obtain ⟨letter, name, rfl, first, _⟩ := isName
    exact ⟨_, letter, _, rfl, isDash, first⟩

private theorem Chained.solid (chained : Chained s) : ∀ x ∈ s, isBlank x = false := by
  induction chained with
  | nil => exact fun x hx => absurd hx (by simp)
  | parameter isDash isName _ ih =>
    intro x hx
    obtain ⟨_, _, _, _, inner⟩ := isName
    rcases List.mem_cons.mp hx with rfl | hx
    · exact not_isBlank_of_isDash isDash
    rcases List.mem_append.mp hx with hx | hx
    · exact not_isBlank_of_isNameChar (inner x hx)
    · exact ih x hx

private theorem Chained.append (chained : Chained s) (more : Chained t) : Chained (s ++ t) := by
  induction chained with
  | nil => exact more
  | parameter isDash isName _ ih =>
    rw [List.cons_append, List.append_assoc]
    exact .parameter isDash isName ih

private theorem Chained.head (chained : Chained s) : ∀ x ∈ s.head?, isNameChar x = false := by
  intro x hx
  cases chained with
  | nil => exact absurd hx (by simp)
  | parameter isDash => exact Option.some.inj hx ▸ not_isNameChar_of_isDash isDash

/-- Behind parameters a name cannot go on, so what follows them has to be parameters by itself. -/
private theorem Chained.of_append (chained : Chained s) (both : Chained (s ++ t))
    (stop : s ≠ [] → ∀ x ∈ t.head?, isNameChar x = false) : Chained t := by
  induction chained with
  | nil => exact both
  | @parameter dash name rest isDash isName more ih =>
    have behind : ∀ x ∈ t.head?, isNameChar x = false := stop (by simp)
    have ends : ∀ x ∈ (rest ++ t).head?, isNameChar x = false := by
      intro x hx
      rcases List.eq_nil_or_concat rest with rfl | ⟨_, _, rfl⟩
      · exact behind x hx
      · rw [List.head?_append_of_ne_nil _ (by simp)] at hx
        exact more.head x hx
    generalize whole : dash :: (name ++ rest) ++ t = u at both
    cases both with
    | nil => exact absurd whole (by simp)
    | @parameter dash' name' rest' _ isName' more' =>
      obtain ⟨_, _, _, _, inner⟩ := isName
      obtain ⟨_, _, _, _, inner'⟩ := isName'
      rw [List.cons_append, List.append_assoc] at whole
      have same := (List.cons.inj whole).2
      -- Both names are all the name characters that stand behind the dash.
      have left := (span_append inner ends).2
      have left' := (span_append inner' more'.head).2
      rw [same, left'] at left
      exact ih (left ▸ more') fun _ => behind

end Chains

section TailWords

private theorem append_tailWord (s : List Char) :
    ∃ before, before ++ tailWord s = s ∧ StartsWord before := by
  refine ⟨s.rdropWhile fun c => !isBlank c, List.rdropWhile_append_rtakeWhile, ?_⟩
  intro x hx
  have last := last_rdropWhile (fun c => !isBlank c) s x hx
  simpa using last

private theorem solid_tailWord (s : List Char) : ∀ x ∈ tailWord s, isBlank x = false :=
  fun x hx => by simpa using List.mem_rtakeWhile_imp hx

theorem tailWord_of_startsWord (h : StartsWord s) : tailWord s = [] := by
  apply List.rtakeWhile_eq_nil_iff.mpr
  intro nonempty
  have blank := h _ (List.getLast?_eq_some_getLast nonempty)
  simp [blank]

private theorem tailWord_append_solid (s : List Char) (solid : ∀ x ∈ t, isBlank x = false) :
    tailWord (s ++ t) = tailWord s ++ t := by
  have behind : ∀ x ∈ t.reverse, (!isBlank x) = true :=
    fun x hx => by simp [solid x (List.mem_reverse.mp hx)]
  unfold tailWord List.rtakeWhile
  rw [List.reverse_append, List.takeWhile_append_of_pos behind, List.reverse_append,
    List.reverse_reverse]

private theorem tailWord_of_solid (solid : ∀ x ∈ s, isBlank x = false) : tailWord s = s :=
  tailWord_append_solid [] solid

theorem startsWord_of_blank (blank : ∀ x ∈ s, isBlank x = true) : StartsWord s :=
  fun x hx => blank x (List.mem_of_getLast? hx)

theorem StartsWord.append (front : List Char) (h : StartsWord s) (nonempty : s ≠ []) :
    StartsWord (front ++ s) := by
  intro x hx
  rw [List.getLast?_append_of_ne_nil _ nonempty] at hx
  exact h x hx

theorem tailWord_append_of_startsWord (starts : StartsWord front) (s : List Char) :
    tailWord (front ++ s) = tailWord s := by
  obtain ⟨before, split, starts'⟩ := append_tailWord s
  have whole : StartsWord (front ++ before) := by
    by_cases none : before = []
    · rwa [none, List.append_nil]
    · exact starts'.append front none
  conv_lhs => rw [← split, ← List.append_assoc, tailWord_append_solid _ (solid_tailWord s),
    tailWord_of_startsWord whole, List.nil_append]

/-- Whether a place is looked at for a marker can be told from the text since the scan went on. -/
private theorem Resumes.chained (resumes : Resumes front (a ++ s))
    (chained : Chained (tailWord (front ++ a))) : Chained (tailWord a) := by
  obtain ⟨before, split, starts⟩ := append_tailWord a
  by_cases within : before = []
  · have solid : ∀ x ∈ a, isBlank x = false := by
      rw [← split, within]
      exact solid_tailWord a
    rw [tailWord_append_solid front solid] at chained
    rw [tailWord_of_solid solid]
    cases resumes with
    | looking before stop =>
      refine before.of_append chained fun nonempty x hx => stop nonempty x ?_
      cases a with
      | nil => exact absurd hx (by simp)
      | cons y a => exact hx
    | passing plain bordered =>
      cases a with
      | nil => exact .nil
      | cons y a =>
        have blank := bordered y rfl
        rw [solid y List.mem_cons_self] at blank
        exact absurd blank (by simp)
  · rw [← split, ← List.append_assoc,
      tailWord_append_of_startsWord (starts.append front within),
      tailWord_of_solid (solid_tailWord a)] at chained
    exact chained

end TailWords

section Parts

private theorem Unmarked.behind (unmarked : Unmarked (a ++ b)) (starts : StartsWord a) :
    Unmarked b := by
  rcases List.eq_nil_or_concat a with rfl | ⟨a, x, rfl⟩
  · exact unmarked
  · have blank : isBlank x = true := starts x (by simp)
    intro w hw
    apply unmarked w
    rw [List.concat_eq_append, List.append_assoc, List.singleton_append,
      words_append_cons a b blank]
    exact List.mem_append_right _ hw

private theorem Unmarked.not_startsMarker (unmarked : Unmarked s) : ¬ StartsMarker s := by
  rw [← opensMarker_iff, unmarked.not_opensMarker]
  exact Bool.false_ne_true

private theorem startsMarker_of_append (marked : StartsMarker (b ++ rest)) (nonempty : b ≠ [])
    (gap : rest = [] ∨ ∃ x ∈ b.getLast?, isBlank x = true) : StartsMarker b := by
  obtain ⟨dash, letter, more, same, isDash, first⟩ := marked
  rcases b with _ | ⟨x, _ | ⟨y, b⟩⟩
  · exact absurd rfl nonempty
  · obtain ⟨rfl, rfl⟩ : x = dash ∧ rest = letter :: more := by simpa using same
    rcases gap with nothing | ⟨y, last, blank⟩
    · exact absurd nothing (by simp)
    · obtain rfl : x = y := by simpa using last
      rw [not_isBlank_of_isDash isDash] at blank
      exact absurd blank (by simp)
  · obtain ⟨rfl, rfl, _⟩ : x = dash ∧ y = letter ∧ b ++ rest = more := by simpa using same
    exact ⟨x, y, b, rfl, isDash, first⟩

/-- No marker is found within a part of the text, but for the one that the part begins with. -/
theorem Taken.not_chained_within (taken : Taken (a ++ b ++ rest) tokens rest)
    (resumes : Resumes front (a ++ (b ++ rest))) (ha : a ≠ []) (hb : b ≠ [])
    (marked : StartsMarker (b ++ rest)) : ¬ Chained (tailWord (front ++ a)) := by
  intro chained
  obtain ⟨dash, isHead, isDash⟩ := marked.head
  rw [List.head?_append_of_ne_nil _ hb] at isHead
  have inside : dash ∈ b := List.mem_of_mem_head? isHead
  generalize whole : a ++ b ++ rest = s at taken
  cases taken with
  | parameter dash' letter name rest _ first isName =>
    have part : a ++ b = dash' :: letter :: name := List.append_cancel_right whole
    cases a with
    | nil => exact absurd rfl ha
    | cons x a =>
      have name' : dash ∈ letter :: name := by
        rw [← (List.cons.inj part).2]
        exact List.mem_append_right _ inside
      have other := not_isNameChar_of_isDash isDash
      rw [isNameChar_of_mem_name first isName dash name'] at other
      exact absurd other (by simp)
  | literal s rest unmarked _ _ gap =>
    obtain rfl : a ++ b = s := List.append_cancel_right whole
    -- The word that the marker stands in would begin with a marker, and it is a word of the literal.
    obtain ⟨before, split, starts⟩ := append_tailWord a
    have before_b : rest = [] ∨ ∃ x ∈ b.getLast?, isBlank x = true := by
      rwa [List.getLast?_append_of_ne_nil _ hb] at gap
    have ownWord : StartsMarker (tailWord a ++ b) := by
      have self := startsMarker_of_append marked hb before_b
      by_cases empty : tailWord a = []
      · rwa [empty]
      · exact ((resumes.chained chained).startsMarker empty).append b
    rw [← split, List.append_assoc] at unmarked
    exact (unmarked.behind starts).not_startsMarker ownWord
  | blanks s rest _ blank =>
    have part : a ++ b = s := List.append_cancel_right whole
    have blank' := blank dash (part ▸ List.mem_append_right _ inside)
    rw [not_isBlank_of_isDash isDash] at blank'
    exact absurd blank' (by simp)

private theorem Resumes.chained_of_startsMarker (resumes : Resumes front s)
    (marked : StartsMarker s) :
    Chained (tailWord front) := by
  cases resumes with
  | looking chained => exact chained
  | passing _ bordered => exact absurd bordered marked.not_bordered

theorem not_chained_of_plain (solid : ∀ x ∈ a ++ b, isBlank x = false)
    (plain : ¬ StartsMarker (a ++ b)) (nonempty : a ≠ []) : ¬ Chained (tailWord a) := by
  rw [tailWord_of_solid fun x hx => solid x (List.mem_append_left b hx)]
  intro chained
  exact plain ((chained.startsMarker nonempty).append b)

theorem Resumes.of_plain (solid : ∀ x ∈ a, isBlank x = false) (plain : ¬ StartsMarker a)
    (nonempty : a ≠ []) (bordered : Bordered s) : Resumes a s := by
  rw [← List.append_nil a] at solid plain
  exact .passing (not_chained_of_plain solid plain nonempty) bordered

theorem Resumes.of_startsWord (starts : StartsWord front) (s : List Char) : Resumes front s := by
  have none := tailWord_of_startsWord starts
  exact .looking (none ▸ .nil) fun nonempty => absurd none nonempty

private theorem Resumes.of_nil (front : List Char) : Resumes front [] := by
  by_cases chained : Chained (tailWord front)
  · exact .looking chained fun _ x hx => absurd hx (by simp)
  · exact .passing chained bordered_nil

theorem Resumes.step (resumes : Resumes front (part ++ rest))
    (taken : Taken (part ++ rest) tokens rest) : Resumes (front ++ part) rest := by
  generalize whole : part ++ rest = s at taken
  cases taken with
  | parameter dash letter name rest isDash first inner stop =>
    obtain rfl : part = dash :: letter :: name := List.append_cancel_right whole
    have marked : StartsMarker (dash :: letter :: name ++ rest) :=
      ⟨dash, letter, name ++ rest, rfl, isDash, first⟩
    have own : Chained (dash :: letter :: name) := by
      have one := Chained.parameter isDash (.cons first inner) .nil
      rwa [List.append_nil] at one
    have chained := (resumes.chained_of_startsMarker marked).append own
    rw [← tailWord_append_solid front own.solid] at chained
    exact .looking chained fun _ => stop
  | literal s rest _ _ _ gap =>
    obtain rfl : part = s := List.append_cancel_right whole
    rcases gap with rfl | ⟨x, last, blank⟩
    · exact .of_nil _
    · have starts : StartsWord part := fun y hy => by
        rw [Option.mem_unique hy last]
        exact blank
      have nonempty : part ≠ [] := by
        rintro rfl
        exact absurd last (by simp)
      exact .of_startsWord (starts.append front nonempty) rest
  | blanks s rest nonempty blank =>
    obtain rfl : part = s := List.append_cancel_right whole
    exact .of_startsWord ((startsWord_of_blank blank).append front nonempty) rest

private theorem opensAt_zero (resumes : Resumes front s) : OpensAt front s 0 ↔ StartsMarker s := by
  unfold OpensAt
  rw [List.drop_zero, List.take_zero, List.append_nil]
  exact ⟨And.left, fun marked => ⟨marked, resumes.chained_of_startsMarker marked⟩⟩

theorem opensAt_add (front part rest : List Char) (k : Nat) :
    OpensAt front (part ++ rest) (part.length + k) ↔ OpensAt (front ++ part) rest k := by
  unfold OpensAt
  rw [List.drop_length_add_append, List.take_length_add_append, List.append_assoc]

theorem Taken.opensAt_iff (taken : Taken (part ++ rest) tokens rest)
    (resumes : Resumes front (part ++ rest)) (i : Nat) :
    OpensAt front (part ++ rest) i ↔ i = 0 ∧ StartsMarker (part ++ rest) ∨
      ∃ k, i = part.length + k ∧ OpensAt (front ++ part) rest k := by
  constructor
  · intro opens
    by_cases first : i = 0
    · rw [first, opensAt_zero resumes] at opens
      exact .inl ⟨first, opens⟩
    · by_cases inside : i < part.length
      · obtain ⟨marked, chained⟩ := opens
        rw [List.drop_append_of_le_length inside.le] at marked
        rw [List.take_append_of_le_length inside.le] at chained
        rw [← List.take_append_drop i part, List.append_assoc] at resumes
        have ha : part.take i ≠ [] := by
          rw [ne_eq, List.take_eq_nil_iff, not_or]
          exact ⟨first, List.ne_nil_of_length_pos (by omega)⟩
        have hb : part.drop i ≠ [] := by
          rw [ne_eq, List.drop_eq_nil_iff]
          omega
        rw [← List.take_append_drop i part] at taken
        exact absurd chained (taken.not_chained_within resumes ha hb marked)
      · obtain ⟨k, rfl⟩ := Nat.exists_eq_add_of_le (Nat.le_of_not_lt inside)
        exact .inr ⟨k, rfl, (opensAt_add front part rest k).mp opens⟩
  · rintro (⟨rfl, marked⟩ | ⟨k, rfl, opens⟩)
    · exact (opensAt_zero resumes).mpr marked
    · exact (opensAt_add front part rest k).mpr opens

end Parts

end Taskbook.Lexer
