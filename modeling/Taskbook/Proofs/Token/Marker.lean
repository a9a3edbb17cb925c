import Taskbook.Proofs.Token.Chain
import Taskbook.Proofs.Token.Layout

/-! Where markers are found on a line. One is found at the start of a word, and also inside a word,
if all that the word has in front of it are parameters. -/

set_option autoImplicit false

namespace Taskbook.Lexer

open Text

/-- A place on a row of tokens where one of them is a marker. -/
def Stands (row : List Placed) (i : Nat) : Prop :=
  ∃ before p after, row = before ++ p :: after ∧ p.token.kind = .forwardDash ∧
    (spread before).length = i

variable {s t a b front rest : List Char} {tokens : List Token} {gap : Gap} {row : List Placed}
  {i : Nat}

section Rows

variable {p : Placed}

private theorem stands_cons : Stands (p :: row) i ↔ p.token.kind = .forwardDash ∧ i = 0 ∨
    ∃ j, i = (p.token.text.toList ++ p.gap.text).length + j ∧ Stands row j := by
  constructor
  · rintro ⟨before, q, after, same, kind, rfl⟩
    cases before with
    | nil =>
      obtain ⟨rfl, _⟩ := List.cons.inj same
      exact .inl ⟨kind, rfl⟩
    | cons r before =>
      obtain ⟨rfl, rfl⟩ := List.cons.inj same
      exact .inr ⟨_, by rw [spread_cons, List.length_append], before, q, after, rfl, kind, rfl⟩
  · rintro (⟨kind, rfl⟩ | ⟨_, rfl, before, q, after, rfl, kind, rfl⟩)
    · exact ⟨[], p, row, rfl, kind, rfl⟩
    · exact ⟨p :: before, q, after, rfl, kind, by rw [spread_cons, List.length_append]⟩

private theorem Laid.stands_iff (laid : Laid s gap row) (resumes : Resumes front s) (i : Nat) :
    (∃ j, i = gap.text.length + j ∧ Stands row j) ↔ OpensAt front s i := by
  induction laid generalizing front i with
  | nil =>
    refine iff_of_false ?_ ?_
    · rintro ⟨j, _, stands⟩
      rcases stands_cons.mp stands with ⟨kind, _⟩ | ⟨_, _, _, _, _, same, _⟩
      · exact absurd kind (by decide)
      · exact absurd same (by simp)
    · rintro ⟨marked, _⟩
      rw [List.drop_nil] at marked
      obtain ⟨dash, isHead, _⟩ := marked.head
      exact absurd isHead (by simp)
  | @parameter s rest dash name gap row taken more ih =>
    have kinds : dash.kind = .forwardDash ∧ name.kind ≠ .forwardDash ∧ StartsMarker s := by
      cases taken with
      | parameter dash letter name rest isDash first =>
        exact ⟨rfl, by simp, dash, letter, name ++ rest, rfl, isDash, first⟩
    obtain ⟨isDash, isName, marked⟩ := kinds
    obtain rfl := taken.eq_append (by simp)
    have behind := ih (resumes.step taken)
    rw [taken.opensAt_iff resumes]
    simp only [marked, and_true, ← behind]
    simp [stands_cons, isDash, isName, Nat.add_assoc]
  | @literal s rest t row taken more ih =>
    have kinds : t.kind ≠ .forwardDash ∧ ¬ StartsMarker s := by
      refine ⟨?_, fun marked => ?_⟩
      · cases taken with
        | literal => simp
      · obtain ⟨_, _, same⟩ := taken.exists_eq_of_startsMarker marked
        exact absurd same (by simp)
    obtain ⟨isText, plain⟩ := kinds
    obtain rfl := taken.eq_append (by simp)
    have behind := ih (resumes.step taken)
    rw [taken.opensAt_iff resumes]
    simp only [plain, and_false, false_or, ← behind]
    simp [stands_cons, isText]
  | @blanks rest gap row taken more ih =>
    have plain : ¬ StartsMarker (gap.text ++ rest) :=
      fun marked => taken.not_endsPlain (.inr marked)
    have behind := ih (resumes.step taken)
    rw [taken.opensAt_iff resumes]
    simp only [plain, and_false, false_or, ← behind]
    simp

private theorem LaidLine.stands_iff (line : LaidLine s row) (i : Nat) :
    Stands row i ↔ OpensAt [] s i := by
  cases line with
  | headless _ laid =>
    have starts : StartsWord [] := fun x hx => absurd hx (by simp)
    rw [← laid.stands_iff (.of_startsWord starts s)]
    simp
  | @headed first rest gap row kind nonempty solid plain bordered laid =>
    have resumes : Resumes first.text.toList rest := .of_plain solid plain nonempty bordered
    -- The first word begins with no marker, so there is none within it.
    have outside (opens : OpensAt [] (first.text.toList ++ rest) i) :
        first.text.toList.length ≤ i := by
      by_contra inside
      obtain ⟨marked, chained⟩ := opens
      rw [List.nil_append, List.take_append_of_le_length (by omega)] at chained
      by_cases atStart : i = 0
      · rw [atStart, List.drop_zero, ← opensMarker_iff, opensMarker_append nonempty bordered,
          opensMarker_iff] at marked
        exact plain marked
      · rw [← List.take_append_drop i first.text.toList] at solid plain
        refine not_chained_of_plain solid plain ?_ chained
        rw [ne_eq, List.take_eq_nil_iff, not_or]
        exact ⟨atStart, nonempty⟩
    constructor
    · intro stands
      rcases stands_cons.mp stands with ⟨dash, _⟩ | ⟨j, rfl, behind⟩
      · exact absurd dash kind
      · rw [List.length_append, Nat.add_assoc, opensAt_add]
        exact (laid.stands_iff resumes _).mp ⟨j, rfl, behind⟩
    · intro opens
      obtain ⟨k, rfl⟩ := Nat.exists_eq_add_of_le (outside opens)
      rw [opensAt_add] at opens
      obtain ⟨j, rfl, stands⟩ := (laid.stands_iff resumes k).mpr opens
      exact stands_cons.mpr (.inr ⟨j, by rw [List.length_append, Nat.add_assoc], stands⟩)

private theorem Taken.isDash_of_mem {t : Token} (taken : Taken s tokens rest) (mem : t ∈ tokens)
    (kind : t.kind = .forwardDash) :
    ∃ dash, t.text.toList = [dash] ∧ (dash = '/' ∨ dash = '-') := by
  cases taken with
  | parameter dash _ _ _ isDash =>
    rcases List.mem_cons.mp mem with rfl | mem
    · exact ⟨dash, String.toList_singleton dash, isDash⟩
    · rw [List.mem_singleton.mp mem] at kind
      exact absurd kind (by simp)
  | literal =>
    rw [List.mem_singleton.mp mem] at kind
    exact absurd kind (by simp)
  | blanks => exact absurd mem (by simp)

private theorem Laid.isDash_of_mem (laid : Laid s gap row) (mem : p ∈ row)
    (kind : p.token.kind = .forwardDash) :
    ∃ dash, p.token.text.toList = [dash] ∧ (dash = '/' ∨ dash = '-') := by
  induction laid with
  | nil =>
    rw [List.mem_singleton.mp mem] at kind
    exact absurd kind (by decide)
  | parameter taken _ ih =>
    rcases List.mem_cons.mp mem with rfl | mem
    · exact taken.isDash_of_mem (by simp) kind
    rcases List.mem_cons.mp mem with rfl | mem
    · exact taken.isDash_of_mem (by simp) kind
    · exact ih mem
  | literal taken _ ih =>
    rcases List.mem_cons.mp mem with rfl | mem
    · exact taken.isDash_of_mem (by simp) kind
    · exact ih mem
  | blanks _ _ ih => exact ih mem

private theorem LaidLine.isDash_of_mem (line : LaidLine s row) (mem : p ∈ row)
    (kind : p.token.kind = .forwardDash) :
    ∃ dash, p.token.text.toList = [dash] ∧ (dash = '/' ∨ dash = '-') := by
  cases line with
  | headless _ laid => exact laid.isDash_of_mem mem kind
  | headed other _ _ _ _ laid =>
    rcases List.mem_cons.mp mem with rfl | mem
    · exact absurd kind other
    · exact laid.isDash_of_mem mem kind

end Rows

section Lines

variable {line : String} {row' : List Placed} {x y : Char}

/-- A token of the line that is a marker and stands at a place of it, however the tokens are laid on
the line with nothing but whitespace between them. -/
def MarkerAt (line : String) (i : Nat) : Prop :=
  ∃ row, row.map Placed.token = tokenize line ∧ spread row = trimStart line.toList ∧ Stands row i

private theorem eq_of_ink_eq (same : a ++ x :: s = b ++ y :: t) (hx : isBlank x = false)
    (hy : isBlank y = false) (ink_eq : ink a = ink b) : a = b := by
  rcases List.append_eq_append_iff.mp same with ⟨m, rfl, split⟩ | ⟨m, rfl, split⟩
  · cases m with
    | nil => simp
    | cons z m =>
      obtain ⟨rfl, _⟩ := List.cons.inj split
      rw [ink_append] at ink_eq
      exact absurd (congrArg List.length ink_eq) (by simp [ink, hx])
  · cases m with
    | nil => simp
    | cons z m =>
      obtain ⟨rfl, _⟩ := List.cons.inj split
      rw [ink_append] at ink_eq
      exact absurd (congrArg List.length ink_eq) (by simp [ink, hy])

private theorem Stands.of_same (stands : Stands row i)
    (tokens : row.map Placed.token = row'.map Placed.token) (text : spread row = spread row')
    (dashes : ∀ t ∈ row.map Placed.token, t.kind = .forwardDash →
      ∃ dash, t.text.toList = [dash] ∧ (dash = '/' ∨ dash = '-')) : Stands row' i := by
  obtain ⟨before, p, after, rfl, kind, rfl⟩ := stands
  obtain ⟨dash, isText, isDash⟩ := dashes p.token (by simp) kind
  rw [List.map_append, List.map_cons] at tokens
  obtain ⟨before', more, rfl, front, back⟩ := List.map_eq_append_iff.mp tokens.symm
  obtain ⟨p', after', rfl, same, _⟩ := List.map_eq_cons_iff.mp back
  have isText' : p'.token.text.toList = [dash] := same ▸ isText
  have solid := not_isBlank_of_isDash isDash
  have ink_eq : ink (spread before) = ink (spread before') := by
    rw [ink_spread, ink_spread, front]
  rw [spread_append, spread_append, spread_cons, spread_cons, isText, isText'] at text
  have place : spread before = spread before' := eq_of_ink_eq text solid solid ink_eq
  exact ⟨before', p', after', rfl, by rw [same, kind], by rw [place]⟩

/-- A marker is found where a slash or a dash has a letter behind it and where its word has nothing
but parameters in front of it. -/
theorem markerAt_iff (line : String) (i : Nat) :
    MarkerAt line i ↔ StartsMarker ((trimStart line.toList).drop i) ∧
      Chained (tailWord ((trimStart line.toList).take i)) := by
  obtain ⟨row, laid, tokens⟩ := exists_laidLine line
  have opens := laid.stands_iff i
  constructor
  · rintro ⟨row', tokens', text', stands⟩
    have same : row'.map Placed.token = row.map Placed.token := tokens'.trans tokens.symm
    rw [← laid.spread_eq] at text'
    refine opens.mp (stands.of_same same text' fun t mem kind => ?_)
    rw [same] at mem
    obtain ⟨p, inRow, rfl⟩ := List.mem_map.mp mem
    exact laid.isDash_of_mem inRow kind
  · intro found
    exact ⟨row, tokens, laid.spread_eq, opens.mpr found⟩

/-- A second marker right behind a name, in the middle of a word. -/
theorem not_startsWord_of_markerAt :
    let s := trimStart "/by/to".toList
    ¬ (MarkerAt "/by/to" 3 ↔ StartsMarker (s.drop 3) ∧ StartsWord (s.take 3)) := by
  intro s same
  have found : MarkerAt "/by/to" 3 := by
    let row : List Placed := [⟨⟨.forwardDash, "/"⟩, .none⟩, ⟨⟨.param, "by"⟩, .none⟩,
      ⟨⟨.forwardDash, "/"⟩, .none⟩, ⟨⟨.param, "to"⟩, .none⟩, ⟨Token.endOfCommand, .none⟩]
    refine ⟨row, by decide +kernel, by decide +kernel, row.take 2, row[2], row.drop 3, ?_, ?_, ?_⟩
    · rfl
    · rfl
    · decide +kernel
  have starts := (same.mp found).2
  exact absurd (starts 'y' (by decide +kernel)) (by decide)

end Lines

end Taskbook.Lexer
