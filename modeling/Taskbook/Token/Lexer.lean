import Taskbook.Text.Trim
import Taskbook.Token

/-! Cutting a line into tokens.

A marker is a slash or a dash with a letter right after it. At the start of a word it opens a
parameter; everywhere else it is ordinary text. Each rule below takes a front part of the text or
declines, and returns what it made of that part together with the rest. -/

set_option autoImplicit false

namespace Taskbook.Lexer

open Taskbook.Text

/-- The dash, if the text begins with a marker. -/
def marker? : List Char → Option Char
  | dash :: letter :: _ => if (dash = '/' ∨ dash = '-') ∧ isLetter letter then some dash else none
  | _ => none

def opensMarker (s : List Char) : Bool := (marker? s).isSome

def word (s : List Char) : List Char := s.takeWhile fun c => !isBlank c

def afterWord (s : List Char) : List Char := s.dropWhile fun c => !isBlank c

/-- The first word of a line: a keyword, or a literal. -/
def firstWord? (s : List Char) : Option (Token × List Char) :=
  if opensMarker s || (word s).isEmpty then none
  else
    let text := String.ofList (word s)
    some (⟨(TokenKind.ofKeyword? text).getD .literal, text⟩, afterWord s)

def parameter? (s : List Char) : Option (List Token × List Char) :=
  match marker? s with
  | none => none
  | some dash =>
    let name := s.tail.takeWhile isNameChar
    if name.isEmpty then none
    else
      some ([⟨.forwardDash, String.singleton dash⟩, ⟨.param, String.ofList name⟩],
        s.tail.dropWhile isNameChar)

/-- A word that opens no parameter, with the whitespace before it. -/
def plainWord? (s : List Char) : Option (List Char × List Char) :=
  let rest := trimStart s
  if opensMarker rest || (word rest).isEmpty then none
  else some (s.takeWhile isBlank ++ word rest, afterWord rest)

private theorem length_afterWord_lt {s : List Char} (h : (word s).isEmpty = false) :
    (afterWord s).length < s.length := by
  have := congrArg List.length (List.takeWhile_append_dropWhile (p := fun c => !isBlank c) (l := s))
  simp only [List.length_append] at this
  have hw : (word s).length ≠ 0 := by
    intro h0
    simp [List.length_eq_zero_iff.1 h0] at h
  unfold word at hw
  unfold afterWord
  omega

theorem plainWord?_length {s w rest : List Char} (h : plainWord? s = some (w, rest)) :
    rest.length < s.length := by
  unfold plainWord? at h
  simp only [Bool.or_eq_true] at h
  split at h
  · cases h
  · next hn =>
    cases h
    have h1 := length_afterWord_lt (s := trimStart s) (by
      cases hw : (word (trimStart s)).isEmpty <;> simp_all)
    have h2 : (trimStart s).length ≤ s.length := length_dropWhile_le _ _
    omega

/-- As many plain words as follow each other, and the rest. -/
def plainWords (s : List Char) : List Char × List Char :=
  match _h : plainWord? s with
  | none => ([], s)
  | some (w, rest) => (w ++ (plainWords rest).1, (plainWords rest).2)
termination_by s.length
decreasing_by
  all_goals exact plainWord?_length _h

/-- Free text: at least one plain word, with the whitespace around it. -/
def literal? (s : List Char) : Option (List Token × List Char) :=
  let (words, rest) := plainWords s
  if words.isEmpty then none
  else some ([⟨.literal, String.ofList (words ++ rest.takeWhile isBlank)⟩], trimStart rest)

def blank? (s : List Char) : Option (List Token × List Char) :=
  if (s.takeWhile isBlank).isEmpty then none else some ([], trimStart s)

/-- The first rule that does not decline. -/
def step? (s : List Char) : Option (List Token × List Char) :=
  parameter? s <|> literal? s <|> blank? s

private theorem parameter?_length {s rest : List Char} {tokens : List Token}
    (h : parameter? s = some (tokens, rest)) : rest.length < s.length := by
  unfold parameter? at h
  split at h
  · cases h
  · next dash hm =>
    dsimp only at h
    split at h
    · cases h
    · cases h
      cases s with
      | nil => simp [marker?] at hm
      | cons c r =>
        have := length_dropWhile_le isNameChar r
        simp only [List.tail_cons, List.length_cons]
        omega

private theorem plainWords_length (s : List Char) :
    (plainWords s).2.length ≤ s.length ∧
      ((plainWords s).1.isEmpty = false → (plainWords s).2.length < s.length) := by
  fun_induction plainWords s with
  | case1 => simp
  | case2 s w rest h ih =>
    have h1 := plainWord?_length h
    dsimp only
    exact ⟨by omega, fun _ => by omega⟩

private theorem literal?_length {s rest : List Char} {tokens : List Token}
    (h : literal? s = some (tokens, rest)) : rest.length < s.length := by
  unfold literal? at h
  dsimp only at h
  split at h
  · cases h
  · next hw =>
    cases h
    have h1 := (plainWords_length s).2 (by simpa using hw)
    have h2 : (trimStart (plainWords s).2).length ≤ _ := length_dropWhile_le _ _
    omega

private theorem blank?_length {s rest : List Char} {tokens : List Token}
    (h : blank? s = some (tokens, rest)) : rest.length < s.length := by
  unfold blank? at h
  split at h
  · cases h
  · next hw =>
    cases h
    cases s with
    | nil => simp at hw
    | cons c r =>
      cases hc : isBlank c with
      | false => simp [hc] at hw
      | true =>
        have := length_dropWhile_le isBlank r
        simp only [trimStart, List.dropWhile_cons, hc, if_true, List.length_cons]
        omega

theorem step?_length {s rest : List Char} {tokens : List Token}
    (h : step? s = some (tokens, rest)) : rest.length < s.length := by
  unfold step? at h
  cases hp : parameter? s with
  | some p => exact parameter?_length (by simpa [hp] using h)
  | none =>
    cases hl : literal? s with
    | some p => exact literal?_length (by simpa [hp, hl] using h)
    | none => exact blank?_length (by simpa [hp, hl] using h)

/-- The tokens of what follows the first word. Text that no rule takes is a literal. -/
def scan (s : List Char) : List Token :=
  if s.isEmpty then []
  else
    match _h : step? s with
    | none => [⟨.literal, String.ofList s⟩]
    | some (tokens, rest) => tokens ++ scan rest
termination_by s.length
decreasing_by exact step?_length _h

/-- The tokens of a text without whitespace in front, the end of the command left out. -/
def scanLine (s : List Char) : List Token :=
  match firstWord? s with
  | none => scan s
  | some (token, rest) => token :: scan rest

/-- The tokens of a line; the last one ends the command. -/
def tokenize (line : String) : List Token :=
  scanLine (trimStart line.toList) ++ [Token.endOfCommand]

end Taskbook.Lexer
