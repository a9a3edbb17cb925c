import Taskbook.Proofs.Token.Literal
import Taskbook.Command

/-! The number of a task in decimal. The reader takes every text of at most one sign and at least one
digit whose value fits; what is written is one of these, and a word without a marker, although it
may begin with a dash. -/

set_option autoImplicit false

namespace Taskbook

open Text

/-- A number in decimal: a row of ASCII digits, leading zeros allowed, with at most one sign in front
of it. -/
inductive Decimal : List Char → Int → Prop
  | plain {digits : List Char} (nonempty : digits ≠ [])
      (ascii : ∀ c ∈ digits, c.isDigit = true) : Decimal digits (Nat.ofDigitChars 10 digits 0)
  | plus {digits : List Char} (nonempty : digits ≠ []) (ascii : ∀ c ∈ digits, c.isDigit = true) :
      Decimal ('+' :: digits) (Nat.ofDigitChars 10 digits 0)
  | minus {digits : List Char} (nonempty : digits ≠ []) (ascii : ∀ c ∈ digits, c.isDigit = true) :
      Decimal ('-' :: digits) (-(Nat.ofDigitChars 10 digits 0 : Nat))

namespace Decimal

variable {s : List Char} {value : Int}

theorem ne_nil (h : Decimal s value) : s ≠ [] := by
  cases h with
  | plain nonempty => exact nonempty
  | plus | minus => exact List.cons_ne_nil _ _

theorem solid (h : Decimal s value) : ∀ x ∈ s, isBlank x = false := by
  intro x mem
  cases h with
  | plain _ ascii => exact (blank_letter_of_isDigit (ascii x mem)).1
  | plus _ ascii | minus _ ascii =>
    rcases List.mem_cons.mp mem with rfl | mem
    · decide
    · exact (blank_letter_of_isDigit (ascii x mem)).1

/-- The dash of a negative number is no marker: a digit follows it. -/
theorem not_opensMarker (h : Decimal s value) : Lexer.opensMarker s = false := by
  rw [Bool.eq_false_iff, ne_eq, Lexer.opensMarker_iff]
  rintro ⟨dash, letter, rest, rfl, _, isLetter⟩
  have digit : letter.isDigit = true := by
    cases h with
    | plain _ ascii => exact ascii letter (by simp)
    | plus _ ascii | minus _ ascii => exact ascii letter List.mem_cons_self
  exact absurd isLetter (by simp [(blank_letter_of_isDigit digit).2])

end Decimal

namespace TaskNumber

variable {c : Char}

private theorem row_eq_some_iff {digits : List Char} {value : Nat} :
    (if !digits.isEmpty && digits.all Char.isDigit then some (Date.decimal digits) else none) =
        some value ↔
      digits ≠ [] ∧ (∀ c ∈ digits, c.isDigit = true) ∧ Nat.ofDigitChars 10 digits 0 = value := by
  rw [Nat.ofDigitChars_eq_foldl]
  change _ ↔ digits ≠ [] ∧ (∀ c ∈ digits, c.isDigit = true) ∧ Date.decimal digits = value
  by_cases row : digits ≠ [] ∧ ∀ c ∈ digits, c.isDigit = true
  · simp [row]
  · refine iff_of_false (fun taken => row ?_) fun taken => row ⟨taken.1, taken.2.1⟩
    split at taken
    · next test => simpa using test
    · exact absurd taken (by simp)

theorem integer?_eq_some_iff {s : List Char} {value : Int} :
    integer? s = some value ↔ Decimal s value := by
  have signed {sign : Char} {digits : List Char} (noDigit : sign.isDigit = false)
      (ascii : ∀ c ∈ sign :: digits, c.isDigit = true) : False := by
    have digit := ascii sign List.mem_cons_self
    simp [noDigit] at digit
  unfold integer?
  split
  · next digits =>
    simp only [bind_pure_comp, Option.map_eq_map, Option.map_eq_some_iff, row_eq_some_iff]
    constructor
    · rintro ⟨_, ⟨_, ⟨nonempty, ascii, rfl⟩, rfl⟩, rfl⟩
      exact .minus nonempty ascii
    · intro decimal
      cases decimal with
      | plain _ ascii => exact (signed (by decide) ascii).elim
      | minus nonempty ascii => exact ⟨_, ⟨_, ⟨nonempty, ascii, rfl⟩, rfl⟩, rfl⟩
  · next digits =>
    simp only [Option.map_eq_some_iff, row_eq_some_iff]
    constructor
    · rintro ⟨_, ⟨nonempty, ascii, rfl⟩, rfl⟩
      exact .plus nonempty ascii
    · intro decimal
      cases decimal with
      | plain _ ascii => exact (signed (by decide) ascii).elim
      | plus nonempty ascii => exact ⟨_, ⟨nonempty, ascii, rfl⟩, rfl⟩
  · next noMinus noPlus =>
    simp only [Option.map_eq_some_iff, row_eq_some_iff]
    constructor
    · rintro ⟨_, ⟨nonempty, ascii, rfl⟩, rfl⟩
      exact .plain nonempty ascii
    · intro decimal
      cases decimal with
      | plain nonempty ascii => exact ⟨_, ⟨nonempty, ascii, rfl⟩, rfl⟩
      | plus => exact absurd rfl (noPlus _)
      | minus => exact absurd rfl (noMinus _)

theorem value_unique {s : List Char} {value value' : Int} (h : Decimal s value)
    (h' : Decimal s value') : value = value' := by
  have read := integer?_eq_some_iff.mpr h
  rw [integer?_eq_some_iff.mpr h'] at read
  exact (Option.some.inj read).symm

/-- The texts that spell a task's number are the numbers in decimal that fit into 32 bits. -/
theorem ofText?_eq_some_iff {text : String} {n : TaskNumber} :
    ofText? text = some n ↔ Decimal text.toList n.value := by
  have fits {value : Int} : ofInt? value = some n ↔ value = n.value := by
    obtain ⟨wanted, least, greatest⟩ := n
    unfold ofInt?
    split
    · simp
    · next outside =>
      refine iff_of_false (by simp) ?_
      rintro rfl
      exact outside ⟨least, greatest⟩
  simp only [ofText?, Option.bind_eq_some_iff, fits, exists_eq_right, integer?_eq_some_iff]

private theorem text_toList (n : TaskNumber) :
    ∃ m : Nat, n.text.toList = Nat.toDigits 10 m ∧ n.value = m ∨
      n.text.toList = '-' :: Nat.toDigits 10 m ∧ n.value = -(m : Int) := by
  obtain ⟨value, _, _⟩ := n
  cases value with
  | ofNat m => exact ⟨m, .inl ⟨Nat.toList_repr, rfl⟩⟩
  | negSucc m =>
    refine ⟨m + 1, .inr ⟨?_, rfl⟩⟩
    change ("-" ++ Nat.repr (m + 1)).toList = _
    rw [String.toList_append, Nat.toList_repr]
    rfl

private theorem isDigit_of_mem_toDigits {m : Nat} (h : c ∈ Nat.toDigits 10 m) : c.isDigit = true :=
  Nat.isDigit_of_mem_toDigits (by decide) (by decide) h

theorem decimal_text (n : TaskNumber) : Decimal n.text.toList n.value := by
  have ascii (m : Nat) : ∀ x ∈ Nat.toDigits 10 m, x.isDigit = true :=
    fun _ => isDigit_of_mem_toDigits
  have plain (m : Nat) := Decimal.plain Nat.toDigits_ne_nil (ascii m)
  have minus (m : Nat) := Decimal.minus Nat.toDigits_ne_nil (ascii m)
  simp only [Nat.ofDigitChars_ten_toDigits] at plain minus
  obtain ⟨m, ⟨digits, value⟩ | ⟨digits, value⟩⟩ := n.text_toList
  · rw [digits, value]
    exact plain m
  · rw [digits, value]
    exact minus m

theorem canonical_text (n : TaskNumber) : Lexer.Canonical n.text := by
  have decimal := n.decimal_text
  have nonempty : n.text ≠ "" := mt String.toList_eq_nil_iff.mpr decimal.ne_nil
  exact Lexer.canonical_of_solid nonempty decimal.solid decimal.not_opensMarker

end TaskNumber

end Taskbook
