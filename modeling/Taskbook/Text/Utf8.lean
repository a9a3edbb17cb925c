import Taskbook.Text.Class

/-! Texts from bytes that need not be well-formed UTF-8. -/

set_option autoImplicit false

namespace Taskbook.Text

/-- The ranges of the bytes that have to follow a first byte; `none` for a byte that is no first
byte. -/
def followers? (b : UInt8) : Option (List (Nat × Nat)) :=
  let tail := (0x80, 0xBF)
  if b < 0x80 then some []
  else if 0xC2 ≤ b ∧ b ≤ 0xDF then some [tail]
  else if b = 0xE0 then some [(0xA0, 0xBF), tail]
  else if b = 0xED then some [(0x80, 0x9F), tail]
  else if 0xE1 ≤ b ∧ b ≤ 0xEF then some [tail, tail]
  else if b = 0xF0 then some [(0x90, 0xBF), tail, tail]
  else if 0xF1 ≤ b ∧ b ≤ 0xF3 then some [tail, tail, tail]
  else if b = 0xF4 then some [(0x80, 0x8F), tail, tail]
  else none

def fitting : List (Nat × Nat) → List UInt8 → Nat
  | (low, high) :: ranges, b :: bytes =>
    if low ≤ b.toNat ∧ b.toNat ≤ high then fitting ranges bytes + 1 else 0
  | _, _ => 0

/-- The characters that bytes spell. The beginning of a character that breaks off becomes one
replacement character, and so does every byte that begins none. -/
def lossyChars (bytes : List UInt8) : List Char :=
  match bytes with
  | [] => []
  | b :: rest =>
    match followers? b with
    | none => '\uFFFD' :: lossyChars rest
    | some ranges =>
      let count := fitting ranges rest
      let piece := b :: rest.take count
      let char := if count = ranges.length then
          ((String.fromUTF8? ⟨piece.toArray⟩).bind fun s => s.toList.head?).getD '\uFFFD'
        else '\uFFFD'
      char :: lossyChars (rest.drop count)
termination_by bytes.length
decreasing_by all_goals simp; try omega

def lossyText (bytes : ByteArray) : String :=
  match String.fromUTF8? bytes with
  | some text => text
  | none => String.ofList (lossyChars bytes.data.toList)

end Taskbook.Text
