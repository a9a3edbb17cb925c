import Taskbook.Proofs.Text.Lines

/-! Texts and their bytes: a text comes back from its bytes, and a character of seven bits is in a
text exactly if its byte is among the bytes. So a text has the same lines as its bytes. -/

set_option autoImplicit false

namespace Taskbook.Text

theorem fromUTF8?_toUTF8 (s : String) : String.fromUTF8? s.toUTF8 = some s :=
  dif_pos s.isValidUTF8

theorem toUTF8_of_fromUTF8? {bytes : ByteArray} {s : String} (h : String.fromUTF8? bytes = some s) :
    s.toUTF8 = bytes := by
  unfold String.fromUTF8? at h
  split at h
  · exact congrArg String.toUTF8 (Option.some.inj h).symm
  · exact absurd h (by simp)

def byte (c : Char) : UInt8 := UInt8.ofNat c.toNat

private theorem utf8EncodeChar_of_lt {c : Char} (h : c.toNat < 128) :
    String.utf8EncodeChar c = [byte c] :=
  if_pos (Nat.le_of_lt_succ h)

def utf8 (s : List Char) : List UInt8 := s.flatMap String.utf8EncodeChar

theorem toUTF8_data (s : String) : s.toUTF8.data.toList = utf8 s.toList := by
  have bytes : s.toUTF8 = s.toList.utf8Encode := String.utf8Encode_toList.symm
  rw [bytes, List.utf8Encode, List.data_toByteArray]
  rfl

private theorem utf8_append (s t : List Char) : utf8 (s ++ t) = utf8 s ++ utf8 t :=
  List.flatMap_append

private theorem utf8_cons_of_lt {c : Char} (hc : c.toNat < 128) (s : List Char) :
    utf8 (c :: s) = byte c :: utf8 s := by
  rw [utf8, List.flatMap_cons, utf8EncodeChar_of_lt hc]
  rfl

private theorem utf8_eq_nil_iff {s : List Char} : utf8 s = [] ↔ s = [] := by
  cases s with
  | nil => simp [utf8]
  | cons c s => simp [utf8, String.utf8EncodeChar_ne_nil]

private theorem high_of_mem_utf8EncodeChar {c : Char} (hc : ¬ c.toNat < 128) {b : UInt8}
    (h : b ∈ String.utf8EncodeChar c) : 128 ≤ b.toNat := by
  have high : ¬ c.val.toNat ≤ 127 := fun low => hc (Nat.lt_succ_of_le low)
  simp only [String.utf8EncodeChar, high, if_false] at h
  split at h
  · simp only [List.mem_cons, List.not_mem_nil, or_false] at h
    rcases h with rfl | rfl <;> simp only [UInt8.toNat_ofNat'] <;> omega
  · split at h
    · simp only [List.mem_cons, List.not_mem_nil, or_false] at h
      rcases h with rfl | rfl | rfl <;> simp only [UInt8.toNat_ofNat'] <;> omega
    · simp only [List.mem_cons, List.not_mem_nil, or_false] at h
      rcases h with rfl | rfl | rfl | rfl <;> simp only [UInt8.toNat_ofNat'] <;> omega

private theorem byte_mem_utf8EncodeChar_iff {c x : Char} (hc : c.toNat < 128) :
    byte c ∈ String.utf8EncodeChar x ↔ c = x := by
  have small : (byte c).toNat = c.toNat := by
    rw [byte, UInt8.toNat_ofNat']
    omega
  by_cases hx : x.toNat < 128
  · have small' : (byte x).toNat = x.toNat := by
      rw [byte, UInt8.toNat_ofNat']
      omega
    rw [utf8EncodeChar_of_lt hx, List.mem_singleton, ← UInt8.toNat_inj, small, small', Char.toNat_inj]
  · refine iff_of_false (fun mem => ?_) (fun same => hx (same ▸ hc))
    have high := high_of_mem_utf8EncodeChar hx mem
    omega

private theorem byte_mem_utf8_iff {c : Char} {s : List Char} (hc : c.toNat < 128) :
    byte c ∈ utf8 s ↔ c ∈ s := by
  simp [utf8, byte_mem_utf8EncodeChar_iff hc]

theorem byte_mem_of_mem {c : Char} {s : String} (hc : c.toNat < 128) (h : c ∈ s.toList) :
    byte c ∈ s.toUTF8.data.toList := by
  rw [toUTF8_data]
  exact (byte_mem_utf8_iff hc).mpr h

private theorem chop_utf8 {c : Char} (hc : c.toNat < 128) (s : List Char) :
    chop (byte c) (utf8 s) = utf8 (chop c s) := by
  rcases List.eq_nil_or_concat s with rfl | ⟨front, x, rfl⟩
  · simp [chop, utf8]
  · rw [List.concat_eq_append]
    by_cases hx : x = c
    · rw [hx, chop_append_singleton, utf8_append, utf8_cons_of_lt hc]
      exact chop_append_singleton _ _
    · have other : (utf8 (front ++ [x])).getLast? ≠ some (byte c) := by
        intro last
        have solid : utf8 [x] ≠ [] := mt utf8_eq_nil_iff.mp (List.cons_ne_nil x [])
        rw [utf8_append, List.getLast?_append_of_ne_nil _ solid] at last
        have mem := (byte_mem_utf8_iff hc).mp (List.mem_of_getLast? last)
        exact hx (List.mem_singleton.mp mem).symm
      rw [chop_of_getLast?_ne other, chop_of_getLast?_ne (by simpa using hx)]

/-- The bytes of a text have the lines of the text, as bytes. -/
theorem lined_utf8 {s : List Char} {pieces : List (List Char)} (h : Lined '\n' '\r' s pieces) :
    Lined (byte '\n') (byte '\r') (utf8 s) (pieces.map utf8) := by
  have small : '\n'.toNat < 128 := by decide
  induction h with
  | nil => exact .nil
  | last nonempty inside =>
    exact .last (mt utf8_eq_nil_iff.mp nonempty) (mt (byte_mem_utf8_iff small).mp inside)
  | line inside _ ih =>
    have more := Lined.line (mt (byte_mem_utf8_iff small).mp inside) ih
    rwa [chop_utf8 (by decide), ← utf8_cons_of_lt small, ← utf8_append] at more

theorem newline_not_mem_of_mem_streamLines {bytes : ByteArray} {line : String}
    (h : some line ∈ streamLines bytes) : '\n' ∉ line.toList := by
  intro hn
  obtain ⟨raw, hraw, decoded⟩ := List.mem_map.mp h
  have inBytes : byte '\n' ∈ line.toUTF8.data.toList := byte_mem_of_mem (by decide) hn
  rw [toUTF8_of_fromUTF8? decoded] at inBytes
  exact newline_not_mem_of_mem_lines hraw inBytes

end Taskbook.Text
