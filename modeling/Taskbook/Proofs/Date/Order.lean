import Taskbook.Date.Order
import Taskbook.Text.Lexical
import Mathlib.Order.Defs.LinearOrder

/-! The order of typed dates is a consistent one: whatever order the other texts are compared in, if
that is a total preorder, so is the order of dates and texts together. Two texts tie in it if they
denote the same day, in whatever layouts, or if neither denotes a day and they tie as texts. -/

set_option autoImplicit false

namespace Taskbook

open Std

namespace Text

instance : TransCmp compareChars :=
  inferInstanceAs (TransCmp (compareLex (compareOn isAlphanumeric) (compareOn Char.toNat)))

private theorem transCmp_on {α β : Type} (key : α → β) (compare : β → β → Ordering)
    [TransCmp compare] : TransCmp fun a b => compare (key a) (key b) where
  eq_swap := OrientedCmp.eq_swap
  isLE_trans := TransCmp.isLE_trans

instance : TransCmp compareTexts :=
  have _folded :=
    transCmp_on (fun a : String => a.toList.flatMap fold) (List.compareLex compareChars)
  have _exactly := transCmp_on String.toList (List.compareLex (compareOn Char.toNat))
  inferInstanceAs (TransCmp (compareLex
    (fun a b : String =>
      (a.toList.flatMap fold).compareLex compareChars (b.toList.flatMap fold))
    fun a b : String => a.toList.compareLex (compareOn Char.toNat) b.toList))

end Text

namespace Date

instance : TransCmp chronological :=
  inferInstanceAs (TransCmp (compareLex (compareOn year) (compareLex (compareOn month)
    (compareOn day))))

private theorem chronological_eq_iff {d e : Date} : chronological d e = .eq ↔ d = e := by
  cases d
  cases e
  simp [chronological, compareLex_eq_eq, compareOn]

section Typed

variable {texts : Text.Collation} {a b c : String} {d e : Date}

theorem compareTypedBy_of_dates (ha : ofText? a = some d) (hb : ofText? b = some e) :
    compareTypedBy texts a b = chronological d e := by
  rw [compareTypedBy, ha, hb]

theorem compareTypedBy_of_texts (ha : ofText? a = none) (hb : ofText? b = none) :
    compareTypedBy texts a b = texts a b := by
  rw [compareTypedBy, ha, hb]

private theorem compareTypedBy_of_date_of_text (ha : ofText? a = some d) (hb : ofText? b = none) :
    compareTypedBy texts a b = .lt := by
  rw [compareTypedBy, ha, hb]

private theorem compareTypedBy_of_text_of_date (ha : ofText? a = none) (hb : ofText? b = some e) :
    compareTypedBy texts a b = .gt := by
  rw [compareTypedBy, ha, hb]

theorem exists_date_of_isLE (first : (compareTypedBy texts a b).isLE)
    (hb : ofText? b = some e) : ∃ d, ofText? a = some d := by
  cases ha : ofText? a with
  | some d => exact ⟨d, rfl⟩
  | none =>
    rw [compareTypedBy_of_text_of_date ha hb] at first
    cases first

instance [OrientedCmp texts] : OrientedCmp (compareTypedBy texts) where
  eq_swap := by
    intro a b
    cases ha : ofText? a with
    | some d =>
      cases hb : ofText? b with
      | some e =>
        rw [compareTypedBy_of_dates ha hb, compareTypedBy_of_dates hb ha]
        exact OrientedCmp.eq_swap
      | none =>
        rw [compareTypedBy_of_date_of_text ha hb, compareTypedBy_of_text_of_date hb ha]
        rfl
    | none =>
      cases hb : ofText? b with
      | some e =>
        rw [compareTypedBy_of_text_of_date ha hb, compareTypedBy_of_date_of_text hb ha]
        rfl
      | none =>
        rw [compareTypedBy_of_texts ha hb, compareTypedBy_of_texts hb ha]
        exact OrientedCmp.eq_swap

instance [TransCmp texts] : TransCmp (compareTypedBy texts) where
  isLE_trans := by
    intro a b c ab bc
    cases hc : ofText? c with
    | some f =>
      obtain ⟨e, hb⟩ := exists_date_of_isLE bc hc
      obtain ⟨d, ha⟩ := exists_date_of_isLE ab hb
      rw [compareTypedBy_of_dates ha hb] at ab
      rw [compareTypedBy_of_dates hb hc] at bc
      rw [compareTypedBy_of_dates ha hc]
      exact TransCmp.isLE_trans ab bc
    | none =>
      cases ha : ofText? a with
      | some d =>
        rw [compareTypedBy_of_date_of_text ha hc]
        rfl
      | none =>
        -- No day stands between two texts, as the first one would be behind it.
        have hb : ofText? b = none := by
          by_contra day
          obtain ⟨e, hb⟩ := Option.ne_none_iff_exists'.mp day
          obtain ⟨d, ha'⟩ := exists_date_of_isLE ab hb
          rw [ha] at ha'
          cases ha'
        rw [compareTypedBy_of_texts ha hb] at ab
        rw [compareTypedBy_of_texts hb hc] at bc
        rw [compareTypedBy_of_texts ha hc]
        exact TransCmp.isLE_trans ab bc

private theorem compareTypedBy_eq_iff : compareTypedBy texts a b = .eq ↔
    (∃ d, ofText? a = some d ∧ ofText? b = some d) ∨
      ofText? a = none ∧ ofText? b = none ∧ texts a b = .eq := by
  cases ha : ofText? a with
  | some d =>
    cases hb : ofText? b with
    | some e =>
      rw [compareTypedBy_of_dates ha hb, chronological_eq_iff]
      simp [eq_comm]
    | none => simp [compareTypedBy_of_date_of_text ha hb]
  | none =>
    cases hb : ofText? b with
    | some e => simp [compareTypedBy_of_text_of_date ha hb]
    | none => simp [compareTypedBy_of_texts ha hb]

end Typed

/-- If the order of texts is a total preorder, the order of typed dates is one. What ties in it are
the spellings of one day, and texts that denote no day and tie as texts. -/
theorem compareTypedBy_total_preorder (texts : Text.Collation) [TransCmp texts] (a b c : String) :
    compareTypedBy texts a a = .eq ∧
      compareTypedBy texts b a = (compareTypedBy texts a b).swap ∧
      (compareTypedBy texts a b ≠ .gt → compareTypedBy texts b c ≠ .gt →
        compareTypedBy texts a c ≠ .gt) ∧
      (compareTypedBy texts a b = .eq ↔
        (∃ d, ofText? a = some d ∧ ofText? b = some d) ∨
          ofText? a = none ∧ ofText? b = none ∧ texts a b = .eq) := by
  refine ⟨ReflCmp.compare_self, OrientedCmp.eq_swap, ?_, compareTypedBy_eq_iff⟩
  simp only [ne_eq, Ordering.ne_gt_iff_isLE]
  exact TransCmp.isLE_trans

/-- Two spellings of one day, and a text that denotes none. -/
theorem compareTypedBy_total_preorder_spellings :
    let compareTyped := compareTypedBy Text.compareTexts
    TransCmp Text.compareTexts ∧
      compareTyped "2024-10-01" "2024-10-01" = .eq ∧
      compareTyped "oct 1 2024" "2024-10-01" = (compareTyped "2024-10-01" "oct 1 2024").swap ∧
      (compareTyped "2024-10-01" "oct 1 2024" ≠ .gt →
        compareTyped "oct 1 2024" "soon" ≠ .gt → compareTyped "2024-10-01" "soon" ≠ .gt) ∧
      (compareTyped "2024-10-01" "oct 1 2024" = .eq ↔
        (∃ d, ofText? "2024-10-01" = some d ∧ ofText? "oct 1 2024" = some d) ∨
          ofText? "2024-10-01" = none ∧ ofText? "oct 1 2024" = none ∧
            Text.compareTexts "2024-10-01" "oct 1 2024" = .eq) :=
  ⟨inferInstance,
    compareTypedBy_total_preorder Text.compareTexts "2024-10-01" "oct 1 2024" "soon"⟩

end Date

end Taskbook
