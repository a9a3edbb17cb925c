import Taskbook.Date.Reading
import Taskbook.Text.Collation

/-! The order of dates as they were typed. -/

set_option autoImplicit false

namespace Taskbook.Date

/-- Texts that denote dates come first, in chronological order; the others follow in the order of
texts that is given. -/
def compareTypedBy (texts : Text.Collation) (a b : String) : Ordering :=
  match ofText? a, ofText? b with
  | some d, some e => chronological d e
  | some _, none => .lt
  | none, some _ => .gt
  | none, none => texts a b

/-- Dates as they were typed, with the order of texts that is in use. -/
def compareTyped [Text.HasCollation] : String → String → Ordering := compareTypedBy Text.collation

end Taskbook.Date
