/-! Orders of texts. Which one is in use is left open here. -/

set_option autoImplicit false

namespace Taskbook.Text

abbrev Collation := String → String → Ordering

/-- The order in which texts are sorted. -/
class HasCollation where
  collation : Collation

export HasCollation (collation)

end Taskbook.Text
