import Taskbook.Text.Quoted

/-! Texts that a terminal shows and does not obey, as the messages in the log are. -/

set_option autoImplicit false

namespace Taskbook.Text

/-- Bell, backspace, form feed, escape and delete. -/
def terminalControls : List Char := ['\x07', '\x08', '\x0C', '\x1B', '\x7F']

/-- The spelling of one character. What can be part of an order to a terminal is spelt by its
number: in two digits up to U+007F, and in braces above. -/
def disarm (c : Char) : List Char :=
  if terminalControls.contains c then
    ['\\', 'x', Nat.digitChar (c.toNat / 16), Nat.digitChar (c.toNat % 16)]
  else if '\u0080' ≤ c ∧ c ≤ '\u009F' then spellNumber c
  else [c]

def inert (s : String) : String := String.ofList (s.toList.flatMap disarm)

end Taskbook.Text
