import Taskbook.Text.Class

/-! Texts between double quotes, as the log shows them. -/

set_option autoImplicit false

namespace Taskbook.Text

def spellNumber (c : Char) : List Char := ['\\', 'u', '\x7b'] ++ Nat.toDigits 16 c.toNat ++ ['\x7d']

def spell (c : Char) : List Char :=
  if c = '"' then ['\\', '"']
  else if c = '\\' then ['\\', '\\']
  else if c = '\n' then ['\\', 'n']
  else if c = '\r' then ['\\', 'r']
  else if c = '\t' then ['\\', 't']
  else if c = '\x00' then ['\\', '0']
  else if isUnprinted c then spellNumber c
  else [c]

/-- A text between double quotes: what cannot be printed is spelt by its number. -/
def quoted (s : String) : String :=
  String.ofList ('"' :: s.toList.flatMap spell ++ ['"'])

end Taskbook.Text
