import Taskbook.Text.Class
import Taskbook.Text.Collation

/-! The lexical order of texts: case and accents count last, and letters and numbers come after all
other characters. Characters outside ASCII count as their plain spelling as far as the table here has
one. -/

set_option autoImplicit false

namespace Taskbook.Text

/-- Letters and numbers outside ASCII with their plain spelling: each row gives a spelling and the
characters that have it. -/
def plainSpellings : List (String × String) := [
  ("a", "ªÀÁÂÃÄÅàáâãäåĀāĂăĄą"), ("ae", "Ææ"), ("c", "ÇçĆćĈĉĊċČč"), ("d", "ÐðĎďĐđ"),
  ("e", "ÈÉÊËèéêëĒēĔĕĖėĘęĚě"), ("g", "ĜĝĞğĠġĢģ"), ("h", "ĤĥĦħ"),
  ("i", "ÌÍÎÏìíîïĨĩĪīĬĭĮįİı"), ("ij", "Ĳĳ"), ("j", "Ĵĵ"), ("k", "Ķķ"), ("l", "ĹĺĻļĽľĿŀŁł"),
  ("n", "ÑñŃńŅņŇň"), ("o", "ºÒÓÔÕÖØòóôõöøŌōŎŏŐőΩω"), ("oe", "Œœ"), ("r", "ŔŕŖŗŘř"),
  ("s", "ŚśŜŝŞşŠšſΣσς"), ("ss", "ß"), ("t", "ŢţŤťŦŧ"), ("th", "Þþ"),
  ("u", "µÙÚÛÜùúûüŨũŪūŬŭŮůŰűŲų"), ("w", "Ŵŵ"), ("y", "ÝýÿŶŷŸ"), ("z", "ŹźŻżŽž"),
  ("1", "¹"), ("2", "²"), ("3", "³"), ("1/4", "¼"), ("1/2", "½"), ("3/4", "¾"),
  ("ya", "Яя"), ("zh", "Жж"), ("zhong", "中"), ("jing", "亰"), ("bei", "北"), ("ri", "日"),
  ("fi", "ﬁ")]

def plainSpelling? (c : Char) : Option String :=
  (plainSpellings.find? fun row => row.2.toList.contains c).map (·.1)

/-- What a character counts as: lower case for ASCII, the plain spelling of other letters and
numbers, nothing for an accent on its own, and itself otherwise. -/
def fold (c : Char) : List Char :=
  if c.toNat < 0x80 then [c.toLower]
  else if isAlphanumeric c then
    match plainSpelling? c with
    | some spelling => spelling.toList
    | none => [c]
  else if 0x300 ≤ c.toNat ∧ c.toNat ≤ 0x36F then []
  else [c]

/-- Letters and numbers after all else, otherwise by code point. -/
def compareChars : Char → Char → Ordering :=
  compareLex (compareOn isAlphanumeric) (compareOn Char.toNat)

/-- Compares what the characters count as, and the characters themselves where that is the same. -/
def compareTexts : Collation := fun a b =>
  ((a.toList.flatMap fold).compareLex compareChars (b.toList.flatMap fold)).then
    (a.toList.compareLex (compareOn Char.toNat) b.toList)

instance lexical : HasCollation := ⟨compareTexts⟩

end Taskbook.Text
