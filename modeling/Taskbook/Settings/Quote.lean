import Taskbook.Settings.Numeral

/-! Texts between quotes in settings files, with the escapes that a format knows. -/

set_option autoImplicit false

namespace Taskbook.Settings

structure Quoting where
  /-- The quote or quotes that end the text. -/
  closing : List Char
  /-- Whether a backslash begins an escape. -/
  hasEscapes : Bool
  /-- The characters that stand for another one after a backslash. -/
  letters : List (Char × Char)
  /-- The characters after a backslash that announce hexadecimal digits, and how many: up to six in
  braces if the number is zero. -/
  numbers : List (Char × Nat)
  /-- Whether two numbers can make up one character beyond the first 65536. -/
  hasPairs : Bool
  /-- Which of the other characters stand for themselves after a backslash. -/
  keepsOther : Char → Bool
  /-- Which characters may stand in the text as they are. -/
  isPlain : Char → Bool
  /-- How many characters a backslash takes out of the text to join two lines, if it does. -/
  joint? : List Char → Option Nat := fun _ => none

namespace Quoting

/-- Whether the text ends here. Of a row of quotes that is too long the last ones end it. -/
def ends (q : Quoting) (s : List Char) : Bool :=
  q.closing.isPrefixOf s &&
    (q.closing.length == 1 || (s.drop q.closing.length).head? != q.closing.head?)

/-- What a backslash and the characters behind it stand for, and how many characters those are. -/
def escape? (q : Quoting) : List Char → Option (Nat × Nat)
  | [] => none
  | c :: rest =>
    match q.letters.lookup c, q.numbers.lookup c with
    | some letter, _ => some (letter.toNat, 1)
    | none, some 0 =>
      let digits := rest.tail.takeWhile fun c => c != '\x7d'
      if rest.head? = some '\x7b' ∧ digits ≠ [] ∧ digits.length ≤ 6 ∧
          digits.length + 1 < rest.length then
        (hex? digits).map fun n => (n, digits.length + 3)
      else none
    | none, some count =>
      let digits := rest.take count
      if digits.length = count then (hex? digits).map fun n => (n, count + 1) else none
    | none, none => if q.keepsOther c then some (c.toNat, 1) else none

/-- The numbers of the characters up to the closing quote, and what follows it. -/
def numbers? (q : Quoting) (s : List Char) : Option (List Nat × List Char) :=
  if q.ends s then some ([], s.drop q.closing.length)
  else
    match s with
    | [] => none
    | c :: rest =>
      if c = '\\' ∧ q.hasEscapes = true then
        match q.joint? rest, q.escape? rest with
        | some taken, _ => q.numbers? (rest.drop taken)
        | none, none => none
        | none, some (n, taken) =>
          (q.numbers? (rest.drop taken)).map fun (ns, rest) => (n :: ns, rest)
      else if q.isPlain c then (q.numbers? rest).map fun (ns, rest) => (c.toNat :: ns, rest)
      else none
termination_by s.length
decreasing_by all_goals simp; try omega

/-- Joins the two halves of characters beyond the first 65536. -/
def joinPairs : List Nat → List Nat
  | high :: low :: rest =>
    if 0xD800 ≤ high ∧ high < 0xDC00 ∧ 0xDC00 ≤ low ∧ low < 0xE000 then
      (0x10000 + (high - 0xD800) * 0x400 + (low - 0xDC00)) :: joinPairs rest
    else high :: joinPairs (low :: rest)
  | ns => ns

def read? (q : Quoting) (s : List Char) : Option (String × List Char) :=
  (q.numbers? s).bind fun (ns, rest) =>
    ((if q.hasPairs then joinPairs ns else ns).mapM charOfNat?).map fun cs =>
      (String.ofList cs, rest)

def literal (closing : List Char) (isPlain : Char → Bool) : Quoting where
  closing := closing
  hasEscapes := false
  letters := []
  numbers := []
  hasPairs := false
  keepsOther := fun _ => false
  isPlain := isPlain

end Quoting

end Taskbook.Settings
