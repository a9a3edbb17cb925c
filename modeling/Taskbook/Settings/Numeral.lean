import Taskbook.Date.Reading
import Taskbook.Settings.Binary

/-! Numbers in decimal notation, as settings files write them. -/

set_option autoImplicit false

namespace Taskbook.Settings

/-- Whether a whole number has no more than 64 bits, one of them for its sign. -/
def isShort (n : Int) : Bool := -9223372036854775808 ≤ n && n < 9223372036854775808

structure Numeral where
  sign : Option Char
  whole : List Char
  fraction : Option (List Char)
  exponent : Option (Option Char × List Char)

namespace Numeral

def takeSign (s : List Char) : Option Char × List Char :=
  match s with
  | '+' :: rest => (some '+', rest)
  | '-' :: rest => (some '-', rest)
  | _ => (none, s)

/-- The parts of a text that is a number and nothing else. -/
def ofText? (s : List Char) : Option Numeral :=
  let (sign, s) := takeSign s
  let whole := s.takeWhile Char.isDigit
  let s := s.dropWhile Char.isDigit
  let (fraction, s) := match s with
    | '.' :: rest => (some (rest.takeWhile Char.isDigit), rest.dropWhile Char.isDigit)
    | _ => (none, s)
  let (exponent, s) := match s with
    | 'e' :: rest | 'E' :: rest =>
      let (sign, rest) := takeSign rest
      (some (sign, rest.takeWhile Char.isDigit), rest.dropWhile Char.isDigit)
    | _ => (none, s)
  let noDigits := whole.isEmpty && (fraction.getD []).isEmpty
  let badExponent := match exponent with
    | some (_, digits) => digits.isEmpty
    | none => false
  if s.isEmpty && !noDigits && !badExponent then some ⟨sign, whole, fraction, exponent⟩ else none

def isInteger (n : Numeral) : Bool := n.fraction.isNone && n.exponent.isNone

/-- A number with a zero in front that it does not need. -/
def isPadded (n : Numeral) : Bool := n.whole.head? == some '0' && n.whole.length != 1

/-- A number that is not padded, with digits on both sides of a point. -/
def isStrict (n : Numeral) : Bool := !n.whole.isEmpty && !n.isPadded && n.fraction != some []

def isNegative (n : Numeral) : Bool := n.sign == some '-'

/-- All digits, as if there were no point. -/
def mantissa (n : Numeral) : Nat := Date.decimal (n.whole ++ n.fraction.getD [])

def exponentValue (n : Numeral) : Int :=
  match n.exponent with
  | some (some '-', digits) => -(Date.decimal digits : Int)
  | some (_, digits) => Date.decimal digits
  | none => 0

def scale (n : Numeral) : Int := n.exponentValue - (n.fraction.getD []).length

/-- How many digits the number has before its point; there are zeros behind the point if this is
negative. -/
def magnitude (n : Numeral) : Int := (Nat.toDigits 10 n.mantissa).length + n.scale

/-- The number with a fraction of 64 bits that is nearest. What is too great is infinite. -/
def decimalValue (n : Numeral) : Value :=
  if n.mantissa = 0 ∨ n.magnitude < -323 then .decimal n.isNegative 0 0
  else if 309 < n.magnitude then .notFinite (if n.isNegative then "-inf" else "inf")
  else
    (Binary.nearest (n.mantissa * Nat.pow 10 n.scale.toNat)
      (Nat.pow 10 (-n.scale).toNat)).value n.isNegative

def integer? (n : Numeral) : Option Int :=
  let k : Int := if n.isNegative then -(n.mantissa : Int) else n.mantissa
  if n.isInteger && isShort k then some k else none

end Numeral

def hexDigit? (c : Char) : Option Nat :=
  if c.isDigit then some (c.toNat - '0'.toNat)
  else if 'a' ≤ c ∧ c ≤ 'f' then some (c.toNat - 'a'.toNat + 10)
  else if 'A' ≤ c ∧ c ≤ 'F' then some (c.toNat - 'A'.toNat + 10)
  else none

def radix? (base : Nat) (digits : List Char) : Option Nat :=
  digits.foldl (fun n c => n.bind fun n =>
    ((hexDigit? c).filter (· < base)).map fun d => base * n + d) (some 0)

def hex? (digits : List Char) : Option Nat := radix? 16 digits

def charOfNat? (n : Nat) : Option Char :=
  if h : n.isValidChar then some (Char.ofNatAux n h) else none

end Taskbook.Settings
