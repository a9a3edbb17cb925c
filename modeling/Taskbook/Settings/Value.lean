/-! Values of settings as the formats of settings files know them, and what they convert to. -/

set_option autoImplicit false

namespace Taskbook.Settings

inductive Value where
  | text (s : String)
  | integer (n : Int)
  /-- The number `mantissa * 10 ^ exponent` or its negative, also for zero. -/
  | decimal (isNegative : Bool) (mantissa : Nat) (exponent : Int)
  /-- An infinite number, or one that is none, by its name. -/
  | notFinite (name : String)
  | boolean (b : Bool)
  | null
  /-- A list or a table. -/
  | nested
  deriving DecidableEq, Repr

/-- Keys and values, the one that counts first. -/
abbrev Entries := List (String × Value)

namespace Value

/-- A row of digits without the zeros at its end, and how many those were. -/
def stripZeros (digits : List Char) : List Char × Nat :=
  let zeros := (digits.reverse.takeWhile (· = '0')).length
  (digits.take (digits.length - zeros), zeros)

/-- A decimal number with a point where it has a fraction, and without an exponent. -/
def decimalText (isNegative : Bool) (mantissa : Nat) (exponent : Int) : String :=
  let (digits, zeros) := stripZeros (Nat.toDigits 10 mantissa)
  let exponent := exponent + zeros
  let body :=
    if mantissa = 0 then ['0']
    else if 0 ≤ exponent then digits ++ List.replicate exponent.toNat '0'
    else
      let places := exponent.natAbs
      let padded := List.replicate (places + 1 - digits.length) '0' ++ digits
      padded.take (padded.length - places) ++ '.' :: padded.drop (padded.length - places)
  (if isNegative then "-" else "") ++ String.ofList body

def asText? : Value → Option String
  | text s => some s
  | integer n => some (toString n)
  | decimal isNegative mantissa exponent => some (decimalText isNegative mantissa exponent)
  | notFinite name => some name
  | boolean b => some (if b then "true" else "false")
  | null | nested => none

/-- The truth value that a setting takes from a value: numbers are true unless they are zero, and
certain words are in any case. -/
def asBool? : Value → Option Bool
  | boolean b => some b
  | integer n => some (n ≠ 0)
  | decimal _ mantissa _ => some (mantissa ≠ 0)
  | notFinite _ => some true
  | text s =>
    let word := String.ofList (s.toList.map Char.toLower)
    if ["1", "true", "on", "yes"].contains word then some true
    else if ["0", "false", "off", "no"].contains word then some false
    else none
  | null | nested => none

end Value

end Taskbook.Settings
