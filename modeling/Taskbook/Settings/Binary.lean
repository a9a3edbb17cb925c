import Taskbook.Settings.Value

/-! Numbers of 53 binary digits, to which settings files round their decimals, and the shortest
decimals that stand for them. -/

set_option autoImplicit false

namespace Taskbook.Settings

/-- A number as a count of the least unit, `2 ^ -1074`. -/
structure Binary where
  units : Nat
  deriving DecidableEq, Repr

namespace Binary

def one : Nat := Nat.pow 2 1074

/-- The distance from a count to the next one of no more than 53 digits. -/
def gapAt (units : Nat) : Nat := Nat.pow 2 (units.log2 - 52)

/-- The number nearest to a quotient; of two that are equally near, the even multiple of their
distance. -/
def nearest (num den : Nat) : Binary :=
  let gap := gapAt (num * one / den)
  let step := gap * den
  let below := num * one / step
  let rest := num * one % step
  let isBelow := 2 * rest < step || 2 * rest = step && below % 2 = 0
  ⟨if isBelow then below * gap else (below + 1) * gap⟩

def gap (b : Binary) : Nat := gapAt b.units

/-- The distance to the number below, which is shorter below a power of two. -/
def gapBelow (b : Binary) : Nat :=
  if b.units = Nat.pow 2 b.units.log2 then gapAt (b.units - 1) else b.gap

def isInfinite (b : Binary) : Bool := Nat.pow 2 1024 * one ≤ b.units

def times (a b : Binary) : Binary := nearest (a.units * b.units) (one * one)

def dividedBy (a b : Binary) : Binary := nearest a.units b.units

/-- Whether `digits * 10 ^ place` is rounded to the number. -/
def isNearestTo (b : Binary) (digits : Nat) (place : Int) : Bool :=
  let shown := digits * Nat.pow 10 place.toNat * one
  let units := b.units * Nat.pow 10 (-place).toNat
  let (distance, gap) :=
    if shown ≤ units then (units - shown, b.gapBelow) else (shown - units, b.gap)
  let reach := gap * Nat.pow 10 (-place).toNat
  2 * distance < reach || 2 * distance = reach && b.units / b.gap % 2 = 0

/-- The multiple of a power of ten nearest to the number, if it is rounded to the number. -/
def multiple? (b : Binary) (place : Int) : Option Nat :=
  let step := Nat.pow 10 place.toNat * one
  let units := b.units * Nat.pow 10 (-place).toNat
  let below := units / step
  let nearby := if 2 * (units % step) < step then [below, below + 1] else [below + 1, below]
  nearby.find? fun digits => digits ≠ 0 && b.isNearestTo digits place

def topPlace (b : Binary) : Int := ((b.units.log2 : Int) - 1073) * 30103 / 100000 + 2

/-- The decimal with the fewest digits that is rounded to the number, as its digits and their power
of ten. Seventeen digits always do. -/
def shortest (b : Binary) : Nat × Int :=
  let places := if b.units = 0 then [] else (List.range 21).map fun (i : Nat) => b.topPlace - i
  (places.findSome? fun place => (b.multiple? place).map fun digits => (digits, place)).getD (0, 0)

def value (b : Binary) (isNegative : Bool) : Value :=
  if b.isInfinite then .notFinite (if isNegative then "-inf" else "inf")
  else
    let (mantissa, exponent) := b.shortest
    .decimal isNegative mantissa exponent

end Binary

end Taskbook.Settings
