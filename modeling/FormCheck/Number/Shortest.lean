import FormCheck.Number.Binary64
import FormCheck.Number.Numeral

/-!
# Decimal text of a number of 64 bits

A finite number is written with the fewest significant digits that read back as
the same number, and of those with the nearest ones.  The test is exact: a
number is surrounded by the stretch of ratios that round to it, and a decimal
reads back when it lies in that stretch.  `Decimal` is the outcome, digits
`d₁d₂…dₙ` and the power of ten of the first one; how it is laid out as text is
decided where it is written.
-/

namespace FormCheck

/-- A positive decimal: the digits `digits`, the first of which stands for
multiples of `10 ^ magnitude`. -/
structure Decimal where
  digits : Nat
  magnitude : Int
  deriving DecidableEq, Repr

namespace Decimal

/-- The greatest power of ten that is not above a positive ratio. -/
def magnitudeOf (numerator denominator : Nat) : Int :=
  if denominator ≤ numerator then
    Binary64.digitCount (numerator / denominator) - 1
  else
    -(Binary64.digitCount ((denominator + numerator - 1) / numerator - 1) : Int)

/-- A ratio times a power of ten. -/
def shift (numerator denominator : Nat) (power : Int) : Nat × Nat :=
  if 0 ≤ power then
    (numerator * Nat.pow 10 power.toNat, denominator)
  else
    (numerator, denominator * Nat.pow 10 (-power).toNat)

end Decimal

namespace Binary64

/-- The stretch of ratios that round to a number of quanta, in quarters of a
quantum: its lower end, its upper end, and whether the ends belong to it. -/
def stretch (quanta : Nat) : Nat × Nat × Bool :=
  let distance := step quanta
  let isLeast := quanta == Nat.pow 2 (precision - 1) * distance && 1 < distance
  let below := if isLeast then distance else 2 * distance
  (4 * quanta - below, 4 * quanta + 2 * distance, quanta / distance % 2 == 0)

/-- The nearest decimal with a given number of digits, if it reads back. -/
private def decimalWith? (quanta : Nat) (magnitude : Int) (count : Nat) : Option Decimal :=
  let (lower, upper, closed) := stretch quanta
  let scale := 4 * Position.unit
  let (numerator, denominator) :=
    Decimal.shift (4 * quanta) scale (count - 1 - magnitude)
  let floor := numerator / denominator
  let readsBack (candidate : Nat) : Bool :=
    let (value, parts) := Decimal.shift candidate 1 (magnitude - (count - 1))
    let left := lower * parts
    let middle := value * scale
    let right := upper * parts
    if closed then left ≤ middle && middle ≤ right else left < middle && middle < right
  let nearest := roundHalfEven numerator denominator
  let other := if nearest = floor then floor + 1 else floor
  let found? :=
    if readsBack nearest then some nearest
    else if readsBack other then some other
    else none
  found?.map fun digits =>
    if digits = Nat.pow 10 count then
      ⟨Nat.pow 10 (count - 1), magnitude + 1⟩
    else
      ⟨digits, magnitude⟩

/-- The shortest decimal that reads back as a positive number of quanta. -/
def shortest (quanta : Nat) : Decimal :=
  let magnitude := Decimal.magnitudeOf quanta Position.unit
  match (List.range 17).findSome? fun count => decimalWith? quanta magnitude (count + 1) with
  | some decimal => decimal
  | none => ⟨quanta, magnitude⟩

end Binary64

end FormCheck
