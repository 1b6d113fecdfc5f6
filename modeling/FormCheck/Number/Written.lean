import FormCheck.Number.Shortest

/-!
# Laying out decimals

Digits and a magnitude become text in one of two ways: with the point where it
belongs (`positional`), or with one digit before the point and an exponent of at
least two digits (`scientific`).  `Binary64.written` is the text of a number when
nothing is said about its form: the shortest digits, positional for magnitudes
from -4 to 15 and then always with a point.
-/

namespace FormCheck

def decimalDigits (number : Nat) : List Char :=
  Nat.toDigits 10 number

/-- The decimal digits of a whole number after its sign, if that is a minus. -/
def integerDigits (number : Int) : List Char :=
  if number < 0 then
    '-' :: decimalDigits number.natAbs
  else
    decimalDigits number.natAbs

namespace Decimal

/-- The digits before the point and those after it. -/
def positional (digits : List Char) (magnitude : Int) : List Char × List Char :=
  if magnitude < 0 then
    (['0'], List.replicate ((-magnitude).toNat - 1) '0' ++ digits)
  else
    let count := magnitude.toNat + 1
    (digits.take count ++ List.replicate (count - digits.length) '0', digits.drop count)

def exponentText (mark : Char) (magnitude : Int) : List Char :=
  let digits := decimalDigits magnitude.natAbs
  mark :: (if magnitude < 0 then '-' else '+') ::
    (List.replicate (2 - digits.length) '0' ++ digits)

/-- A point and what follows it, if anything does. -/
def pointed (fraction : List Char) : List Char :=
  if fraction.isEmpty then [] else '.' :: fraction

/-- One digit before the point, and the exponent. -/
def scientific (mark : Char) (digits : List Char) (magnitude : Int) : List Char :=
  digits.take 1 ++ pointed (digits.drop 1) ++ exponentText mark magnitude

end Decimal

namespace Binary64

/-- The digits and the magnitude of a finite number; zero has the one digit
`'0'`. -/
def shortestDigits (quanta : Nat) : List Char × Int :=
  if quanta = 0 then
    (['0'], 0)
  else
    let decimal := shortest quanta
    (decimalDigits decimal.digits, decimal.magnitude)

/-- The magnitudes that are written with the point where it belongs. -/
def isPositional (magnitude : Int) : Bool :=
  -4 ≤ magnitude && magnitude ≤ 15

def written : Binary64 → List Char
  | .nan _ => "nan".toList
  | .infinite negative => (if negative then "-inf" else "inf").toList
  | .finite negative quanta =>
      let (digits, magnitude) := shortestDigits quanta
      let unsigned :=
        if isPositional magnitude then
          let (whole, fraction) := Decimal.positional digits magnitude
          whole ++ '.' :: (if fraction.isEmpty then ['0'] else fraction)
        else
          Decimal.scientific 'e' digits magnitude
      if negative then '-' :: unsigned else unsigned

end Binary64

end FormCheck
