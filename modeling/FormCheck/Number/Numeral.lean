import FormCheck.Number.Binary64
import FormCheck.Text.Blank
import FormCheck.Text.DecimalDigit

/-!
# Written numbers

A number may be written with the digits of any script, with blanks at its ends,
and with single underscores between digits.  `Binary64.read?` reads a decimal
numeral, with or without a point and an exponent, or one of the words for an
infinity and for what is not a number; `readInteger?` reads a whole number to a
base.
-/

namespace FormCheck

namespace Numeral

/-- A character of a numeral in its plain form: digits of other scripts become
the digits from `'0'` to `'9'`, blanks of other scripts the space. -/
def plainChar? (c : Char) : Option Char :=
  if c.toNat < 0x7F then
    some c
  else if Text.isBlank c then
    some ' '
  else
    (Text.digitValue? c).map fun value => Char.ofNat ('0'.toNat + value)

/-- Characters that may stand round a numeral in plain form. -/
def isMargin (c : Char) : Bool :=
  c == ' ' || (9 ≤ c.toNat && c.toNat ≤ 13)

/-- The numeral without its margins, in plain form. -/
def plain? (text : List Char) : Option (List Char) := do
  let characters ← text.mapM plainChar?
  return ((characters.dropWhile isMargin).reverse.dropWhile isMargin).reverse

/-- Take out the underscores of a numeral; each must stand between two digits. -/
def ungroup? (isDigit : Char → Bool) : (previous : Char) → List Char → Option (List Char)
  | previous, [] => if previous = '_' then none else some []
  | previous, c :: rest =>
      if c = '_' then
        if isDigit previous then ungroup? isDigit '_' rest else none
      else if previous = '_' && !isDigit c then
        none
      else
        (ungroup? isDigit c rest).map (c :: ·)

def sign : List Char → Bool × List Char
  | '-' :: rest => (true, rest)
  | '+' :: rest => (false, rest)
  | text => (false, text)

/-- The number that digits from `'0'` to `'9'` write. -/
def natOfDigits (digits : List Char) : Nat :=
  digits.foldl (fun total c => 10 * total + (c.toNat - '0'.toNat)) 0

/-- The leading digits and the rest. -/
def digitSpan (text : List Char) : List Char × List Char :=
  text.span Text.isAsciiDigit

/-- The exponent that ends a decimal numeral; no exponent counts as zero. -/
def exponent? : List Char → Option Int
  | [] => some 0
  | mark :: rest =>
      if mark = 'e' ∨ mark = 'E' then
        let (negative, unsigned) := sign rest
        match digitSpan unsigned with
        | ([], _) => none
        | (digits, []) =>
            let size : Int := natOfDigits digits
            some (if negative then -size else size)
        | _ => none
      else
        none

end Numeral

namespace Binary64

/-- The number of digits that write a number in base ten. -/
def digitCount (number : Nat) : Nat :=
  (Nat.toDigits 10 number).length

/-- The number of 64 bits nearest to a whole number times a power of ten. -/
def ofDecimal (negative : Bool) (coefficient : Nat) (exponent : Int) : Binary64 :=
  let magnitude : Int := digitCount coefficient + exponent
  if coefficient = 0 then
    .finite negative 0
  else if 310 < magnitude then
    .infinite negative
  else if magnitude < -330 then
    .finite negative 0
  else if 0 ≤ exponent then
    ofRatio negative (coefficient * Nat.pow 10 exponent.toNat) 1
  else
    ofRatio negative coefficient (Nat.pow 10 (-exponent).toNat)

/-- The words for numbers without digits. -/
def ofWord? (negative : Bool) (word : List Char) : Option Binary64 :=
  let small := String.ofList (word.map Char.toLower)
  if small = "inf" ∨ small = "infinity" then
    some (.infinite negative)
  else if small = "nan" then
    some (.nan 0)
  else
    none

/-- A numeral without sign, margins and underscores. -/
def readUnsigned? (negative : Bool) (text : List Char) : Option Binary64 :=
  match ofWord? negative text with
  | some number => some number
  | none =>
      let (whole, rest) := Numeral.digitSpan text
      let (fraction, tail) :=
        match rest with
        | '.' :: afterPoint => Numeral.digitSpan afterPoint
        | _ => ([], rest)
      if whole.isEmpty && fraction.isEmpty then
        none
      else
        (Numeral.exponent? tail).map fun exponent =>
          ofDecimal negative (Numeral.natOfDigits (whole ++ fraction))
            (exponent - fraction.length)

def read? (text : List Char) : Option Binary64 := do
  let characters ← Numeral.plain? text
  let ungrouped ← Numeral.ungroup? Text.isAsciiDigit '.' characters
  let (negative, unsigned) := Numeral.sign ungrouped
  readUnsigned? negative unsigned

end Binary64

namespace Numeral

/-- The value of a digit in a base up to sixteen. -/
def digitIn? (base : Nat) (c : Char) : Option Nat :=
  let value? :=
    if Text.isAsciiDigit c then some (c.toNat - '0'.toNat)
    else if 'a' ≤ c ∧ c ≤ 'f' then some (c.toNat - 'a'.toNat + 10)
    else if 'A' ≤ c ∧ c ≤ 'F' then some (c.toNat - 'A'.toNat + 10)
    else none
  value?.filter (· < base)

/-- The longest numeral that is read or written in a base that is not a power of two. -/
def longestDecimal : Nat := 4300

/-- Why a text writes no whole number. -/
inductive Refusal where
  | notNumeral
  | tooLong (digits : Nat)
  deriving DecidableEq, Repr

private def withoutBaseMark (base : Nat) : List Char → List Char
  | '0' :: mark :: rest =>
      let small := mark.toLower
      if (base = 2 ∧ small = 'b') ∨ (base = 8 ∧ small = 'o') ∨ (base = 16 ∧ small = 'x') then
        rest
      else
        '0' :: mark :: rest
  | text => text

/-- The whole number that a text writes in a base: a sign, the mark of the base
when it is two, eight or sixteen, and digits. -/
def readInteger (base : Nat) (text : List Char) : Except Refusal Int :=
  match plain? text with
  | none => .error .notNumeral
  | some characters =>
      let (negative, unsigned) := sign characters
      let digits := withoutBaseMark base unsigned
      match ungroup? (fun c => (digitIn? base c).isSome) '.' digits with
      | none => .error .notNumeral
      | some ungrouped =>
          match ungrouped.mapM (digitIn? base) with
          | none | some [] => .error .notNumeral
          | some values =>
              if base = 10 ∧ longestDecimal < values.length then
                .error (.tooLong values.length)
              else
                let size := values.foldl (fun total value => base * total + value) 0
                .ok (if negative then -(size : Int) else size)

end Numeral

end FormCheck
