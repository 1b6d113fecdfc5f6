import FormCheck.Host

/-!
# Values laid out

A text is cut to the precision of its layout and filled up to the width.  A
number is first split into its sign, a mark of its base, the digits that can be
grouped, and what follows them; then the sign is chosen, the digits are grouped
and the whole is filled up.  Whole numbers and numbers of 64 bits have forms of
their own, and a whole number in a form of the latter is converted first.  Other
values have no layout but the empty one.

A text that is filled up takes room, which the host may not have.
-/

namespace FormCheck

namespace Layout

/-- Fill a text up to the width, on the sides that the layout names.  `lead`
stays in front when the filling comes after the sign. -/
def filled (layout : Layout) (lead text : List Char) : List Char :=
  let missing := layout.width.getD 0 - (lead.length + text.length)
  let filling (count : Nat) := List.replicate count layout.fill
  match layout.side with
  | .left => lead ++ text ++ filling missing
  | .right => filling missing ++ lead ++ text
  | .centre => filling (missing / 2) ++ lead ++ text ++ filling (missing - missing / 2)
  | .afterSign => lead ++ filling missing ++ text

variable [Host]

/-- Make a text that is filled up to the width, if there is room for it. -/
def within (layout : Layout) (make : Unit → List Char) : Except LayoutFault (List Char) :=
  if Host.hasRoom layout then
    .ok (make ())
  else
    .error .tooWide

def text (layout : Layout) (characters : List Char) (typeName : String) :
    Except LayoutFault (List Char) :=
  if layout.form ≠ 's' then
    .error (.formUnknown layout.form typeName)
  else
    match layout.sign with
    | some style => .error (.signInText style)
    | none =>
        if layout.withoutNegativeZero then
          .error .negativeZeroInText
        else if layout.alternate then
          .error .alternateInText
        else if layout.side = .afterSign then
          .error .afterSignInText
        else
          layout.within fun _ =>
            layout.filled [] (characters.take (layout.precision.getD characters.length))

/-- The parts of a written number: whether it is negative, the mark of its base,
the digits that can be grouped, and what follows them. -/
structure Parts where
  negative : Bool
  mark : List Char
  digits : List Char
  tail : List Char
  deriving Repr

/-- Group digits, the last one first, and put zeros in front until the text has
at least a width. -/
def grouped (separator : Option Char) (groupSize : Nat) :
    (fuel : Nat) → (reversed : List Char) → (least : Int) → List Char
  | 0, reversed, _ => reversed
  | fuel + 1, reversed, least =>
      let wanted := max (max reversed.length least.toNat) 1
      match separator with
      | none => reversed ++ List.replicate (wanted - reversed.length) '0'
      | some mark =>
          let size := min groupSize wanted
          let taken := reversed.take size
          let group := taken ++ List.replicate (size - taken.length) '0'
          let rest := reversed.drop size
          let missing := least - size
          if rest.isEmpty && missing ≤ 0 then
            group
          else
            group ++ mark :: grouped separator groupSize fuel rest (missing - 1)

def signText (layout : Layout) (negative : Bool) : List Char :=
  if negative then
    ['-']
  else
    match layout.sign with
    | some .plus => ['+']
    | some .space => [' ']
    | _ => []

/-- Lay out the parts of a number. -/
def number (layout : Layout) (groupSize : Nat) (parts : Parts) : List Char :=
  let lead := layout.signText parts.negative ++ parts.mark
  let width := layout.width.getD 0
  let least : Int :=
    if layout.fill = '0' ∧ layout.side = .afterSign then
      (width : Int) - (lead.length + parts.tail.length : Nat)
    else
      0
  let digits :=
    if parts.digits.isEmpty then
      []
    else
      (grouped layout.separator groupSize (parts.digits.length + width + 1)
        parts.digits.reverse least).reverse
  layout.filled lead (digits ++ parts.tail)

/-- Lay out a whole number as the character it counts. -/
def character (layout : Layout) (value : Int) : Except LayoutFault (List Char) :=
  if layout.sign.isSome then
    .error .signWithCharacter
  else if layout.alternate then
    .error .alternateWithCharacter
  else if value < 0 ∨ 0x10FFFF < value then
    .error .characterOutOfRange
  else
    layout.within fun _ => layout.number 3 ⟨false, [], [], [Char.ofNat value.toNat]⟩

/-- The base of a form of whole numbers and its mark. -/
def base? : Char → Option (Nat × List Char)
  | 'd' | 'n' => some (10, [])
  | 'b' => some (2, ['0', 'b'])
  | 'o' => some (8, ['0', 'o'])
  | 'x' => some (16, ['0', 'x'])
  | 'X' => some (16, ['0', 'X'])
  | _ => none

def integer (layout : Layout) (value : Int) (base : Nat) (mark : List Char) :
    Except LayoutFault (List Char) :=
  if layout.precision.isSome then
    .error .precisionInInteger
  else if layout.withoutNegativeZero then
    .error .negativeZeroInInteger
  else if layout.form = 'c' then
    layout.character value
  else
    let digits := Nat.toDigits base value.natAbs
    if base = 10 ∧ Numeral.longestDecimal < digits.length then
      .error .tooManyDigits
    else
      layout.within fun _ => layout.number (if base = 10 then 3 else 4) {
        negative := value < 0
        mark := if layout.alternate then mark else []
        digits := if layout.form = 'X' then digits.map Char.toUpper else digits
        tail := [] }

/-- The nearest decimal with a number of significant digits. -/
def significant (quanta count : Nat) : List Char × Int :=
  if quanta = 0 then
    (List.replicate count '0', 0)
  else
    let magnitude := Decimal.magnitudeOf quanta Position.unit
    let (numerator, denominator) :=
      Decimal.shift quanta Position.unit (count - 1 - magnitude)
    let digits := roundHalfEven numerator denominator
    if digits = Nat.pow 10 count then
      (decimalDigits (Nat.pow 10 (count - 1)), magnitude + 1)
    else
      (decimalDigits digits, magnitude)

/-- The nearest decimal with a number of digits after the point: the digits
before it and those after it. -/
def fixedPoint (quanta places : Nat) : List Char × List Char :=
  let digits := decimalDigits (roundHalfEven (quanta * Nat.pow 10 places) Position.unit)
  let all := List.replicate (places + 1 - digits.length) '0' ++ digits
  (all.take (all.length - places), all.drop (all.length - places))

def withoutTrailingZeros (digits : List Char) : List Char :=
  (digits.reverse.dropWhile (· == '0')).reverse

/-- A point, if something follows it or the alternate form asks for it. -/
def point (alternate : Bool) (fraction : List Char) : List Char :=
  if fraction.isEmpty && !alternate then [] else '.' :: fraction

/-- Digits laid out by their magnitude: with an exponent when it is outside the
range, with the point where it belongs otherwise. -/
def general (alternate keepsFraction : Bool) (inRange : Int → Bool)
    (digits : List Char) (magnitude : Int) : List Char × List Char :=
  let kept :=
    match withoutTrailingZeros digits with
    | [] => digits.take 1
    | some' => some'
  let used := if alternate then digits else kept
  if inRange magnitude then
    let (whole, fraction) := Decimal.positional used magnitude
    let fraction := if fraction.isEmpty && keepsFraction then ['0'] else fraction
    (whole, point alternate fraction)
  else
    (used.take 1, point alternate (used.drop 1) ++ Decimal.exponentText 'e' magnitude)

/-- The digits before the point and the rest of a finite number in a form. -/
def finiteParts (layout : Layout) (quanta : Nat) : List Char × List Char :=
  let precision := layout.precision.getD 6
  match layout.form.toLower with
  | 'e' =>
      let (digits, magnitude) := significant quanta (precision + 1)
      (digits.take 1,
        point layout.alternate (digits.drop 1) ++ Decimal.exponentText 'e' magnitude)
  | 'f' | '%' =>
      let (whole, fraction) := fixedPoint quanta precision
      (whole, point layout.alternate fraction)
  | _ =>
      let count := max precision 1
      if layout.form = '\x00' then
        match layout.precision with
        | none =>
            let (digits, magnitude) := Binary64.shortestDigits quanta
            general layout.alternate true Binary64.isPositional digits magnitude
        | some _ =>
            let (digits, magnitude) := significant quanta count
            general layout.alternate true (fun size => -4 ≤ size && size + 1 < count)
              digits magnitude
      else
        let (digits, magnitude) := significant quanta count
        general layout.alternate false (fun size => -4 ≤ size && size < count)
          digits magnitude

def binary64 (layout : Layout) (value : Binary64) : Except LayoutFault (List Char) :=
  if Nat.pow 2 31 ≤ layout.precision.getD 0 then
    .error .precisionTooLarge
  else
    let isUpper := layout.form.isUpper
    let scaled := if layout.form = '%' then value.scale 100 else value
    let percent := if layout.form = '%' then ['%'] else []
    let cased (text : List Char) := if isUpper then text.map Char.toUpper else text
    let parts : Parts :=
      match scaled with
      | .nan _ => ⟨false, [], [], cased "nan".toList ++ percent⟩
      | .infinite negative => ⟨negative, [], [], cased "inf".toList ++ percent⟩
      | .finite negative quanta =>
          let (digits, tail) := layout.finiteParts quanta
          let vanishes := (digits ++ tail.takeWhile (· != 'e')).all fun c => c == '0' || c == '.'
          ⟨negative && !(layout.withoutNegativeZero && vanishes), [], digits,
            cased tail ++ percent⟩
    layout.within fun _ => layout.number 3 parts

end Layout

namespace Value

variable [Host]

/-- The forms that belong to numbers of 64 bits. -/
private def isBinary64Form (form : Char) : Bool :=
  ['e', 'E', 'f', 'F', 'g', 'G', '%'].contains form

/-- Lay out a whole number of a type. -/
private def laidOutInteger (value : Int) (typeName : String) (text : List Char) :
    Except LayoutFault (List Char) := do
  let layout ← Layout.read typeName .right 'd' text
  if isBinary64Form layout.form then
    let converted := Binary64.ofInt value
    if converted.isInfinite then
      throw .integerTooLarge
    layout.binary64 converted
  else if layout.form = 'c' then
    layout.integer value 10 []
  else
    match Layout.base? layout.form with
    | some (base, mark) => layout.integer value base mark
    | none => throw (.formUnknown layout.form typeName)

/-- A value laid out as a written layout says; the empty layout displays it. -/
def laidOut (value : Value) (text : List Char) : Except LayoutFault (List Char) :=
  if text.isEmpty then
    if value.isWritable then .ok value.display else .error .tooManyDigits
  else
    match value with
    | .text characters => do
        let layout ← Layout.read value.typeName .left 's' text
        layout.text characters.toList value.typeName
    | .boolean truth => laidOutInteger (if truth then 1 else 0) value.typeName text
    | .integer number => laidOutInteger number value.typeName text
    | .real number => do
        let layout ← Layout.read value.typeName .right '\x00' text
        if layout.form = '\x00' ∨ layout.form = 'n' ∨ isBinary64Form layout.form then
          layout.binary64 number
        else
          throw (.formUnknown layout.form value.typeName)
    | _ => .error (.unsupported value.typeName)

end Value

end FormCheck
