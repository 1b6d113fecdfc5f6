import FormCheck.Number.Numeral
import FormCheck.Text.DecimalDigit

/-!
# Layouts

A field of a template may say how its value is laid out: what fills it up to a
width and on which side, how signs are shown, how digits are grouped, how many of
them there are, and in which form a number is written.  Such a layout is written

    [[fill] side] [sign] [z] [#] [0] [width] [,|_] [. precision] [form]

and `Layout.read` reads it.  What a layout may ask for depends on the type of the
value; the default form and the default side of that type are given to `read`.
-/

namespace FormCheck

/-- Where the text stands when it is filled up to a width. -/
inductive Side where
  | left
  | right
  | centre
  | afterSign
  deriving DecidableEq, Repr

/-- How the sign of a number that is not negative is shown. -/
inductive SignStyle where
  | plus
  | space
  | minus
  deriving DecidableEq, Repr

/-- How a text is to be laid out. -/
structure Layout where
  fill : Char
  side : Side
  sign : Option SignStyle
  withoutNegativeZero : Bool
  alternate : Bool
  width : Option Nat
  separator : Option Char
  precision : Option Nat
  form : Char
  deriving DecidableEq, Repr

/-- Why a layout cannot be read or does not suit a value. -/
inductive LayoutFault where
  | numberTooLong
  | bothSeparators
  | precisionMissing
  | unreadable (layout : List Char) (typeName : String)
  | separatorRefused (separator form : Char)
  | formUnknown (form : Char) (typeName : String)
  | signInText (style : SignStyle)
  | negativeZeroInText
  | alternateInText
  | afterSignInText
  | precisionInInteger
  | negativeZeroInInteger
  | signWithCharacter
  | alternateWithCharacter
  | characterOutOfRange
  | integerTooLarge
  | precisionTooLarge
  | tooManyDigits
  | tooWide
  | unsupported (typeName : String)
  deriving DecidableEq, Repr

namespace LayoutFault

/-- A character in a message: itself when it is visible, its number otherwise. -/
private def shownForm (form : Char) : String :=
  if 32 < form.toNat ∧ form.toNat < 128 then
    form.toString
  else
    "\\x" ++ String.ofList (Nat.toDigits 16 form.toNat)

def kindName : LayoutFault → String
  | .characterOutOfRange | .integerTooLarge => "OverflowError"
  | .unsupported _ => "TypeError"
  | .tooWide => "MemoryError"
  | _ => "ValueError"

/-- The words for a whole number that has too many digits to be written. -/
def tooManyDigitsText : String :=
  "Exceeds the limit (" ++ toString Numeral.longestDecimal
    ++ " digits) for integer string conversion; use sys.set_int_max_str_digits() to increase "
    ++ "the limit"

def text : LayoutFault → String
  | .numberTooLong => "Too many decimal digits in format string"
  | .bothSeparators => "Cannot specify both ',' and '_'."
  | .precisionMissing => "Format specifier missing precision"
  | .unreadable layout typeName =>
      "Invalid format specifier '" ++ String.ofList layout ++ "' for object of type '" ++
        typeName ++ "'"
  | .separatorRefused separator form =>
      "Cannot specify '" ++ separator.toString ++ "' with '" ++ shownForm form ++ "'."
  | .formUnknown form typeName =>
      "Unknown format code '" ++ shownForm form ++ "' for object of type '" ++ typeName ++ "'"
  | .signInText .space => "Space not allowed in string format specifier"
  | .signInText _ => "Sign not allowed in string format specifier"
  | .negativeZeroInText => "Negative zero coercion (z) not allowed in string format specifier"
  | .alternateInText => "Alternate form (#) not allowed in string format specifier"
  | .afterSignInText => "'=' alignment not allowed in string format specifier"
  | .precisionInInteger => "Precision not allowed in integer format specifier"
  | .negativeZeroInInteger => "Negative zero coercion (z) not allowed in integer format specifier"
  | .signWithCharacter => "Sign not allowed with integer format specifier 'c'"
  | .alternateWithCharacter =>
      "Alternate form (#) not allowed with integer format specifier 'c'"
  | .characterOutOfRange => "%c arg not in range(0x110000)"
  | .integerTooLarge => "int too large to convert to float"
  | .precisionTooLarge => "precision too big"
  | .tooManyDigits => tooManyDigitsText
  | .tooWide => ""
  | .unsupported typeName => "unsupported format string passed to " ++ typeName ++ ".__format__"

end LayoutFault

namespace Layout

/-- The largest number that a layout or a field name may contain. -/
def greatestNumber : Nat := Nat.pow 2 63 - 1

def side? : Char → Option Side
  | '<' => some .left
  | '>' => some .right
  | '^' => some .centre
  | '=' => some .afterSign
  | _ => none

def sign? : Char → Option SignStyle
  | '+' => some .plus
  | ' ' => some .space
  | '-' => some .minus
  | _ => none

/-- Leading digits of any script as a number, and the rest; no number when there
are no digits. -/
def takeNumber : (sofar : Option Nat) → List Char → Except LayoutFault (Option Nat × List Char)
  | sofar, [] => .ok (sofar, [])
  | sofar, c :: rest =>
      match Text.digitValue? c with
      | none => .ok (sofar, c :: rest)
      | some digit =>
          let number := 10 * sofar.getD 0 + digit
          if greatestNumber < number then
            .error .numberTooLong
          else
            takeNumber (some number) rest

def takeMark (mark : Char) : List Char → Bool × List Char
  | [] => (false, [])
  | c :: rest => if c = mark then (true, rest) else (false, c :: rest)

/-- The fill and the side, where they are given. -/
def takeSide (text : List Char) : Option Char × Option Side × List Char :=
  match text with
  | fill :: mark :: rest =>
      match side? mark, side? fill with
      | some side, _ => (some fill, some side, rest)
      | none, some side => (none, some side, mark :: rest)
      | none, none => (none, none, text)
  | [mark] =>
      match side? mark with
      | some side => (none, some side, [])
      | none => (none, none, text)
  | [] => (none, none, [])

/-- The sign style, where it is given. -/
def takeSign : List Char → Option SignStyle × List Char
  | [] => (none, [])
  | c :: rest =>
      match sign? c with
      | some style => (some style, rest)
      | none => (none, c :: rest)

/-- The separator of groups of digits, where it is given. -/
def takeSeparator (text : List Char) : Except LayoutFault (Option Char × List Char) :=
  match text with
  | ',' :: '_' :: _ | '_' :: ',' :: _ => .error .bothSeparators
  | ',' :: rest => .ok (some ',', rest)
  | '_' :: rest => .ok (some '_', rest)
  | _ => .ok (none, text)

def takePrecision : List Char → Except LayoutFault (Option Nat × List Char)
  | '.' :: rest => do
      let (number?, tail) ← takeNumber none rest
      match number? with
      | none => throw .precisionMissing
      | some number => return (some number, tail)
  | text => .ok (none, text)

/-- Digits of this form can be grouped with this separator. -/
def groups (separator form : Char) : Bool :=
  ['d', 'e', 'f', 'g', 'E', 'G', '%', 'F', '\x00'].contains form ||
    (separator == '_' && ['b', 'o', 'x', 'X'].contains form)

/-- Read a layout for a value of a type, with the default side and the default
form of that type. -/
def read (typeName : String) (defaultSide : Side) (defaultForm : Char) (text : List Char) :
    Except LayoutFault Layout := do
  let (fill?, side?, afterSide) := takeSide text
  let (sign, afterSign) := takeSign afterSide
  let (withoutNegativeZero, afterZero) := takeMark 'z' afterSign
  let (alternate, afterAlternate) := takeMark '#' afterZero
  let (filledWithZeros, afterFill) :=
    if fill?.isNone then takeMark '0' afterAlternate else (false, afterAlternate)
  let (width, afterWidth) ← takeNumber none afterFill
  let (separator, afterSeparator) ← takeSeparator afterWidth
  let (precision, tail) ← takePrecision afterSeparator
  let form ←
    match tail with
    | [] => pure defaultForm
    | [form] => pure form
    | _ => throw (.unreadable text typeName)
  if let some mark := separator then
    unless groups mark form do
      throw (.separatorRefused mark form)
  return {
    fill := if filledWithZeros then '0' else fill?.getD ' '
    side :=
      match side? with
      | some side => side
      | none => if filledWithZeros && defaultSide == .right then .afterSign else defaultSide
    sign
    withoutNegativeZero
    alternate
    width
    separator
    precision
    form
  }

end Layout

end FormCheck
