import FormCheck.Text.Printable

/-!
# Quoted text

Messages show a text between quotes, on one line and without ambiguity.  The
quote is the apostrophe, unless the text contains an apostrophe and no double
quote.  Inside, the quote itself and the backslash follow a backslash; a tab, a
line feed and a carriage return are written `\t`, `\n` and `\r`; every other
character that is not to be shown is written with its number, in two, four or
eight hexadecimal digits.  Octets are quoted in the same way.
-/

namespace FormCheck.Text

/-- The digits of a number in base sixteen, in lower case, filled up with zeros
to a width. -/
def hexDigits (width number : Nat) : List Char :=
  let digits := Nat.toDigits 16 number
  List.replicate (width - digits.length) '0' ++ digits

/-- A code point written with a backslash and its number. -/
def numberEscape (point : Nat) : List Char :=
  if point < 0x100 then
    '\\' :: 'x' :: hexDigits 2 point
  else if point < 0x10000 then
    '\\' :: 'u' :: hexDigits 4 point
  else
    '\\' :: 'U' :: hexDigits 8 point

/-- The quote that goes round a text. -/
def quoteFor (text : List Char) : Char :=
  if text.contains '\'' && !text.contains '"' then
    '"'
  else
    '\''

def quotedChar (shown : Char → Bool) (quote c : Char) : List Char :=
  if c = quote ∨ c = '\\' then
    ['\\', c]
  else if c = '\t' then
    ['\\', 't']
  else if c = '\n' then
    ['\\', 'n']
  else if c = '\r' then
    ['\\', 'r']
  else if shown c then
    [c]
  else
    numberEscape c.toNat

/-- A text between quotes; `shown` says which characters stand for themselves. -/
def quotedBy (shown : Char → Bool) (text : List Char) : List Char :=
  let quote := quoteFor text
  quote :: (text.flatMap (quotedChar shown quote) ++ [quote])

/-- A printable character of the first 128. -/
def isPlainAscii (c : Char) : Bool :=
  0x20 ≤ c.toNat && c.toNat < 0x7F

/-- A text between quotes that shows all printable characters. -/
def quoted (text : List Char) : List Char :=
  quotedBy isPrintable text

/-- Octets between quotes, marked by a leading `b`. -/
def quotedOctets (octets : List UInt8) : List Char :=
  'b' :: quotedBy isPlainAscii (octets.map fun octet => Char.ofNat octet.toNat)

end FormCheck.Text
