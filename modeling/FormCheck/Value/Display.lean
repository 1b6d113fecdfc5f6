import FormCheck.Number.Numeral
import FormCheck.Number.Written
import FormCheck.Text.Quoted
import FormCheck.Value

/-!
# Values as text

A text is displayed as it is; every other value is displayed in the notation of
values, in which texts stand between quotes, a list between brackets, a tuple
between parentheses and a record between braces.

Whole numbers are written up to a number of digits only, so a value is writable when
all of the whole numbers in it are.
-/

namespace FormCheck.Value

/-- Put a comma and a space between neighbours. -/
def commaSeparated (parts : List (List Char)) : List Char :=
  [',', ' '].intercalate parts

/-- A tuple of one item has a comma after it. -/
def tupleNotation (parts : List (List Char)) : List Char :=
  match parts with
  | [single] => '(' :: single ++ [',', ')']
  | _ => '(' :: commaSeparated parts ++ [')']

mutual

/-- The notation of a value; `shown` says which characters of a text stand for
themselves. -/
def notated (shown : Char → Bool) : Value → List Char
  | .null => "None".toList
  | .boolean truth => (if truth then "True" else "False").toList
  | .integer number => integerDigits number
  | .real number => number.written
  | .text characters => Text.quotedBy shown characters.toList
  | .octets content => Text.quotedOctets content
  | .list items => '[' :: commaSeparated (notatedItems shown items) ++ [']']
  | .tuple items => tupleNotation (notatedItems shown items)
  | .record entries => '\x7b' :: commaSeparated (notatedEntries shown entries) ++ ['\x7d']

/-- The notations of values, one after another. -/
def notatedItems (shown : Char → Bool) : List Value → List (List Char)
  | [] => []
  | item :: rest => notated shown item :: notatedItems shown rest

/-- The notations of entries, key and value with a colon between them. -/
def notatedEntries (shown : Char → Bool) : List (Value × Value) → List (List Char)
  | [] => []
  | (key, value) :: rest =>
      (notated shown key ++ ':' :: ' ' :: notated shown value) :: notatedEntries shown rest

end

/-- The notation of a value that shows all printable characters. -/
def literal (value : Value) : List Char :=
  value.notated Text.isPrintable

/-- The notation of a value in the first 128 characters. -/
def asciiLiteral (value : Value) : List Char :=
  value.notated Text.isPlainAscii

mutual

/-- No whole number in the value has too many digits to be written. -/
def isWritable : Value → Bool
  | .integer number => (decimalDigits number.natAbs).length ≤ Numeral.longestDecimal
  | .list items | .tuple items => areWritable items
  | .record entries => areEntriesWritable entries
  | _ => true

def areWritable : List Value → Bool
  | [] => true
  | item :: rest => item.isWritable && areWritable rest

def areEntriesWritable : List (Value × Value) → Bool
  | [] => true
  | (key, value) :: rest => key.isWritable && value.isWritable && areEntriesWritable rest

end

/-- A value as it appears in messages. -/
def display : Value → List Char
  | .text characters => characters.toList
  | value => value.notated Text.isPrintable

end FormCheck.Value
