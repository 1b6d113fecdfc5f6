/-!
# Blank characters

Rule expressions, numeric arguments and number-like values ignore blanks at
their ends.  A blank is a character with the Unicode `White_Space` property or
one of the four information separators.  Removing the blanks at both ends is
`trim`; a text consists of blanks exactly when nothing is left of it.
-/

namespace FormCheck.Text

/-- Blank characters: Unicode white space and the information separators
`U+001C` to `U+001F`. -/
def isBlank (c : Char) : Bool :=
  let point := c.toNat
  (9 ≤ point && point ≤ 13) || (28 ≤ point && point ≤ 32) ||
    point == 0x85 || point == 0xA0 || point == 0x1680 ||
    (0x2000 ≤ point && point ≤ 0x200A) || point == 0x2028 ||
    point == 0x2029 || point == 0x202F || point == 0x205F || point == 0x3000

def trimEnd (text : List Char) : List Char :=
  (text.reverse.dropWhile isBlank).reverse

def trim (text : List Char) : List Char :=
  trimEnd (text.dropWhile isBlank)

/-- A text has no blank at either end. -/
def Trimmed (text : List Char) : Prop :=
  (∀ c, text.head? = some c → isBlank c = false) ∧
    ∀ c, text.getLast? = some c → isBlank c = false

@[simp]
theorem trim_nil : trim [] = [] := rfl

end FormCheck.Text
