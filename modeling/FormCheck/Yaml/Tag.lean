import FormCheck.Text.Split
import FormCheck.Yaml.Moment

/-!
# Tags of YAML nodes

A tag says what a node is made into.  A scalar that is written plainly and has no tag of
its own gets one from the form of its text (`Tag.ofPlain`): words for nothing and for
truth values, numbers, moments of time, and two signs with a meaning in mappings.
Everything else is a text.
-/

namespace FormCheck.Yaml

/-- What a node is made into. -/
inductive Tag where
  | null
  | boolean
  | integer
  | real
  | octets
  | moment
  | orderedPairs
  | pairs
  | set
  | text
  | sequence
  | mapping
  | merge
  | default
  | unknown
  deriving DecidableEq, Repr

namespace Tag

/-- The beginning of the names of tags that YAML itself defines. -/
def standard : String := "tag:yaml.org,2002:"

/-- The tags that YAML itself defines, by the end of their names. -/
def standardNames : List (String × Tag) :=
  [("null", .null), ("bool", .boolean), ("int", .integer), ("float", .real),
    ("binary", .octets), ("timestamp", .moment), ("omap", .orderedPairs), ("pairs", .pairs),
    ("set", .set), ("str", .text), ("seq", .sequence), ("map", .mapping), ("merge", .merge),
    ("value", .default)]

/-- The tag with a full name. -/
def ofName (name : String) : Tag :=
  match standardNames.find? fun entry => standard ++ entry.1 = name with
  | some entry => entry.2
  | none => .unknown

/-! ## Plain scalars -/

/-- A digit or an underscore. -/
private def isGrouped (c : Char) : Bool :=
  Text.isAsciiDigit c || c == '_'

/-- Digits and underscores that begin with a digit. -/
private def isDigits : List Char → Bool
  | [] => false
  | c :: rest => Text.isAsciiDigit c && rest.all isGrouped

/-- A number below sixty, in one or two digits. -/
private def isSixtieth : List Char → Bool
  | [ones] => Text.isAsciiDigit ones
  | [tens, ones] => '0' ≤ tens && tens ≤ '5' && Text.isAsciiDigit ones
  | _ => false

/-- A number to the base sixty, with a colon before each part but the first. -/
private def isSexagesimal (text : List Char) : Bool :=
  match Text.pieces ':' text with
  | first :: part :: parts => isDigits first && (part :: parts).all isSixtieth
  | _ => false

/-- An exponent with its sign, or nothing. -/
private def isExponent : List Char → Bool
  | [] => true
  | mark :: sign :: digits =>
      (mark == 'e' || mark == 'E') && (sign == '+' || sign == '-')
        && !digits.isEmpty && digits.all Text.isAsciiDigit
  | _ => false

def writesReal (text : List Char) : Bool :=
  let unsigned := (Numeral.sign text).2
  match Text.cutFirst '.' unsigned with
  | (_, none) => false
  | ([], some rest) =>
      ["inf", "Inf", "INF"].contains (String.ofList rest)
        || (text.head? == some '.'
          && (["nan", "NaN", "NAN"].contains (String.ofList rest)
            || (isDigits (rest.takeWhile isGrouped) && isExponent (rest.dropWhile isGrouped))))
  | (whole, some rest) =>
      (isDigits whole && isExponent (rest.dropWhile isGrouped))
        || (isSexagesimal whole && rest.all isGrouped)

def writesInteger (text : List Char) : Bool :=
  match (Numeral.sign text).2 with
  | [] => false
  | '0' :: 'b' :: rest => !rest.isEmpty && rest.all fun c => c == '0' || c == '1' || c == '_'
  | '0' :: 'x' :: rest =>
      !rest.isEmpty && rest.all fun c => (Numeral.digitIn? 16 c).isSome || c == '_'
  | '0' :: rest => rest.all fun c => ('0' ≤ c && c ≤ '7') || c == '_'
  | unsigned => isDigits unsigned || isSexagesimal unsigned

/-- The text writes a moment of time; a day alone has two digits for its month and for its
day. -/
def writesMoment (text : List Char) : Bool :=
  match Moment.read? text with
  | some (written, inFull) => written.time?.isSome || inFull
  | none => false

/-- The words for truth values. -/
def truthWords : List (String × Bool) :=
  [("yes", true), ("no", false), ("true", true), ("false", false), ("on", true), ("off", false)]

/-- The text is a word for a truth value: in small letters, in capital letters, or with a
capital letter at its beginning. -/
def writesTruth (text : List Char) : Bool :=
  truthWords.any fun entry =>
    let word := entry.1.toList
    text == word || text == word.map Char.toUpper
      || text == (word.take 1).map Char.toUpper ++ word.drop 1

/-- A text without the line break at its end. -/
def withoutFinalBreak (text : List Char) : List Char :=
  match text.reverse with
  | '\n' :: reversed => reversed.reverse
  | _ => text

/-- The tag that a plain scalar gets from its text.  A line break at the end does not
count. -/
def ofPlain (text : List Char) : Tag :=
  let line := withoutFinalBreak text
  let word := String.ofList line
  if text.isEmpty ∨ ["~", "null", "Null", "NULL"].contains word then .null
  else if writesTruth line then .boolean
  else if writesReal line then .real
  else if writesInteger line then .integer
  else if word = "<<" then .merge
  else if writesMoment line then .moment
  else if word = "=" then .default
  else if ["!", "&", "*"].contains word then .unknown
  else .text

end Tag

end FormCheck.Yaml
