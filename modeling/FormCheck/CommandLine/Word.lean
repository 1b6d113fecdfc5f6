import FormCheck.Text.DecimalDigit
import FormCheck.Text.Split

/-!
# Words of a command line

A command line is a list of words.  A switch begins with a stroke.  The switches `-h` and
`--help` ask for help; the others give a setting its value, which follows an equals sign or
is the next word.  A long name may be cut short where only one name begins so.

Words that begin with a stroke but write a negative number, or hold a space, are plain, and
so is every word after two strokes that stand alone.
-/

namespace FormCheck.CommandLine

/-- What a command can be told by a switch with a value. -/
inductive Setting where
  | form
  | data
  | rules
  deriving DecidableEq, Repr

def Setting.name : Setting → String
  | .form => "form"
  | .data => "data"
  | .rules => "rules"

/-- A word as a command takes it.  `misused` is a request for help that is given a value,
and `ambiguous` a long name that is cut too short. -/
inductive Word where
  | plain (text : String)
  | help
  | given (setting : Setting) (value? : Option String)
  | separator
  | misused
  | unknown
  | ambiguous
  deriving DecidableEq, Repr

namespace Word

/-- Digits, or digits after a point that can follow others. -/
private def isUnsigned (text : List Char) : Bool :=
  let isDigit := fun c => (Text.digitValue? c).isSome
  match text.dropWhile isDigit with
  | [] => !text.isEmpty
  | '.' :: fraction => !fraction.isEmpty && fraction.all isDigit
  | _ => false

/-- The text after a stroke writes a number.  The end of a line may follow it. -/
def writesNumber (text : List Char) : Bool :=
  isUnsigned text || (text.getLast? == some '\n' && isUnsigned text.dropLast)

/-- A word that begins with a stroke and names no switch. -/
private def other (afterStroke : List Char) (text : String) : Word :=
  if writesNumber afterStroke || text.toList.contains ' ' then .plain text else .unknown

def longNames (settings : List Setting) : List (String × Option Setting) :=
  ("help", none) :: settings.map fun setting => (setting.name, some setting)

/-- The word after two strokes. -/
private def long (settings : List Setting) (afterStrokes : List Char) (text : String) : Word :=
  let (start, value?) := Text.cutFirst '=' afterStrokes
  match (longNames settings).filter fun entry => start.isPrefixOf entry.1.toList with
  | [] => other ('-' :: afterStrokes) text
  | [(_, none)] => if value?.isSome then .misused else .help
  | [(_, some setting)] => .given setting (value?.map String.ofList)
  | _ => .ambiguous

/-- What follows the short request for help in one word.  The request may be repeated, and
other letters after it do not count. -/
private def afterHelp : List Char → Word
  | [] => .help
  | 'h' :: rest => afterHelp rest
  | '=' :: _ | '-' :: _ => .misused
  | _ => .help

/-- A word before the separator, as taken by a command that knows some settings. -/
def ofText (settings : List Setting) (text : String) : Word :=
  match text.toList with
  | '-' :: '-' :: [] => .separator
  | '-' :: '-' :: afterStrokes => long settings afterStrokes text
  | '-' :: 'h' :: rest => afterHelp rest
  | '-' :: [] => .plain text
  | '-' :: afterStroke => other afterStroke text
  | _ => .plain text

def ofTexts (settings : List Setting) : List String → List Word
  | [] => []
  | text :: rest =>
      match ofText settings text with
      | .separator => .separator :: rest.map .plain
      | word => word :: ofTexts settings rest

end Word

end FormCheck.CommandLine
