import FormCheck.Text.Quoted

/-!
# JSON documents that are written

Reports and clauses are written as JSON documents, one item a line, with two spaces for
each level of nesting.  Quotes, backslashes and control characters are escaped; where only
the first 128 characters may appear, all others are escaped as one or two surrogates.
-/

namespace FormCheck

/-- A JSON document as far as it is written. -/
inductive JsonDocument where
  | truth (value : Bool)
  | text (characters : String)
  | list (items : List JsonDocument)
  | record (entries : List (String × JsonDocument))

namespace JsonDocument

/-- The escape of a unit of sixteen bits. -/
def unitEscape (unit : Nat) : List Char :=
  '\\' :: 'u' :: Text.hexDigits 4 unit

def numberEscape (point : Nat) : List Char :=
  if point < 0x10000 then
    unitEscape point
  else
    unitEscape (0xD800 + (point - 0x10000) / 0x400)
      ++ unitEscape (0xDC00 + (point - 0x10000) % 0x400)

/-- A character between the quotes of a text. -/
def escaped (plain : Bool) (c : Char) : List Char :=
  match c with
  | '"' => ['\\', '"']
  | '\\' => ['\\', '\\']
  | '\n' => ['\\', 'n']
  | '\r' => ['\\', 'r']
  | '\t' => ['\\', 't']
  | '\x08' => ['\\', 'b']
  | '\x0c' => ['\\', 'f']
  | c =>
      if c.toNat < 0x20 || (plain && !Text.isPlainAscii c) then
        numberEscape c.toNat
      else
        [c]

/-- A text between quotes; `plain` says that only the first 128 characters may appear. -/
def quotedText (plain : Bool) (text : String) : List Char :=
  '"' :: (text.toList.flatMap (escaped plain) ++ ['"'])

/-- The beginning of a line at a level of nesting. -/
def newLine (level : Nat) : List Char :=
  '\n' :: List.replicate (2 * level) ' '

/-- Items one a line between two signs. -/
def bracketed (level : Nat) (opening closing : Char) (items : List (List Char)) : List Char :=
  if items.isEmpty then
    [opening, closing]
  else
    opening :: newLine (level + 1)
      ++ (',' :: newLine (level + 1)).intercalate items
      ++ newLine level ++ [closing]

mutual

/-- A document at a level of nesting. -/
def writtenAt (plain : Bool) (level : Nat) : JsonDocument → List Char
  | .truth value => (if value then "true" else "false").toList
  | .text characters => quotedText plain characters
  | .list items => bracketed level '[' ']' (writtenItems plain (level + 1) items)
  | .record entries =>
      bracketed level '\x7b' '\x7d' (writtenEntries plain (level + 1) entries)

def writtenItems (plain : Bool) (level : Nat) : List JsonDocument → List (List Char)
  | [] => []
  | item :: rest => writtenAt plain level item :: writtenItems plain level rest

def writtenEntries (plain : Bool) (level : Nat) :
    List (String × JsonDocument) → List (List Char)
  | [] => []
  | (key, item) :: rest =>
      (quotedText plain key ++ ':' :: ' ' :: writtenAt plain level item)
        :: writtenEntries plain level rest

end

def written (plain : Bool) (document : JsonDocument) : String :=
  String.ofList (document.writtenAt plain 0)

end JsonDocument

end FormCheck
