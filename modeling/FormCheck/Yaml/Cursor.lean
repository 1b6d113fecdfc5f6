import FormCheck.Text.Utf8
import FormCheck.Yaml.Fault

/-!
# Places in a YAML document

A cursor is a place in a document: the characters that are left, how many were
passed, and the line and column of the place.  Reading moves the cursor on and ends
with the first fault.

The end of a document is no character, so what may stand at the end is asked of an
optional character.
-/

namespace FormCheck.Yaml

/-- A character that a document may contain. -/
def isAllowed (c : Char) : Bool :=
  let point := c.toNat
  point == 0x09 || point == 0x0A || point == 0x0D || (0x20 ≤ point && point ≤ 0x7E)
    || point == 0x85 || (0xA0 ≤ point && point ≤ 0xFFFD) || 0x10000 ≤ point

/-- A character that ends a line. -/
def isBreak (c : Char) : Bool :=
  c == '\n' || c == '\r' || c == '\x85' || c == '\u2028' || c == '\u2029'

/-- A space or a tab. -/
def isGap (c : Char) : Bool :=
  c == ' ' || c == '\t'

/-- A letter, a digit, a hyphen or an underscore. -/
def isWordChar (c : Char) : Bool :=
  ('0' ≤ c && c ≤ '9') || ('A' ≤ c && c ≤ 'Z') || ('a' ≤ c && c ≤ 'z') || c == '-' || c == '_'

/-- The document, the line or the word ends here. -/
def endsWord : Option Char → Bool
  | none => true
  | some c => isGap c || isBreak c

/-- The document or the line ends here, or a space follows. -/
def endsPart : Option Char → Bool
  | none => true
  | some c => c == ' ' || isBreak c

/-- The document or the line ends here. -/
def endsLine : Option Char → Bool
  | none => true
  | some c => isBreak c

/-- A place in a document. -/
structure Cursor where
  rest : List Char
  passed : Nat
  line : Nat
  column : Nat

namespace Cursor

def start (text : List Char) : Cursor :=
  ⟨text, 0, 0, 0⟩

/-- The place after the next character.  A line ends with its break, and a mark of
octet order takes no column. -/
def next (cursor : Cursor) : Cursor :=
  match cursor.rest with
  | [] => cursor
  | c :: rest =>
      if isBreak c && !(c == '\r' && rest.head? == some '\n') then
        ⟨rest, cursor.passed + 1, cursor.line + 1, 0⟩
      else
        ⟨rest, cursor.passed + 1, cursor.line,
          if c == '\ufeff' then cursor.column else cursor.column + 1⟩

def advance : (count : Nat) → Cursor → Cursor
  | 0, cursor => cursor
  | count + 1, cursor => advance count cursor.next

/-- The number of characters that are left, and one more. -/
def fuel (cursor : Cursor) : Nat :=
  cursor.rest.length + 1

end Cursor

/-- Reading from a place in a document. -/
abbrev Reading := StateT Cursor (Except Fault)

namespace Reading

def malformed {α : Type} : Reading α :=
  throw .malformed

/-- The character at a distance from the cursor. -/
def peekAt (distance : Nat) : Reading (Option Char) := do
  return (← get).rest[distance]?

def peek : Reading (Option Char) :=
  peekAt 0

def skip (count : Nat) : Reading Unit :=
  modify (Cursor.advance count)

/-- The next characters of a sort, which are passed. -/
def takeWhile (sort : Char → Bool) : Reading (List Char) := do
  let taken := (← get).rest.takeWhile sort
  skip taken.length
  return taken

def skipWhile (sort : Char → Bool) : Reading Unit := do
  let _ ← takeWhile sort

/-- Fail unless something holds of the next character. -/
def expect (holds : Option Char → Bool) : Reading Unit := do
  unless holds (← peek) do
    malformed

/-- Pass a line break, if there is one, and give the break that it counts as. -/
def takeBreak : Reading (List Char) := do
  match (← get).rest with
  | '\r' :: '\n' :: _ =>
      skip 2
      return ['\n']
  | c :: _ =>
      if isBreak c then
        skip 1
        return [if c == '\u2028' || c == '\u2029' then c else '\n']
      else
        return []
  | [] => return []

/-- Pass the spaces and the comment that may end a line, and the line break. -/
def skipLineEnd : Reading Unit := do
  skipWhile (· == ' ')
  if (← peek) == some '#' then
    skipWhile fun c => !isBreak c
  expect endsLine
  let _ ← takeBreak

def atDocumentMark (mark : Char) : Reading Bool := do
  match (← get).rest with
  | first :: second :: third :: rest =>
      return first == mark && second == mark && third == mark && endsWord rest.head?
  | _ => return false

def atAnyDocumentMark : Reading Bool := do
  return (← atDocumentMark '-') || (← atDocumentMark '.')

end Reading

end FormCheck.Yaml
