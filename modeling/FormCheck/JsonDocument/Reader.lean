import FormCheck.Number.Numeral
import FormCheck.Table
import FormCheck.Value

/-!
# JSON documents that are read

A JSON document is read as a value.  Objects keep the order of their names; a name that
comes again keeps its place and gets the later value.  The words for infinities and for
what is not a number are read, too.  Control characters must be escaped in texts.

A document that is malformed is refused with a reason and the place where it was found.
Documents that are nested too deep are not read, and neither are texts with a surrogate
that has no partner, as these are not made of characters.
-/

namespace FormCheck.JsonDocument

/-- Why a document is malformed. -/
inductive Reason where
  | value
  | name
  | colon
  | comma
  | unterminated
  | controlCharacter
  | escape
  | numberedEscape
  | extra
  | octetOrderMark
  deriving DecidableEq, Repr

def Reason.text : Reason → String
  | .value => "Expecting value"
  | .name => "Expecting property name enclosed in double quotes"
  | .colon => "Expecting ':' delimiter"
  | .comma => "Expecting ',' delimiter"
  | .unterminated => "Unterminated string starting at"
  | .controlCharacter => "Invalid control character at"
  | .escape => "Invalid \\escape"
  | .numberedEscape => "Invalid \\uXXXX escape"
  | .extra => "Extra data"
  | .octetOrderMark => "Unexpected UTF-8 BOM (decode using utf-8-sig)"

/-- Why a document cannot be read. -/
inductive Fault where
  | malformed (reason : Reason) (place : Nat)
  | numberTooLong (digits : Nat)
  | nestedTooDeep
  | surrogateUnpaired
  deriving DecidableEq, Repr

/-- What is left of a document, and the place where that begins. -/
structure Place where
  rest : List Char
  passed : Nat

/-- Reading goes on up to the first fault. -/
abbrev Reading := StateT Place (Except Fault)

namespace Reading

/-- The document is malformed here. -/
def malformed {α : Type} (reason : Reason) : Reading α := do
  throw (.malformed reason (← get).passed)

def skip (count : Nat) : Reading Unit :=
  modify fun place => ⟨place.rest.drop count, place.passed + count⟩

/-- A space, a tab or the end of a line. -/
def isSpace (c : Char) : Bool :=
  c == ' ' || c == '\t' || c == '\n' || c == '\r'

def skipSpaces : Reading Unit := do
  skip ((← get).rest.takeWhile isSpace).length

/-- The next character is a certain one, and it is passed. -/
def passes (c : Char) : Reading Bool := do
  if (← get).rest.head? == some c then
    skip 1
    return true
  else
    return false

/-- The next character must be a certain one. -/
def expect (c : Char) (reason : Reason) : Reading Unit := do
  unless ← passes c do
    malformed reason

/-! ## Texts -/

/-- The number that four hexadecimal digits write. -/
private def fourDigits? (text : List Char) : Option Nat := do
  let values ← (text.take 4).mapM (Numeral.digitIn? 16)
  if values.length = 4 then
    return values.foldl (fun total value => 16 * total + value) 0
  else
    none

/-- The number after the sign of a numbered escape. -/
private def takeUnit : Reading Nat := do
  match fourDigits? (← get).rest, (← get).rest.drop 4 with
  | some unit, _ :: _ =>
      skip 4
      return unit
  | _, _ => do
      throw (.malformed .numberedEscape ((← get).passed - 1))

/-- The character of a numbered escape; a surrogate must be followed by its partner. -/
private def takeNumbered : Reading Char := do
  let first ← takeUnit
  if first < 0xD800 ∨ 0xDFFF < first then
    return Char.ofNat first
  match (← get).rest with
  | '\\' :: 'u' :: rest =>
      if 0xDC00 ≤ first ∨ rest.length ≤ 4 then
        throw .surrogateUnpaired
      match fourDigits? rest with
      | none => do
          skip 1
          malformed .numberedEscape
      | some second =>
          if 0xDC00 ≤ second ∧ second ≤ 0xDFFF then
            skip 6
            return Char.ofNat (0x10000 + (first - 0xD800) * 0x400 + (second - 0xDC00))
          else
            throw .surrogateUnpaired
  | _ => throw .surrogateUnpaired

/-- What an escape of one character stands for. -/
def simpleEscape? : Char → Option Char
  | '"' => some '"'
  | '\\' => some '\\'
  | '/' => some '/'
  | 'b' => some '\x08'
  | 'f' => some '\x0c'
  | 'n' => some '\n'
  | 'r' => some '\r'
  | 't' => some '\t'
  | _ => none

/-- The rest of a text that began at a place, up to its final quote. -/
private def takeText (start : Nat) : (fuel : Nat) → Reading (List Char)
  | 0 => throw (.malformed .unterminated start)
  | fuel + 1 => do
      match (← get).rest with
      | [] => throw (.malformed .unterminated start)
      | '"' :: _ =>
          skip 1
          return []
      | '\\' :: [] => throw (.malformed .unterminated start)
      | '\\' :: 'u' :: _ =>
          skip 2
          let c ← takeNumbered
          return c :: (← takeText start fuel)
      | '\\' :: mark :: _ =>
          match simpleEscape? mark with
          | some c =>
              skip 2
              return c :: (← takeText start fuel)
          | none => malformed .escape
      | c :: _ =>
          if c.toNat < 0x20 then
            malformed .controlCharacter
          else
            skip 1
            return c :: (← takeText start fuel)

/-! ## Numbers -/

/-- The exponent at the beginning of a text: its mark, its sign and its digits. -/
private def exponentOf : List Char → List Char
  | mark :: rest =>
      if mark = 'e' ∨ mark = 'E' then
        let (sign, unsigned) :=
          match rest with
          | '+' :: unsigned => (['+'], unsigned)
          | '-' :: unsigned => (['-'], unsigned)
          | unsigned => ([], unsigned)
        match unsigned.takeWhile Text.isAsciiDigit with
        | [] => []
        | digits => mark :: sign ++ digits
      else
        []
  | [] => []

/-- The fraction at the beginning of a text: the point and the digits after it. -/
private def fractionOf : List Char → List Char
  | '.' :: rest =>
      match rest.takeWhile Text.isAsciiDigit with
      | [] => []
      | digits => '.' :: digits
  | _ => []

/-- The digits before the point: a zero, or digits that do not begin with one. -/
private def wholeOf : List Char → List Char
  | '0' :: _ => ['0']
  | unsigned => unsigned.takeWhile Text.isAsciiDigit

private def takeNumber : Reading Value := do
  let text := (← get).rest
  let (minus, unsigned) :=
    match text with
    | '-' :: unsigned => (['-'], unsigned)
    | _ => ([], text)
  let whole := wholeOf unsigned
  if whole.isEmpty then
    malformed .value
  let afterWhole := unsigned.drop whole.length
  let fraction := fractionOf afterWhole
  let exponent := exponentOf (afterWhole.drop fraction.length)
  let written := minus ++ whole ++ fraction ++ exponent
  skip written.length
  if fraction.isEmpty && exponent.isEmpty then
    match Numeral.readInteger 10 written with
    | .ok number => return .integer number
    | .error (.tooLong digits) => throw (.numberTooLong digits)
    | .error .notNumeral => malformed .value
  else
    match Binary64.read? written with
    | some number => return .real number
    | none => malformed .value

/-! ## Values -/

def words : List (String × Value) :=
  [("null", .null), ("true", .boolean true), ("false", .boolean false), ("NaN", .real (.nan 0)),
    ("Infinity", .real (.infinite false)), ("-Infinity", .real (.infinite true))]

/-- The room that is left inside one more bracket. -/
private def inside : (room : Nat) → Reading Nat
  | 0 => throw .nestedTooDeep
  | room + 1 => return room

mutual

/-- A value with room for a number of brackets in one another. -/
def takeValue (room : Nat) : (fuel : Nat) → Reading Value
  | 0 => malformed .value
  | fuel + 1 => do
      let place ← get
      match place.rest with
      | '"' :: _ =>
          skip 1
          return .text (String.ofList (← takeText place.passed (place.rest.length + 1)))
      | '[' :: _ =>
          let room ← inside room
          skip 1
          skipSpaces
          if ← passes ']' then
            return .list []
          return .list (← takeItems room fuel)
      | '\x7b' :: _ =>
          let room ← inside room
          skip 1
          skipSpaces
          if ← passes '\x7d' then
            return .record []
          let entries ← takeEntries room fuel
          return Value.recordOf (entries.map fun entry => (.text entry.1, entry.2))
      | rest =>
          match words.find? fun entry => entry.1.toList.isPrefixOf rest with
          | some entry =>
              skip entry.1.length
              return entry.2
          | none => takeNumber

def takeItems (room : Nat) : (fuel : Nat) → Reading (List Value)
  | 0 => malformed .value
  | fuel + 1 => do
      let item ← takeValue room fuel
      skipSpaces
      if ← passes ']' then
        return [item]
      expect ',' .comma
      skipSpaces
      return item :: (← takeItems room fuel)

def takeEntries (room : Nat) : (fuel : Nat) → Reading (List (String × Value))
  | 0 => malformed .value
  | fuel + 1 => do
      let place ← get
      expect '"' .name
      let name ← takeText place.passed (place.rest.length + 1)
      skipSpaces
      expect ':' .colon
      skipSpaces
      let item ← takeValue room fuel
      skipSpaces
      if ← passes '\x7d' then
        return [(String.ofList name, item)]
      expect ',' .comma
      skipSpaces
      return (String.ofList name, item) :: (← takeEntries room fuel)

end

def document (room : Nat) : Reading Value := do
  let place ← get
  if place.rest.head? == some '\ufeff' then
    malformed .octetOrderMark
  skipSpaces
  let value ← takeValue room (2 * place.rest.length + 2)
  skipSpaces
  if (← get).rest.isEmpty then
    return value
  else
    malformed .extra

end Reading

/-- Read a document with room for a number of brackets in one another. -/
def read (room : Nat) (text : List Char) : Except Fault Value :=
  ((Reading.document room).run ⟨text, 0⟩).map (·.1)

/-- Where a place in a document is, in words: its line, its column, and the number of
characters before it. -/
def placeText (text : List Char) (place : Nat) : String :=
  let before := text.take place
  let line := before.count '\n' + 1
  let column := (before.reverse.takeWhile (· != '\n')).length + 1
  "line " ++ toString line ++ " column " ++ toString column ++ " (char " ++ toString place ++ ")"

/-- Why a document is malformed, in words. -/
def malformedText (text : List Char) (reason : Reason) (place : Nat) : String :=
  reason.text ++ ": " ++ placeText text place

end FormCheck.JsonDocument
