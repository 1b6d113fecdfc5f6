import FormCheck.Yaml.Token.Mark
import FormCheck.Yaml.Token.Scalar

/-!
# From characters to tokens

A lexer goes through a document and keeps three things in mind: how many brackets are
open, the columns at which the open blocks began, and where a simple key may have begun.
A simple key is known as a key only when its colon comes, so its token is put in front of
tokens that are there already.  It must be on one line and not too long.

`Token.scan` gives the tokens up to the end of the document or up to the first fault.
-/

namespace FormCheck.Yaml

/-- A place where a simple key may have begun. -/
structure PossibleKey where
  level : Nat
  place : Nat
  required : Bool
  passed : Nat
  line : Nat
  column : Nat

/-- What a lexer keeps in mind. -/
structure Lexer where
  cursor : Cursor
  tokens : Array Token
  openBrackets : Nat
  indentation : Int
  outer : List Int
  keyAllowed : Bool
  possibleKeys : List PossibleKey

/-- Tokens are made one after another, up to the first fault. -/
abbrev Lexing := StateT Lexer (Except Fault)

namespace Lexing

/-- Read at the cursor of the lexer. -/
def read {α : Type} (reading : Reading α) : Lexing α := do
  let (result, cursor) ← (reading.run (← get).cursor : Except Fault _)
  modify fun lexer => { lexer with cursor := cursor }
  return result

def malformed {α : Type} : Lexing α :=
  throw .malformed

def emit (token : Token) : Lexing Unit :=
  modify fun lexer => { lexer with tokens := lexer.tokens.push token }

/-- Put a token in front of the one with a number. -/
def emitAt (place : Nat) (token : Token) : Lexing Unit :=
  modify fun lexer => { lexer with tokens := lexer.tokens.insertIdxIfInBounds place token }

/-- Say whether a simple key may begin from here on. -/
def allowKey (allowed : Bool) : Lexing Unit :=
  modify fun lexer => { lexer with keyAllowed := allowed }

def inBlock : Lexing Bool := do
  return (← get).openBrackets == 0

def column : Lexing Int := do
  return (← get).cursor.column

/-! ## Simple keys -/

/-- The greatest number of characters in a simple key. -/
def longestKey : Nat := 1024

/-- Forget the simple keys that are broken or too long by now. -/
def forgetStaleKeys : Lexing Unit := do
  let lexer ← get
  let isStale (key : PossibleKey) : Bool :=
    key.line != lexer.cursor.line || longestKey < lexer.cursor.passed - key.passed
  if lexer.possibleKeys.any fun key => isStale key && key.required then
    malformed
  set { lexer with possibleKeys := lexer.possibleKeys.filter fun key => !isStale key }

/-- Forget the simple key that may have begun between the innermost brackets. -/
def forgetKey : Lexing Unit := do
  let lexer ← get
  if lexer.possibleKeys.any fun key => key.level == lexer.openBrackets && key.required then
    malformed
  set { lexer with
    possibleKeys := lexer.possibleKeys.filter fun key => key.level != lexer.openBrackets }

/-- Remember that a simple key may begin here. -/
def rememberKey : Lexing Unit := do
  if (← get).keyAllowed then
    forgetKey
    modify fun lexer =>
      let cursor := lexer.cursor
      let required := lexer.openBrackets == 0 && lexer.indentation == cursor.column
      { lexer with possibleKeys := lexer.possibleKeys ++ [⟨lexer.openBrackets, lexer.tokens.size,
          required, cursor.passed, cursor.line, cursor.column⟩] }

/-! ## Blocks -/

/-- Close the blocks that began to the right of a column. -/
private def closeBlocks (column : Int) : (open_ : List Int) → Lexing Unit
  | [] => return
  | before :: further => do
      let lexer ← get
      if column < lexer.indentation then
        set { lexer with
          tokens := lexer.tokens.push .blockEnd, indentation := before, outer := further }
        closeBlocks column further

/-- Close the blocks that began to the right of a column, unless a bracket is open. -/
def unwind (column : Int) : Lexing Unit := do
  if ← inBlock then
    closeBlocks column (← get).outer

/-- Begin a block at a column, if it is to the right of the present one. -/
def beginBlock (column : Int) : Lexing Bool := do
  let lexer ← get
  if lexer.indentation < column then
    set { lexer with indentation := column, outer := lexer.indentation :: lexer.outer }
    return true
  else
    return false

/-! ## Tokens -/

/-- Pass spaces, comments and line breaks.  A simple key may begin on a new line. -/
private def skipToToken : (fuel : Nat) → Lexing Unit
  | 0 => return
  | fuel + 1 => do
      read (Reading.skipWhile (· == ' '))
      if (← read Reading.peek) == some '#' then
        read (Reading.skipWhile fun c => !isBreak c)
      match ← read Reading.takeBreak with
      | [] => return
      | _ =>
          if ← inBlock then
            allowKey true
          skipToToken fuel

def endStream : Lexing Unit := do
  unwind (-1)
  forgetKey
  emit .streamEnd

/-- A token of a document outside its content. -/
def outsideContent (reading : Reading Token) : Lexing Unit := do
  unwind (-1)
  forgetKey
  allowKey false
  emit (← read reading)

/-- Pass some characters and give a token for them. -/
def sign (count : Nat) (token : Token) : Reading Token := do
  Reading.skip count
  return token

def openBracket (token : Token) : Lexing Unit := do
  rememberKey
  modify fun lexer => { lexer with openBrackets := lexer.openBrackets + 1 }
  allowKey true
  emit (← read (sign 1 token))

def closeBracket (token : Token) : Lexing Unit := do
  forgetKey
  if ← inBlock then
    malformed
  modify fun lexer => { lexer with openBrackets := lexer.openBrackets - 1 }
  allowKey false
  emit (← read (sign 1 token))

/-- A comma between brackets. -/
def flowEntry : Lexing Unit := do
  allowKey true
  forgetKey
  emit (← read (sign 1 .flowEntry))

/-- A sign that may begin a block of its own; it must stand where a key may begin. -/
private def beginAtSign (start : Token) : Lexing Unit := do
  if ← inBlock then
    unless (← get).keyAllowed do
      malformed
    if ← beginBlock (← column) then
      emit start

def blockEntry : Lexing Unit := do
  beginAtSign .blockSequenceStart
  allowKey true
  forgetKey
  emit (← read (sign 1 .blockEntry))

/-- The sign of a key that is not simple. -/
def key : Lexing Unit := do
  beginAtSign .blockMappingStart
  allowKey (← inBlock)
  forgetKey
  emit (← read (sign 1 .key))

/-- A colon.  It makes a key of what may have been a simple key. -/
def value : Lexing Unit := do
  let lexer ← get
  match lexer.possibleKeys.find? fun key => key.level == lexer.openBrackets with
  | some found =>
      set { lexer with
        possibleKeys := lexer.possibleKeys.filter fun key => key.level != lexer.openBrackets }
      emitAt found.place .key
      if ← inBlock then
        if ← beginBlock found.column then
          emitAt found.place .blockMappingStart
      allowKey false
  | none =>
      beginAtSign .blockMappingStart
      allowKey (← inBlock)
      forgetKey
  emit (← read (sign 1 .value))

/-- A token that may begin a simple key, and after which none may begin. -/
def inKey (reading : Reading Token) : Lexing Unit := do
  rememberKey
  allowKey false
  emit (← read reading)

def blockScalar (folded : Bool) : Lexing Unit := do
  allowKey true
  forgetKey
  let outer := (← get).indentation
  emit (← read (Reading.takeBlock folded outer))

/-- A plain scalar.  A key may begin after it when it ends with a line. -/
def plainScalar : Lexing Unit := do
  rememberKey
  let outer := (← get).indentation
  let (token, broken) ← read (Reading.takePlain (!(← inBlock)) outer)
  allowKey broken
  emit token

/-- What follows lets a plain scalar begin. -/
def beginsPlain (inFlow : Bool) (c : Char) (following : Option Char) : Bool :=
  !(endsWord (some c) || "-?:,[]\x7b\x7d#&*!|>'\"%@`".toList.contains c)
    || (!endsWord following && (c == '-' || (!inFlow && (c == '?' || c == ':'))))

/-- The next token, if the document does not end. -/
def step : Lexing Bool := do
  let cursor := (← get).cursor
  if cursor.passed == 0 && cursor.rest.head? == some '\ufeff' then
    read (Reading.skip 1)
  skipToToken cursor.fuel
  forgetStaleKeys
  unwind (← column)
  let inFlow := !(← inBlock)
  let atMargin := (← column) == 0
  let following ← read (Reading.peekAt 1)
  match ← read Reading.peek with
  | none =>
      endStream
      return false
  | some c =>
      if c == '%' && atMargin then
        outsideContent Reading.takeDirective
      else if atMargin && (← read (Reading.atDocumentMark '-')) then
        outsideContent (sign 3 .documentStart)
      else if atMargin && (← read (Reading.atDocumentMark '.')) then
        outsideContent (sign 3 .documentEnd)
      else if c == '[' then
        openBracket .flowSequenceStart
      else if c == '\x7b' then
        openBracket .flowMappingStart
      else if c == ']' then
        closeBracket .flowSequenceEnd
      else if c == '\x7d' then
        closeBracket .flowMappingEnd
      else if c == ',' then
        flowEntry
      else if c == '-' && endsWord following then
        blockEntry
      else if c == '?' && (inFlow || endsWord following) then
        key
      else if c == ':' && (inFlow || endsWord following) then
        value
      else if c == '*' then
        inKey do return .alias (← Reading.takeAnchorName)
      else if c == '&' then
        inKey do return .anchor (← Reading.takeAnchorName)
      else if c == '!' then
        inKey Reading.takeTag
      else if c == '|' && !inFlow then
        blockScalar false
      else if c == '>' && !inFlow then
        blockScalar true
      else if c == '\'' then
        inKey (Reading.takeQuoted false)
      else if c == '"' then
        inKey (Reading.takeQuoted true)
      else if beginsPlain inFlow c following then
        plainScalar
      else
        malformed
      return true

end Lexing

namespace Lexer

/-- The lexer at the beginning of a document. -/
def start (text : List Char) : Lexer :=
  ⟨Cursor.start text, #[], 0, -1, [], true, []⟩

/-- Go on to the end of the document or to the first fault. -/
def run : (fuel : Nat) → Lexer → Array Token × Option Fault
  | 0, lexer => (lexer.tokens, some .malformed)
  | fuel + 1, lexer =>
      match Lexing.step.run lexer with
      | .error fault => (lexer.tokens, some fault)
      | .ok (true, after) => run fuel after
      | .ok (false, after) => (after.tokens, none)

end Lexer

/-- The tokens of a document up to its end or to the first fault, which is given too. -/
def Token.scan (text : List Char) : List Token × Option Fault :=
  if text.all isAllowed then
    let (tokens, fault?) := Lexer.run (text.length + 2) (Lexer.start text)
    (tokens.toList, fault?)
  else
    ([], some .malformed)

end FormCheck.Yaml
