import FormCheck.Yaml.Cursor
import FormCheck.Yaml.Token

/-!
# Scalars

A scalar is a text, written plainly, between quotes, or as a block of lines.  A line
break inside a scalar that is not a block counts as a space, and further empty lines
count as line breaks.
-/

namespace FormCheck.Yaml.Reading

/-! ## Quoted scalars -/

/-- What an escape of one character stands for. -/
def simpleEscape? : Char → Option Char
  | '0' => some '\x00'
  | 'a' => some '\x07'
  | 'b' => some '\x08'
  | 't' | '\t' => some '\t'
  | 'n' => some '\n'
  | 'v' => some '\x0b'
  | 'f' => some '\x0c'
  | 'r' => some '\r'
  | 'e' => some '\x1b'
  | ' ' => some ' '
  | '"' => some '"'
  | '\\' => some '\\'
  | '/' => some '/'
  | 'N' => some '\x85'
  | '_' => some '\xa0'
  | 'L' => some '\u2028'
  | 'P' => some '\u2029'
  | _ => none

/-- The number of hexadecimal digits of an escape. -/
def escapeLength? : Char → Option Nat
  | 'x' => some 2
  | 'u' => some 4
  | 'U' => some 8
  | _ => none

/-- The character with a number; a surrogate is replaced. -/
def characterOf (number : Nat) : Except Fault Char :=
  if 0x10FFFF < number then
    .error (.escapeBeyondText number)
  else if 0xD800 ≤ number ∧ number ≤ 0xDFFF then
    .ok '\ufffd'
  else
    .ok (Char.ofNat number)

/-- Empty lines between the lines of a quoted scalar. -/
def takeQuotedBreaks : (fuel : Nat) → Reading (List Char)
  | 0 => return []
  | fuel + 1 => do
      if ← atAnyDocumentMark then
        malformed
      skipWhile isGap
      match ← takeBreak with
      | [] => return []
      | lineBreak => return lineBreak ++ (← takeQuotedBreaks fuel)

/-- An escape; the cursor stands after its backslash. -/
def takeEscape : Reading (List Char) := do
  match ← peek with
  | none => malformed
  | some c =>
      match simpleEscape? c, escapeLength? c with
      | some character, _ =>
          skip 1
          return [character]
      | none, some length =>
          skip 1
          let digits := (← get).rest.take length
          match digits.mapM (Numeral.digitIn? 16) with
          | some values =>
              if values.length = length then
                let code := values.foldl (fun total value => 16 * total + value) 0
                let character ← (characterOf code : Except Fault Char)
                skip length
                return [character]
              else
                malformed
          | none => malformed
      | none, none =>
          if isBreak c then
            let _ ← takeBreak
            takeQuotedBreaks (← get).fuel
          else
            malformed

/-- The rest of a word in a quoted scalar, up to a gap, a break or the final quote. -/
def takeQuotedWord (double : Bool) : (fuel : Nat) → Reading (List Char)
  | 0 => return []
  | fuel + 1 => do
      match (← get).rest with
      | [] => return []
      | c :: following =>
          if !double && c == '\'' && following.head? == some '\'' then
            skip 2
            return '\'' :: (← takeQuotedWord double fuel)
          else if double && c == '\\' then
            skip 1
            let escaped ← takeEscape
            return escaped ++ (← takeQuotedWord double fuel)
          else if c == (if double then '"' else '\'') || isGap c || isBreak c then
            return []
          else
            skip 1
            return c :: (← takeQuotedWord double fuel)

/-- The gap or the line break between two words of a quoted scalar. -/
def takeQuotedGap : Reading (List Char) := do
  let gap ← takeWhile isGap
  match ← peek with
  | none => malformed
  | some _ =>
      match ← takeBreak with
      | [] => return gap
      | lineBreak => do
          let breaks ← takeQuotedBreaks (← get).fuel
          return (if lineBreak != ['\n'] then lineBreak
            else if breaks.isEmpty then [' ']
            else []) ++ breaks

/-- Words and gaps up to the final quote. -/
private def takeQuotedRest (double : Bool) : (fuel : Nat) → Reading (List Char)
  | 0 => malformed
  | fuel + 1 => do
      let word ← takeQuotedWord double (← get).fuel
      if (← peek) == some (if double then '"' else '\'') then
        skip 1
        return word
      else
        let gap ← takeQuotedGap
        return word ++ gap ++ (← takeQuotedRest double fuel)

/-- A scalar between quotes; the cursor stands at the first quote. -/
def takeQuoted (double : Bool) : Reading Token := do
  skip 1
  return .scalar (← takeQuotedRest double (← get).fuel) false

/-! ## Block scalars -/

/-- What happens to the line breaks at the end of a block. -/
inductive Chomping where
  | strip
  | clip
  | keep
  deriving DecidableEq, Repr

/-- A sign for the line breaks at the end. -/
private def takeChomping : Reading (Option Chomping) := do
  match ← peek with
  | some '+' =>
      skip 1
      return some .keep
  | some '-' =>
      skip 1
      return some .strip
  | _ => return none

/-- A digit for the indentation; it must not be zero. -/
private def takeIncrement : Reading (Option Nat) := do
  match (← peek).bind Text.asciiDigit? with
  | some 0 => malformed
  | some digit =>
      skip 1
      return some digit
  | none => return none

/-- The signs after the mark of a block, in either order. -/
private def takeBlockSigns : Reading (Chomping × Option Nat) := do
  let first ← takeChomping
  let increment ← takeIncrement
  let second ← if first.isNone && increment.isSome then takeChomping else pure none
  expect endsPart
  return ((first.or second).getD .clip, increment)

/-- Empty lines before a block whose indentation is not known, and the greatest
indentation among them. -/
private def takeIndentation : (fuel : Nat) → (greatest : Nat) → Reading (List Char × Nat)
  | 0, greatest => return ([], greatest)
  | fuel + 1, greatest => do
      match ← peek with
      | some ' ' =>
          skip 1
          takeIndentation fuel (max greatest (← get).column)
      | some c =>
          if isBreak c then
            let lineBreak ← takeBreak
            let (breaks, reached) ← takeIndentation fuel greatest
            return (lineBreak ++ breaks, reached)
          else
            return ([], greatest)
      | none => return ([], greatest)

/-- Pass spaces up to a column. -/
private def skipTo (column : Nat) : Reading Unit := do
  let cursor ← get
  let spaces := (cursor.rest.takeWhile (· == ' ')).length
  skip (min spaces (column - cursor.column))

/-- Empty lines in a block. -/
private def takeBlockBreaks (indentation : Nat) : (fuel : Nat) → Reading (List Char)
  | 0 => return []
  | fuel + 1 => do
      skipTo indentation
      match ← takeBreak with
      | [] => return []
      | lineBreak => return lineBreak ++ (← takeBlockBreaks indentation fuel)

/-- The cursor stands in a line of a block. -/
private def inBlock (indentation : Nat) : Reading Bool := do
  let cursor ← get
  return cursor.column == indentation && !cursor.rest.isEmpty

/-- The lines of a block: their text, the break after the last one, and the empty lines
after that. -/
private def takeBlockLines (folded : Bool) (indentation : Nat) :
    (fuel : Nat) → (breaks : List Char) → Reading (List Char × List Char × List Char)
  | 0, breaks => return ([], [], breaks)
  | fuel + 1, breaks => do
      if !(← inBlock indentation) then
        return ([], [], breaks)
      let begins := !((← peek).map isGap).getD false
      let line ← takeWhile fun c => !isBreak c
      let lineBreak ← takeBreak
      let later ← takeBlockBreaks indentation (← get).fuel
      if ← inBlock indentation then
        let goesOn := !((← peek).map isGap).getD false
        let between :=
          if folded && lineBreak == ['\n'] && begins && goesOn then
            if later.isEmpty then [' '] else []
          else
            lineBreak
        let (text, final, trailing) ← takeBlockLines folded indentation fuel later
        return (breaks ++ line ++ between ++ text, final, trailing)
      else
        return (breaks ++ line, lineBreak, later)

/-- A block scalar in a block with an indentation; the cursor stands at its mark. -/
def takeBlock (folded : Bool) (outer : Int) : Reading Token := do
  skip 1
  let (chomping, increment?) ← takeBlockSigns
  skipLineEnd
  let least := (max (outer + 1) 1).toNat
  let (indentation, breaks) ←
    match increment? with
    | none => do
        let (breaks, greatest) ← takeIndentation (← get).fuel 0
        pure (max least greatest, breaks)
    | some increment => do
        let indentation := least + increment - 1
        pure (indentation, ← takeBlockBreaks indentation (← get).fuel)
  let (text, final, trailing) ← takeBlockLines folded indentation (← get).fuel breaks
  let ending :=
    match chomping with
    | .strip => []
    | .clip => final
    | .keep => final ++ trailing
  return .scalar (text ++ ending) false

/-! ## Plain scalars -/

/-- What follows ends a plain scalar. -/
def endsPlain (inFlow : Bool) (c : Char) (following : Option Char) : Bool :=
  endsWord (some c)
    || (c == ':' && (endsWord following
      || (inFlow && (following.map fun d => ",[]\x7b\x7d".toList.contains d).getD false)))
    || (inFlow && ",?[]\x7b\x7d".toList.contains c)

/-- The next word of a plain scalar. -/
private def plainWord (inFlow : Bool) : List Char → List Char
  | [] => []
  | c :: rest =>
      if endsPlain inFlow c rest.head? then
        []
      else
        c :: plainWord inFlow rest

/-- Spaces and empty lines after a line break in a plain scalar; nothing when a document
mark comes. -/
private def takePlainBreaks : (fuel : Nat) → Reading (Option (List Char))
  | 0 => return some []
  | fuel + 1 => do
      match ← peek with
      | some ' ' =>
          skip 1
          takePlainBreaks fuel
      | _ =>
          match ← takeBreak with
          | [] => return some []
          | lineBreak =>
              if ← atAnyDocumentMark then
                return none
              else
                return (← takePlainBreaks fuel).map (lineBreak ++ ·)

/-- What stands between two words of a plain scalar, and whether it holds a line break. -/
private def takePlainGap : Reading (List Char × Bool) := do
  let spaces ← takeWhile (· == ' ')
  match ← takeBreak with
  | [] => return (spaces, false)
  | lineBreak =>
      if ← atAnyDocumentMark then
        return ([], true)
      match ← takePlainBreaks (← get).fuel with
      | none => return ([], true)
      | some breaks =>
          return ((if lineBreak != ['\n'] then lineBreak
            else if breaks.isEmpty then [' ']
            else []) ++ breaks, true)

/-- The words of a plain scalar, and whether a line break was passed after the last. -/
private def takePlainWords (inFlow : Bool) (indentation : Int) :
    (fuel : Nat) → (gap : List Char) → (broken : Bool) → Reading (List Char × Bool)
  | 0, _, broken => return ([], broken)
  | fuel + 1, gap, broken => do
      if (← peek) == some '#' then
        return ([], broken)
      let word := plainWord inFlow (← get).rest
      if word.isEmpty then
        return ([], broken)
      skip word.length
      let (later, brokenLater) ← takePlainGap
      let cursor ← get
      if later.isEmpty || cursor.rest.head? == some '#'
          || (!inFlow && (cursor.column : Int) < indentation) then
        return (gap ++ word, brokenLater)
      let (text, brokenLast) ← takePlainWords inFlow indentation fuel later brokenLater
      return (gap ++ word ++ text, brokenLast)

/-- A plain scalar in a block with an indentation, and whether a simple key may follow. -/
def takePlain (inFlow : Bool) (outer : Int) : Reading (Token × Bool) := do
  let (text, broken) ← takePlainWords inFlow (outer + 1) (← get).fuel [] false
  return (.scalar text true, broken)

end FormCheck.Yaml.Reading
