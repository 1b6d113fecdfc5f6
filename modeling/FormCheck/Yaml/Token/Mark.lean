import FormCheck.Yaml.Cursor
import FormCheck.Yaml.Token

/-!
# Directives, anchors and tags

What stands before the content of a document or of a node: directives at the
beginning of a document, and the anchors, aliases and tags of nodes.
-/

namespace FormCheck.Yaml.Reading

/-- A character that may stand in the name of a tag. -/
def isTagChar (c : Char) : Bool :=
  isWordChar c || ";/?:@&=+$,_.!~*'()[]%".toList.contains c

/-- Octets in hexadecimal digits after percent signs, one after another. -/
private def takeOctets : (fuel : Nat) → Reading (List UInt8)
  | 0 => return []
  | fuel + 1 => do
      if (← peek) != some '%' then
        return []
      match (← get).rest with
      | _ :: high :: low :: _ =>
          match Numeral.digitIn? 16 high, Numeral.digitIn? 16 low with
          | some first, some second =>
              skip 3
              return UInt8.ofNat (16 * first + second) :: (← takeOctets fuel)
          | _, _ => malformed
      | _ => malformed

/-- The name of a tag, without percent signs, piece by piece. -/
private def takeTagPieces : (fuel : Nat) → Reading (List Char)
  | 0 => return []
  | fuel + 1 => do
      match ← peek with
      | some '%' =>
          let octets ← takeOctets (← get).fuel
          match Utf8.decode octets with
          | .ok characters => return characters ++ (← takeTagPieces fuel)
          | .error _ => malformed
      | some c =>
          if isTagChar c then
            skip 1
            return c :: (← takeTagPieces fuel)
          else
            return []
      | none => return []

/-- The name of a tag; it must not be missing. -/
def takeTagName : Reading (List Char) := do
  let before := (← get).passed
  let name ← takeTagPieces (← get).fuel
  if (← get).passed == before then
    malformed
  return name

/-- The handle of a set of tags: a word between exclamation marks, or one mark. -/
def takeTagHandle : Reading (List Char) := do
  expect (· == some '!')
  skip 1
  if (← peek) == some ' ' then
    return ['!']
  let word ← takeWhile isWordChar
  expect (· == some '!')
  skip 1
  return '!' :: word ++ ['!']

/-- A tag; the cursor stands at its exclamation mark. -/
def takeTag : Reading Token := do
  let text : TagText ←
    match ← peekAt 1 with
    | some '<' => do
        skip 2
        let name ← takeTagName
        expect (· == some '>')
        skip 1
        pure ⟨none, name⟩
    | second =>
        if endsWord second then do
          skip 1
          pure ⟨none, ['!']⟩
        else do
          let rest := (← get).rest.drop 1
          if (rest.takeWhile fun c => !endsPart (some c)).contains '!' then
            let handle ← takeTagHandle
            pure ⟨some handle, ← takeTagName⟩
          else
            skip 1
            pure ⟨some ['!'], ← takeTagName⟩
  expect endsPart
  return .tag text

/-- The name after the sign of an anchor or an alias. -/
def takeAnchorName : Reading (List Char) := do
  skip 1
  let name ← takeWhile isWordChar
  if name.isEmpty then
    malformed
  expect fun next? =>
    endsWord next? || (next?.map fun c => "?:,]\x7d%@`".toList.contains c).getD false
  return name

/-- The digits of a number in a version. -/
private def takeVersionNumber : Reading (List Char) := do
  let digits ← takeWhile Text.isAsciiDigit
  if digits.isEmpty then
    malformed
  return digits

/-- A directive; the cursor stands at its percent sign. -/
def takeDirective : Reading Token := do
  skip 1
  let name ← takeWhile isWordChar
  if name.isEmpty then
    malformed
  expect endsPart
  let token : Token ←
    if name == "YAML".toList then do
      skipWhile (· == ' ')
      let major ← takeVersionNumber
      expect (· == some '.')
      skip 1
      let _ ← takeVersionNumber
      expect endsPart
      pure (.version major)
    else if name == "TAG".toList then do
      skipWhile (· == ' ')
      let handle ← takeTagHandle
      expect (· == some ' ')
      skipWhile (· == ' ')
      let start ← takeTagName
      expect endsPart
      pure (.tagSet handle start)
    else do
      skipWhile fun c => !isBreak c
      pure .otherDirective
  skipLineEnd
  return token

end FormCheck.Yaml.Reading
