import FormCheck.Text.Case
import FormCheck.Value.Display
import FormCheck.Yaml.Base64
import FormCheck.Yaml.Tag

/-!
# Values of scalars in YAML documents

A scalar is made into a value as its tag says.  A number may be grouped by underscores and
written to the base sixty, and a whole number also to the bases two, eight and sixteen.
Its text need not have the form of a plain scalar of that tag, because the tag may have
been given, so making the value may fail.
-/

namespace FormCheck.Yaml

/-- The value of a scalar: a value, or a moment of time. -/
inductive Scalar where
  | value (value : Value)
  | moment (moment : Moment)

namespace Scalar

/-- The text of a scalar, if it is writable. -/
def text? : Scalar → Option String
  | .value written => if written.isWritable then some (String.ofList written.display) else none
  | .moment written => some (String.ofList written.display)

def same : Scalar → Scalar → Bool
  | .value left, .value right => left.same right
  | .moment left, .moment right => left.identity == right.identity
  | _, _ => false

def truth : Scalar → Bool
  | .value written => written.truth
  | .moment _ => true

/-- A number without the underscores that group its digits. -/
private def ungrouped (text : List Char) : List Char :=
  text.filter (· != '_')

/-- A whole number to a base. -/
private def readWhole (base : Nat) (text : List Char) : Except Fault Int :=
  (Numeral.readInteger base text).mapError (.wholeNumber base text)

/-- Whole numbers to the base sixty, the first one counting most. -/
private def sexagesimal (parts : List Int) : Int :=
  parts.foldl (fun total part => total * 60 + part) 0

def ofInteger (text : List Char) : Except Fault Value := do
  let (negative, unsigned) := Numeral.sign (ungrouped text)
  let size : Int ←
    match unsigned with
    | [] => throw .digitsMissing
    | ['0'] => pure 0
    | '0' :: 'b' :: digits => readWhole 2 digits
    | '0' :: 'x' :: digits => readWhole 16 digits
    | '0' :: _ => readWhole 8 unsigned
    | _ =>
        if unsigned.contains ':' then do
          let parts ← (Text.pieces ':' unsigned).mapM (readWhole 10)
          pure (sexagesimal parts)
        else
          readWhole 10 unsigned
  return .integer (if negative then -size else size)

/-- A part of a number with a point. -/
private def readReal (text : List Char) : Except Fault Binary64 :=
  match Binary64.read? text with
  | some number => .ok number
  | none => .error (.realNumber text)

/-- Add parts to the base sixty, the one that counts least first. -/
private def addSixtieths (total : Binary64) (base : Nat) : List Binary64 → Binary64
  | [] => total
  | part :: parts => addSixtieths (total.add (part.scale base)) (base * 60) parts

def ofReal (text : List Char) : Except Fault Value := do
  let digits := ungrouped text
  let (negative, unsigned) := Numeral.sign (Text.lower digits)
  let size : Binary64 ←
    if digits.isEmpty then
      throw .digitsMissing
    else if unsigned == ".inf".toList then
      pure (.infinite false)
    else if unsigned == ".nan".toList then
      pure (.nan 0)
    else if unsigned.contains ':' then do
      let parts ← (Text.pieces ':' unsigned).mapM readReal
      pure (addSixtieths (.finite false 0) 1 parts.reverse)
    else
      readReal unsigned
  return .real (if negative then size.negate else size)

def ofTruth (text : List Char) : Except Fault Value :=
  let word := Text.lower text
  match Tag.truthWords.find? fun entry => entry.1.toList == word with
  | some entry => .ok (.boolean entry.2)
  | none => .error (.truthWord word)

def ofOctets (text : List Char) : Except Fault Value :=
  match text.all (fun c => c.toNat < 0x80), Base64.decode text with
  | true, some octets => .ok (.octets octets)
  | _, _ => .error .malformed

/-- A moment of time; a line break at its end does not count. -/
def ofMoment (text : List Char) : Except Fault Scalar :=
  match Moment.read? (Tag.withoutFinalBreak text) with
  | none => .error .notMoment
  | some (written, _) =>
      match written.fault? with
      | some fault => .error (.moment fault)
      | none => .ok (.moment written)

/-- The scalar of a text with a tag. -/
def make (tag : Tag) (text : List Char) : Except Fault Scalar :=
  match tag with
  | .null => .ok (.value .null)
  | .boolean => (ofTruth text).map .value
  | .integer => (ofInteger text).map .value
  | .real => (ofReal text).map .value
  | .octets => (ofOctets text).map .value
  | .moment => ofMoment text
  | .text => .ok (.value (.text (String.ofList text)))
  | _ => .error .malformed

end Scalar

end FormCheck.Yaml
