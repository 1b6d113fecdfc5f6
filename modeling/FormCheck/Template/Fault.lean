import FormCheck.Template

/-!
# Faults of templates in words

A template that asks for an argument, a name or an item that does not exist is
at odds with the rule it belongs to (`TemplateFault.isMissingPart`).  All other
faults lie in the template itself or in the type of the value.
-/

namespace FormCheck.TemplateFault

/-- The template asks for something that the arguments or the value do not have. -/
def isMissingPart : TemplateFault → Bool
  | .positionMissing _ | .nameMissing _ | .keyMissing _ | .indexMissing _ => true
  | .foreign fault => ["IndexError", "KeyError"].contains fault.kind
  | _ => false

/-- The words for a value whose items are counted. -/
private def holderName : Value → String
  | .text _ => "string index"
  | .list _ => "list index"
  | .tuple _ => "tuple index"
  | _ => "index"

def text : TemplateFault → String
  | .singleOpening => "Single '\x7b' encountered in format string"
  | .singleClosing => "Single '\x7d' encountered in format string"
  | .openingInName => "unexpected '\x7b' in field name"
  | .fieldUnclosed => "expected '\x7d' before end of string"
  | .layoutUnclosed => "unmatched '\x7b' in format spec"
  | .conversionMissing => "end of string while looking for conversion specifier"
  | .colonExpected => "expected ':' after conversion specifier"
  | .nestedTooDeep => "Max string recursion exceeded"
  | .automaticAfterManual =>
      "cannot switch from manual field specification to automatic field numbering"
  | .manualAfterAutomatic =>
      "cannot switch from automatic field numbering to manual field specification"
  | .stepEmpty => "Empty attribute in format string"
  | .stepExpected => "Only '.' or '[' may follow ']' in format field specifier"
  | .bracketUnclosed => "Missing ']' in format string"
  | .conversionUnknown conversion =>
      if 32 < conversion.toNat ∧ conversion.toNat < 127 then
        "Unknown conversion specifier '" ++ conversion.toString ++ "'"
      else
        "Unknown conversion specifier \\x" ++ String.ofList (Nat.toDigits 16 conversion.toNat)
  | .positionMissing index =>
      "Replacement index " ++ toString index ++ " out of range for positional args tuple"
  | .nameMissing name => String.ofList (Text.quoted name)
  | .keyMissing key => String.ofList key.literal
  | .indexMissing holder => holderName holder ++ " out of range"
  | .attributeMissing holder name =>
      "'" ++ holder.typeName ++ "' object has no attribute '" ++ String.ofList name ++ "'"
  | .notIndexed holder => "'" ++ holder.typeName ++ "' object is not subscriptable"
  | .indexedByText (.text _) => "string indices must be integers, not 'str'"
  | .indexedByText (.octets _) => "byte indices must be integers or slices, not str"
  | .indexedByText holder =>
      holder.typeName ++ " indices must be integers or slices, not str"
  | .layout fault => fault.text
  | .foreign fault => fault.words

end FormCheck.TemplateFault
