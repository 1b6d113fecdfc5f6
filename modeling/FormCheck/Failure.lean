import FormCheck.Mistake
import FormCheck.Text.Utf8

/-!
# Failures

An operation that cannot be carried out ends with a failure.  Most failures are
mistakes in the set-up of rules; the others concern files, controls and values of
a type that an operation does not take.  What callers supply may fail in ways of its
own (`supplied`), and so may the host.  A failure has a kind, whose name goes into the
journal, and words.  The words of some failures are this library's own (`isWorded`);
those of the others describe a clash of types or a broken notation.
-/

namespace FormCheck

/-- One step on the way to a part of a record. -/
inductive Location where
  | name (name : String)
  | index (index : Nat)
  deriving DecidableEq, Repr

/-- What a part of a record should have been. -/
inductive Expectation where
  | present
  | text
  | decodableText
  | longerText
  | tuple
  deriving DecidableEq, Repr

def Expectation.name : Expectation → String
  | .present => "missing"
  | .text => "string_type"
  | .decodableText => "string_unicode"
  | .longerText => "string_too_short"
  | .tuple => "tuple_type"

/-- A part of a record that is not what it should be. -/
structure Issue where
  expectation : Expectation
  location : List Location
  deriving DecidableEq, Repr

/-- Why a file cannot be read as text. -/
inductive FileFault where
  | directory (path : String)
  | barred (fault : HostFault)
  | notText (fault : Utf8.Fault)
  deriving Repr

/-- Why a rules file that is well formed cannot be used. -/
inductive RulesFileFault where
  | missing (path : String)
  | formsMissing
  | formsNotMapping
  | formNotMapping (form : String)
  | expressionNotText (form field : String)
  | formUndefined (form path : String)
  | sectionNotMapping (part : String)
  | entryNotText (part key : String)
  deriving Repr

def RulesFileFault.text : RulesFileFault → String
  | .missing path => "Rule configuration file not found: " ++ path
  | .formsMissing => "Configuration file must contain 'forms' section"
  | .formsNotMapping =>
      "'forms' section must be a mapping of form names to field rules"
  | .formNotMapping form => "Rules for form '" ++ form ++ "' must be a mapping"
  | .expressionNotText form field =>
      "Rule expression for '" ++ form ++ "." ++ field ++ "' must be a string"
  | .formUndefined form path => "Form '" ++ form ++ "' is not defined in " ++ path
  | .sectionNotMapping name => "'" ++ name ++ "' section must be a mapping"
  | .entryNotText name key =>
      "Value of '" ++ name ++ "." ++ key ++ "' must be a string"

/-- Why an operation was not carried out. -/
inductive Failure where
  | mistake (mistake : Mistake)
  | template (fault : TemplateFault)
  | unsound (issues : List Issue)
  | predicateNotCallable (rule : String)
  | callUnfit (explanation : String)
  | expressionNotText (expression : Value)
  | uncountable (typeName : String)
  | notWhole (written : String) (refusal : Numeral.Refusal)
  | raised (words : String)
  | supplied (kind words : String)
  | messageUnknown (rule : String)
  | formUnknown (form : String) (known : List String)
  | controlUnknown (control : String)
  | controlBound (control form : String)
  | noFormVisible
  | file (fault : FileFault)
  | rulesFile (fault : RulesFileFault)
  | document (fault : HostFault)
  | nestedTooDeep
  | surrogateUnpaired
  | integerTooLong
  | entryClash (name : String)

namespace Failure

private def templateKindName : TemplateFault → String
  | .positionMissing _ | .indexMissing _ => "IndexError"
  | .nameMissing _ | .keyMissing _ => "KeyError"
  | .attributeMissing _ _ => "AttributeError"
  | .notIndexed _ | .indexedByText _ => "TypeError"
  | .layout fault => fault.kindName
  | .foreign fault => fault.kind
  | _ => "ValueError"

def kindName : Failure → String
  | .mistake cause => cause.kind.name
  | .template fault => templateKindName fault
  | .unsound _ => "ValidationError"
  | .predicateNotCallable _ | .callUnfit _ | .uncountable _ => "TypeError"
  | .expressionNotText expression =>
      if !expression.isKey || expression.kind = .other then "TypeError" else "AttributeError"
  | .notWhole _ _ | .raised _ | .controlBound _ _ | .formUnknown _ _ | .integerTooLong =>
      "ValueError"
  | .supplied kind _ => kind
  | .messageUnknown _ | .controlUnknown _ | .entryClash _ => "KeyError"
  | .noFormVisible => "StopIteration"
  | .file (.directory _) => "IsADirectoryError"
  | .file (.barred fault) | .document fault => fault.kind
  | .file (.notText _) => "UnicodeDecodeError"
  | .rulesFile (.missing _) => "FileNotFoundError"
  | .rulesFile _ => "ValueError"
  | .nestedTooDeep => "RecursionError"
  | .surrogateUnpaired => "UnicodeEncodeError"

private def quotedText (text : String) : String :=
  String.ofList (Text.quoted text.toList)

def text : Failure → String
  | .mistake cause => cause.text
  | .template fault => fault.text
  | .unsound issues => toString issues.length ++ " validation errors"
  | .predicateNotCallable rule => "Predicate for rule \"" ++ rule ++ "\" must be callable"
  | .callUnfit explanation => explanation
  | .expressionNotText expression =>
      match expression.firstUnkeyed with
      | some part => "unhashable type: '" ++ part.typeName ++ "'"
      | none =>
          if expression.kind = .other then
            "a bytes-like object is required, not 'str'"
          else
            "'" ++ expression.typeName ++ "' object has no attribute 'split'"
  | .uncountable typeName => "object of type '" ++ typeName ++ "' has no len()"
  | .notWhole written refusal => refusal.text 10 written.toList
  | .raised words | .supplied _ words => words
  | .messageUnknown rule => quotedText rule
  | .formUnknown form known =>
      "Unknown form '" ++ form ++ "'. Built-in forms: " ++ ", ".intercalate known
  | .controlUnknown control => control
  | .controlBound control form =>
      "Control '" ++ control ++ "' is already bound to form '" ++ form ++ "'"
  | .noFormVisible => "no form is visible"
  | .file (.directory path) => "[Errno 21] Is a directory: " ++ quotedText path
  | .file (.barred fault) | .document fault => fault.words
  | .file (.notText fault) => fault.text
  | .rulesFile fault => fault.text
  | .nestedTooDeep => "maximum recursion depth exceeded while decoding a JSON document"
  | .surrogateUnpaired => "surrogates not allowed"
  | .integerTooLong => LayoutFault.tooManyDigitsText
  | .entryClash name => "Attempt to overwrite " ++ quotedText name ++ " in LogRecord"

/-- The words of the failure are this library's own. -/
def isWorded : Failure → Bool
  | .mistake _ | .predicateNotCallable _ | .raised _ | .supplied _ _ | .formUnknown _ _
  | .controlUnknown _ | .controlBound _ _ | .rulesFile _ | .entryClash _ => true
  | _ => false

end Failure

end FormCheck
