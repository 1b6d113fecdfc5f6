import FormCheck.Template.Fault
import FormCheck.Value.Display

/-!
# Mistakes in the set-up of rules

What a user types into a form is never a mistake: it passes or fails.  A mistake
lies in how rules were set up, and each is reported under the name of the rule,
or of the control, that it concerns.  There are five kinds.
-/

namespace FormCheck

/-- Why arguments do not fit the parameters of a rule. -/
inductive ArgumentFault where
  | tooMany
  | missing (parameter : String)
  | unexpected (parameter : String)
  deriving DecidableEq, Repr

def ArgumentFault.text : ArgumentFault → String
  | .tooMany => "too many positional arguments"
  | .missing parameter => "missing a required argument: '" ++ parameter ++ "'"
  | .unexpected parameter => "got an unexpected keyword argument '" ++ parameter ++ "'"

/-- A mistake in the set-up of rules. -/
inductive Mistake where
  | unknownRule (rule : String)
  | duplicateRule (rule : String)
  | messageUnusable (rule : String) (typeName : String)
  | messageUnrendered (rule : String) (template : String) (fault : TemplateFault)
  | messageNotText (rule : String) (typeName : String)
  | hintNotText (control : String) (typeName : String)
  | argumentsUnfit (rule : String) (arguments : List String) (fault : ArgumentFault)
  | boundMissing (rule : String)
  | boundNotNumeric (rule : String) (bound : String)
  | unnamedClause (clause : String)

namespace Mistake

inductive Kind where
  | unknownRule
  | duplicateRule
  | invalidMessage
  | ruleArgument
  | ruleSyntax
  deriving DecidableEq, Repr

def kind : Mistake → Kind
  | .unknownRule _ => .unknownRule
  | .duplicateRule _ => .duplicateRule
  | .messageUnusable _ _ | .messageUnrendered _ _ _ | .messageNotText _ _ | .hintNotText _ _ =>
      .invalidMessage
  | .argumentsUnfit _ _ _ | .boundMissing _ | .boundNotNumeric _ _ => .ruleArgument
  | .unnamedClause _ => .ruleSyntax

def Kind.name : Kind → String
  | .unknownRule => "UnknownRuleError"
  | .duplicateRule => "DuplicateRuleError"
  | .invalidMessage => "InvalidMessageError"
  | .ruleArgument => "RuleArgumentError"
  | .ruleSyntax => "RuleSyntaxError"

/-- What a mistake is reported under: the name of a rule or of a control, or a
clause that names no rule. -/
def concerns : Mistake → String
  | .unknownRule rule | .duplicateRule rule | .messageUnusable rule _
  | .messageUnrendered rule _ _ | .messageNotText rule _ | .argumentsUnfit rule _ _
  | .boundMissing rule | .boundNotNumeric rule _ => rule
  | .hintNotText control _ => control
  | .unnamedClause clause => clause

/-- A text in the notation of values. -/
private def literalOf (text : String) : String :=
  String.ofList (Text.quoted text.toList)

def explanation : Mistake → String
  | .unknownRule rule => "Rule with name \"" ++ rule ++ "\" is not registered"
  | .duplicateRule rule => "Rule with name \"" ++ rule ++ "\" already exists"
  | .messageUnusable _ typeName =>
      "Message must be a string or a callable, got " ++ typeName
  | .messageUnrendered _ template fault =>
      "Message template " ++ literalOf template ++ " cannot be rendered: " ++ fault.text
  | .messageNotText _ typeName =>
      "Message template returned " ++ typeName ++ ", expected str"
  | .hintNotText _ typeName =>
      "The \"message\" argument must be a string, got " ++ typeName
  | .argumentsUnfit _ arguments fault =>
      "Invalid arguments " ++
        String.ofList (Value.list (arguments.map Value.text)).literal ++ ": " ++ fault.text
  | .boundMissing rule => "The \"" ++ rule ++ "\" rule requires a numeric argument"
  | .boundNotNumeric rule bound =>
      "Argument \"" ++ bound ++ "\" of the \"" ++ rule ++ "\" rule is not a number"
  | .unnamedClause clause => "Clause " ++ literalOf clause ++ " has no rule name"

/-- A mistake in words: what it concerns in brackets, and what is wrong. -/
def text (mistake : Mistake) : String :=
  "[" ++ mistake.concerns ++ "] " ++ mistake.explanation

end Mistake

end FormCheck
