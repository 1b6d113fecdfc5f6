import FormCheck.Clause

/-!
# Reports

The report of a validation holds, for every invalid field, the first rule that the
field fails and a message, and the notices about values that rules do not handle.
-/

namespace FormCheck

/-- The first rule that a field fails, with a message. -/
structure FieldError where
  rule : String
  message : String
  deriving DecidableEq, Repr

/-- A notice that a rule does not handle the value of a field. -/
structure RuleWarning where
  field : String
  rule : String
  message : String
  deriving DecidableEq, Repr

/-- What a validation found. -/
structure Report where
  errors : Table FieldError
  warnings : List RuleWarning
  deriving Inhabited

namespace Report

def isValid (report : Report) : Bool :=
  report.errors.isEmpty

def errorFor? (report : Report) (field : String) : Option FieldError :=
  report.errors.get? field

def messageFor? (report : Report) (field : String) : Option String :=
  (report.errorFor? field).map FieldError.message

def summary (report : Report) : String :=
  ". ".intercalate (report.errors.entries.map fun entry => entry.2.message)

end Report

/-- A record from named parts, each of which must be a text. -/
private def textParts (parts : List (String × Value)) : Except Failure (List String) :=
  (Clause.gather (parts.map fun part => Clause.textPart [.name part.1] part.2)).mapError
    Failure.unsound

/-- The error with a rule and a message given as values. -/
def FieldError.ofValues (rule message : Value) : Except Failure FieldError := do
  match ← textParts [("rule", rule), ("message", message)] with
  | [ruleText, messageText] => return ⟨ruleText, messageText⟩
  | _ => throw (.unsound [])

/-- The warning with a field, a rule and a message given as values. -/
def RuleWarning.ofValues (field rule message : Value) : Except Failure RuleWarning := do
  match ← textParts [("field", field), ("rule", rule), ("message", message)] with
  | [fieldText, ruleText, messageText] => return ⟨fieldText, ruleText, messageText⟩
  | _ => throw (.unsound [])

end FormCheck
