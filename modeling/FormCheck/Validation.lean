import FormCheck.Expression
import FormCheck.Registry
import FormCheck.Report

/-!
# Validation

A record is validated against a rule expression for each of some fields.  The fields
are taken in the order of the expressions; a field that the record does not have is
passed over.  The rules of a field are applied in order, up to the first one that its
value fails.

The journal of a validation begins and ends with an entry, and in between it tells
which fields were passed over and which values were not handled.
-/

namespace FormCheck

/-- What applying rules to the value of a field found. -/
structure Finding where
  error? : Option FieldError
  warnings : List RuleWarning
  deriving DecidableEq, Repr

namespace Finding

def none : Finding :=
  ⟨.none, []⟩

/-- Put warnings that came earlier in front. -/
def after (earlier : List RuleWarning) (finding : Finding) : Finding :=
  { finding with warnings := earlier ++ finding.warnings }

end Finding

namespace Validation

variable [Host]

/-- The warnings among the notices that a rule gave. -/
def warningsOf (field rule : String) (notices : List Notice) : List RuleWarning :=
  (notices.filter Notice.isUnsupportedValue).map fun notice => ⟨field, rule, notice.text⟩

/-- What becomes of a notice that a rule gave: an entry in the journal when the value
was not handled, and otherwise it is passed on. -/
def eventOf (field rule : String) (notice : Notice) : Event :=
  if notice.isUnsupportedValue then
    .entry ⟨.warning, .validation, notice.text,
      .ofList [("field", .text field), ("rule", .text rule)]⟩
  else
    .notice notice

/-- Apply the rule of one clause.  The notices of a rule that fails to judge are lost. -/
def judgeClause (registry : Registry) (field : String) (value : Value)
    (surroundings : Table Value) (clause : Clause) : Traced Event Finding :=
  match registry.lookup clause.name with
  | .error mistake => .fail (.mistake mistake)
  | .ok rule =>
      let judged := rule.check value clause.arguments surroundings
      match judged.outcome with
      | .error failure => .fail failure
      | .ok passed =>
          { trace := judged.trace.map (eventOf field clause.name)
            outcome := do
              let warnings := warningsOf field clause.name judged.trace
              if passed then
                return ⟨none, warnings⟩
              else
                let message ← registry.renderMessage clause.name value clause.arguments
                return ⟨some ⟨clause.name, message⟩, warnings⟩ }

/-- Apply the rules of clauses in order, up to the first one that the value fails. -/
def judgeClauses (registry : Registry) (field : String) (value : Value)
    (surroundings : Table Value) : List Clause → Traced Event Finding
  | [] => .done .none
  | clause :: rest =>
      (judgeClause registry field value surroundings clause).andThen fun finding =>
        match finding.error? with
        | some _ => .done finding
        | none =>
            (judgeClauses registry field value surroundings rest).andThen fun later =>
              .done (later.after finding.warnings)

/-- Apply a rule expression to the value of a field. -/
def judgeField (registry : Registry) (record : Table Value) (field : String) (value : Value)
    (expression : Value) : Traced Event Finding :=
  match Expression.readValue expression with
  | .error failure => .fail failure
  | .ok clauses => judgeClauses registry field value record clauses

/-- The entry for a field that the record does not have. -/
def skipped (field : String) : Event :=
  .entry ⟨.debug, .validation, "Skipping field without a value: " ++ field,
    .ofList [("field", .text field)]⟩

/-- What was found so far, with what was found for one more field. -/
def add (report : Report) (field : String) (finding : Finding) : Report where
  errors :=
    match finding.error? with
    | some error => report.errors.insert field error
    | none => report.errors
  warnings := report.warnings ++ finding.warnings

/-- Validate field after field. -/
def judgeFields (registry : Registry) (record : Table Value) (report : Report) :
    List (String × Value) → Traced Event Report
  | [] => .done report
  | (field, expression) :: rest =>
      match record.get? field with
      | none =>
          (Traced.note (skipped field)).andThen fun _ => judgeFields registry record report rest
      | some value =>
          (judgeField registry record field value expression).andThen fun finding =>
            judgeFields registry record (add report field finding) rest

/-- Validate a record against the expressions of its fields. -/
def validate (registry : Registry) (record rules : Table Value) : Traced Event Report :=
  Journal.around .validation "validate" (.ofList [("field_count", .integer rules.size)])
    (judgeFields registry record ⟨.empty, []⟩ rules.entries)

/-- Validate one field.  The record gives the other fields; its own value of the field
does not count. -/
def validateField (registry : Registry) (field : String) (value expression : Value)
    (record : Table Value) : Traced Event Report :=
  validate registry (record.insert field value) (.ofList [(field, expression)])

end Validation

end FormCheck
