import FormCheck.Expression
import FormCheck.Value.Display

/-!
# Rule sheets

A rule sheet collects clauses for fields, and in the end gives the expression of every
field.  Clauses come from expressions, or they are put together from a name and values
as arguments.  Nothing is checked when a clause is put together.
-/

namespace FormCheck

/-- The texts of clauses, by field. -/
structure RuleSheet where
  fields : Table (List String)
  deriving Inhabited

namespace RuleSheet

def empty : RuleSheet :=
  ⟨.empty⟩

def append (sheet : RuleSheet) (field : String) (clauses : List String) : RuleSheet :=
  ⟨sheet.fields.insert field ((sheet.fields.get? field).getD [] ++ clauses)⟩

def add (sheet : RuleSheet) (field : String) (expression : Value) : Except Failure RuleSheet :=
  (Expression.readValue expression).map fun clauses =>
    sheet.append field (clauses.map Clause.written)

/-- The text of a clause with values as arguments. -/
def clauseText (name : String) (arguments : List Value) : String :=
  match arguments with
  | [] => name
  | arguments => name ++ ":" ++ String.ofList (Text.join ',' (arguments.map Value.display))

def rule (sheet : RuleSheet) (field name : String) (arguments : List Value) : RuleSheet :=
  sheet.append field [clauseText name arguments]

def required (sheet : RuleSheet) (field : String) : RuleSheet :=
  sheet.rule field "required" []

def build (sheet : RuleSheet) : Table String :=
  sheet.fields.map fun clauses => String.ofList (Text.join '|' (clauses.map String.toList))

end RuleSheet

end FormCheck
