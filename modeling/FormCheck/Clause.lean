import FormCheck.Failure
import FormCheck.Table
import FormCheck.Text.Blank
import FormCheck.Text.Split

/-!
# Clauses

A clause calls for one rule, with arguments:

    name
    name:first,second

Only the first colon ends the name, and blanks round the name and round each
argument do not count.  A colon with nothing after it gives one empty argument,
which is not the same as no argument.  A clause without a name is a mistake.

`Clause.written` writes a clause.  Nothing is escaped, so only a clean clause is
read back as it was (`Clause.Clean`).
-/

namespace FormCheck

/-- The call for one rule. -/
structure Clause where
  name : String
  arguments : List String
  named : name ≠ ""
  deriving DecidableEq

namespace Clause

def written (clause : Clause) : String :=
  match clause.arguments with
  | [] => clause.name
  | arguments =>
      clause.name ++ ":" ++ String.ofList (Text.join ',' (arguments.map String.toList))

/-- The arguments that a text after the colon writes. -/
def readArguments (text : List Char) : List String :=
  (Text.pieces ',' text).map fun piece => String.ofList (Text.trim piece)

def read (text : List Char) : Except Mistake Clause :=
  let (before, after?) := Text.cutFirst ':' text
  let name := String.ofList (Text.trim before)
  if named : name ≠ "" then
    .ok ⟨name, (after?.map readArguments).getD [], named⟩
  else
    .error (.unnamedClause (String.ofList text))

/-- A clause that is read back as it was: its name and its arguments have no blanks
at their ends, the name has neither a bar nor a colon in it, and no argument has a
bar or a comma in it. -/
structure Clean (clause : Clause) : Prop where
  name_trimmed : Text.Trimmed clause.name.toList
  name_unbarred : '|' ∉ clause.name.toList
  name_uncut : ':' ∉ clause.name.toList
  arguments_trimmed : ∀ argument ∈ clause.arguments, Text.Trimmed argument.toList
  arguments_unbarred : ∀ argument ∈ clause.arguments, '|' ∉ argument.toList
  arguments_uncut : ∀ argument ∈ clause.arguments, ',' ∉ argument.toList

/-! ## Clauses from parts -/

/-- A value as a text; octets count as the text that they write. -/
def textPart (location : List Location) : Value → Except Issue String
  | .text characters => .ok characters
  | .octets content =>
      match Utf8.decode content with
      | .ok characters => .ok (String.ofList characters)
      | .error _ => .error ⟨.decodableText, location⟩
  | _ => .error ⟨.text, location⟩

/-- Keep all results, or else all issues. -/
def gather {α : Type} : List (Except Issue α) → Except (List Issue) (List α)
  | [] => .ok []
  | first :: rest =>
      match first, gather rest with
      | .ok result, .ok results => .ok (result :: results)
      | .ok _, .error issues => .error issues
      | .error issue, .ok _ => .error [issue]
      | .error issue, .error issues => .error (issue :: issues)

private def namePart (parts : Table Value) : Except Issue { name : String // name ≠ "" } :=
  let location := [Location.name "name"]
  match parts.get? "name" with
  | none => .error ⟨.present, location⟩
  | some value =>
      match textPart location value with
      | .error issue => .error issue
      | .ok name => if named : name ≠ "" then .ok ⟨name, named⟩ else .error ⟨.longerText, location⟩

private def argumentsPart (parts : Table Value) : Except (List Issue) (List String) :=
  let location := Location.name "args"
  match parts.get? "args" with
  | none => .ok []
  | some (.list items) | some (.tuple items) =>
      gather (items.mapIdx fun index item => textPart [location, .index index] item)
  | some _ => .error [⟨.tuple, [location]⟩]

/-- The clause with a name and arguments given as values; other parts do not
count. -/
def ofParts (parts : Table Value) : Except Failure Clause :=
  match namePart parts, argumentsPart parts with
  | .ok name, .ok arguments => .ok ⟨name.1, arguments, name.2⟩
  | .ok _, .error issues => .error (.unsound issues)
  | .error issue, .ok _ => .error (.unsound [issue])
  | .error issue, .error issues => .error (.unsound (issue :: issues))

end Clause

end FormCheck
