import FormCheck.CommandLine.Request
import FormCheck.Form
import FormCheck.JsonDocument
import FormCheck.JsonDocument.Reader
import FormCheck.RulesFile

/-!
# Answers to a command line

A command prints what it finds and ends with an exit code: 0 when all is well, 1 when a
record is not valid, 2 when the command cannot do its work.  Why it cannot goes into the
journal; only failures that concern neither the data nor the rules end it otherwise.
-/

namespace FormCheck.CommandLine

/-- What a command prints, and the code that it ends with. -/
structure Answer where
  code : Nat
  printed : String
  deriving DecidableEq, Repr

namespace Answer

variable [Host]

/-- The code of a command that finds all well. -/
def wellCode : Nat := 0

/-- The code of a command that finds a record not valid, or that is not told what to do. -/
def invalidCode : Nat := 1

/-- The code of a command that cannot do its work. -/
def refusedCode : Nat := 2

/-- A command cannot do its work, for a reason that goes into the journal. -/
def refused (reason : String) : Traced Event Answer :=
  (Journal.write .error .commandLine reason []).andThen fun _ => .done ⟨refusedCode, ""⟩

/-- The kinds of failures, other than mistakes, that a command answers for. -/
def answeredKinds : List String :=
  ["FileNotFoundError", "UnicodeDecodeError", "ValidationError", "ValueError"]

/-- The failure concerns the rules, the messages or the form that a command is given. -/
def concernsConfiguration : Failure → Bool
  | .mistake _ => true
  | failure => answeredKinds.contains failure.kindName

/-- A command that ends with a failure which concerns its configuration is refused. -/
def reporting (body : Traced Event Answer) : Traced Event Answer :=
  match body.outcome with
  | .ok _ => body
  | .error failure =>
      if concernsConfiguration failure then
        let refusal := refused ("Configuration error: " ++ failure.text)
        { trace := body.trace ++ refusal.trace, outcome := refusal.outcome }
      else
        body

/-! ## Documents -/

def errorDocument (error : FieldError) : JsonDocument :=
  .record [("rule", .text error.rule), ("message", .text error.message)]

def warningDocument (warning : RuleWarning) : JsonDocument :=
  .record [("field", .text warning.field), ("rule", .text warning.rule),
    ("message", .text warning.message)]

def reportDocument (report : Report) : JsonDocument :=
  .record
    [("errors", .record (report.errors.map errorDocument).entries),
      ("warnings", .list (report.warnings.map warningDocument)),
      ("is_valid", .truth report.isValid)]

def clauseDocument (clause : Clause) : JsonDocument :=
  .record [("name", .text clause.name), ("args", .list (clause.arguments.map .text))]

def ofReport (report : Report) : Answer where
  code := if report.isValid then wellCode else invalidCode
  printed := (reportDocument report).written false ++ "\n"

def ofClauses (clauses : List Clause) : Answer where
  code := wellCode
  printed := (JsonDocument.list (clauses.map clauseDocument)).written true ++ "\n"

def ofNames (names : List String) : Answer where
  code := wellCode
  printed := String.join (names.map (· ++ "\n"))

/-! ## Data -/

/-- Why a data file gives no record. -/
inductive DataFault where
  | missing
  | malformed (reason : String)
  | notRecord
  deriving DecidableEq, Repr

def DataFault.text (path : String) : DataFault → String
  | .missing => "Data file not found: " ++ path
  | .malformed reason => "Data file is not valid JSON: " ++ path ++ ": " ++ reason
  | .notRecord => "Data file must contain a JSON object: " ++ path

def textEntries (entries : List (Value × Value)) : Table Value :=
  .ofList (entries.filterMap fun entry =>
    match entry.1 with
    | .text key => some (key, entry.2)
    | _ => none)

/-- The record that a text writes. -/
def recordOf (text : List Char) : Except Failure (Except DataFault (Table Value)) :=
  match JsonDocument.read Host.nesting text with
  | .error (.malformed reason place) =>
      .ok (.error (.malformed (JsonDocument.malformedText text reason place)))
  | .error (.numberTooLong digits) => .error (.notWhole "" (.tooLong digits))
  | .error .nestedTooDeep => .error .nestedTooDeep
  | .error .surrogateUnpaired => .error .surrogateUnpaired
  | .ok (.record entries) => .ok (.ok (textEntries entries))
  | .ok _ => .ok (.error .notRecord)

/-- The record in the data file at a path. -/
def record (folder : Folder) (path : String) :
    Except Failure (Except DataFault (Table Value)) := do
  match folder.find path with
  | .missing => return .error .missing
  | found =>
      let content ← Folder.contentOf (Path.normalised path) found
      recordOf (← (Folder.textOf content).mapError fun fault => .file (.notText fault))

/-! ## Commands -/

/-- The rules file that a command is given; an empty path gives none. -/
def rulesFile? (folder : Folder) (path? : Option String) : Except Failure (Option RulesFile) :=
  match path? with
  | none | some "" => .ok none
  | some path => (RulesFile.ofPath folder path).map some

/-- The registry with the messages and labels of a rules file. -/
def registry : Option RulesFile → Except Failure Registry
  | none => .ok .builtIn
  | some file =>
      let (registry, outcome) := file.applyTo .builtIn
      outcome.map fun _ => registry

/-- The rule expressions of a form, from a rules file or from the forms that are always
there. -/
def formRules (form : String) (registry : Registry) :
    Option RulesFile → Except Failure (Table Value)
  | some file => (file.form form registry).map (·.map Value.text)
  | none =>
      match FormDefinition.builtIn? form with
      | some definition => .ok definition.rules
      | none => .error (.formUnknown form FormDefinition.builtInNames)

def validate (folder : Folder) (form : String) (rules? : Option String) (record : Table Value) :
    Traced Event Answer :=
  reporting do
    let file? ← rulesFile? folder rules?
    let known ← registry file?
    let rules ← formRules form known file?
    let report ← Validation.validate known record rules
    return ofReport report

def validateData (folder : Folder) (form data : String) (rules? : Option String) :
    Traced Event Answer := do
  match ← record folder data with
  | .error fault => refused (fault.text data)
  | .ok found => validate folder form rules? found

def parse (expression : String) : Traced Event Answer :=
  reporting do
    let clauses ← (Expression.read expression).mapError Failure.mistake
    return ofClauses clauses

def rules (folder : Folder) (rules? : Option String) : Traced Event Answer :=
  reporting do
    let file? ← rulesFile? folder rules?
    let known ← registry file?
    return ofNames known.names

def ofRequest (folder : Folder) : Request → Traced Event Answer
  | .help page => .done ⟨wellCode, page.text⟩
  | .misuse _ => .done ⟨refusedCode, ""⟩
  | .nothing => .done ⟨invalidCode, Page.overview.text⟩
  | .validate form data rules? => validateData folder form data rules?
  | .parse expression => parse expression
  | .rules rules? => rules folder rules?

end Answer

end FormCheck.CommandLine
