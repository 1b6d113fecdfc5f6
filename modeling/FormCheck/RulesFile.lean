import FormCheck.Folder
import FormCheck.Validation

/-!
# Rules files

A rules file is a YAML document with three sections.  The section of forms gives a rule
expression for every field of every form; the sections of messages and of labels are
optional:

    forms:
      registration:
        name: required|alpha
        password: required|string|min:6
    messages:
      required: Please fill in this field
    display_names:
      password: Secret word

The rules that expressions name must be known when the forms are loaded.  Messages and
labels are put into a registry one section after the other.

Forms, fields, messages and labels are named by the texts of keys.  A key that is too long
a number has no text, and is met when its text is asked for.
-/

namespace FormCheck

/-- A rules file: its path in short, and what it says. -/
structure RulesFile where
  path : String
  document : Except Failure Yaml.Datum

namespace RulesFile

/-- The rules file with a content, or with a reason why it has none. -/
def ofContent [Host] (path : String) (content : Except Failure (List UInt8)) : RulesFile where
  path := Path.normalised path
  document := do (Host.readYaml (← content)).mapError Failure.document

/-- The rules file at a path; there must be something at the path. -/
def ofPath [Host] (folder : Folder) (path : String) : Except Failure RulesFile :=
  match folder.find path with
  | .missing => .error (.rulesFile (.missing path))
  | .hidden fault => .error (.file (.barred fault))
  | found => .ok (.ofContent path (Folder.contentOf (Path.normalised path) found))

/-- The entries of a mapping by their keys. -/
abbrev Entries := List (Yaml.Scalar × Yaml.Datum)

/-- What an entry with a text as its key holds. -/
def valueAt? (entries : Entries) (key : String) : Option Yaml.Datum :=
  (entries.find? fun entry => entry.1.same (.value (.text key))).map (·.2)

/-- The sections of a rules file, among which there must be that of the forms. -/
def sections (file : RulesFile) : Except Failure Entries := do
  match ← file.document with
  | .mapping entries =>
      if (valueAt? entries "forms").isSome then
        return entries
      else
        throw (.rulesFile .formsMissing)
  | _ => throw (.rulesFile .formsMissing)

/-- The text of a key. -/
def keyText (key : Yaml.Scalar) : Except Failure String :=
  match key.text? with
  | some text => .ok text
  | none => .error .integerTooLong

/-! ## Forms -/

/-- Every rule that clauses name is known. -/
def checkNames (registry : Registry) : List Clause → Except Mistake Unit
  | [] => .ok ()
  | clause :: rest => do
      let _ ← registry.lookup clause.name
      checkNames registry rest

/-- The expression of a field; no expression counts as the empty one. -/
def expressionOf (registry : Registry) (form field : Yaml.Scalar) :
    Yaml.Datum → Except Failure String
  | .scalar (.value .null) => .ok ""
  | .scalar (.value (.text expression)) => do
      let clauses ← (Expression.read expression).mapError Failure.mistake
      (checkNames registry clauses).mapError Failure.mistake
      return expression
  | _ => do throw (.rulesFile (.expressionNotText (← keyText form) (← keyText field)))

def fieldsOf (registry : Registry) (form : Yaml.Scalar) (sofar : Table String) :
    Entries → Except Failure (Table String)
  | [] => .ok sofar
  | (key, datum) :: rest => do
      let field ← keyText key
      let expression ← expressionOf registry form key datum
      fieldsOf registry form (sofar.insert field expression) rest

def formsOf (registry : Registry) (sofar : Table (Table String)) :
    Entries → Except Failure (Table (Table String))
  | [] => .ok sofar
  | (form, .mapping entries) :: rest => do
      let fields ← fieldsOf registry form .empty entries
      formsOf registry (sofar.insert (← keyText form) fields) rest
  | (form, _) :: _ => do throw (.rulesFile (.formNotMapping (← keyText form)))

def forms (file : RulesFile) (registry : Registry) : Except Failure (Table (Table String)) := do
  match valueAt? (← file.sections) "forms" with
  | some (.mapping entries) => formsOf registry .empty entries
  | _ => throw (.rulesFile .formsNotMapping)

/-- One form of a rules file.  All forms are checked. -/
def form (file : RulesFile) (name : String) (registry : Registry) :
    Except Failure (Table String) := do
  match (← file.forms registry).get? name with
  | some fields => return fields
  | none => throw (.rulesFile (.formUndefined name file.path))

/-! ## Messages and labels -/

/-- A section counts as empty when it is not there or counts as false. -/
def sectionEntries (name : String) : Option Yaml.Datum → Except Failure Entries
  | none => .ok []
  | some (.mapping entries) => .ok entries
  | some (.collection true) => .ok []
  | some (.collection false) => .error (.rulesFile (.sectionNotMapping name))
  | some (.scalar scalar) =>
      if scalar.truth then .error (.rulesFile (.sectionNotMapping name)) else .ok []

/-- The texts among the values of a section; there must be no others. -/
def textEntries (name : String) : Entries → Except Failure (List (Yaml.Scalar × String))
  | [] => .ok []
  | (key, .scalar (.value (.text text))) :: rest => do
      return (key, text) :: (← textEntries name rest)
  | (key, _) :: _ => do throw (.rulesFile (.entryNotText name (← keyText key)))

/-- Texts by the text of their keys, after those met before. -/
def textsOf (sofar : Table String) :
    List (Yaml.Scalar × String) → Except Failure (Table String)
  | [] => .ok sofar
  | (key, text) :: rest => do textsOf (sofar.insert (← keyText key) text) rest

def textSection (file : RulesFile) (name : String) : Except Failure (Table String) := do
  let entries ← sectionEntries name (valueAt? (← file.sections) name)
  textsOf .empty (← textEntries name entries)

def messages (file : RulesFile) : Except Failure (Table String) :=
  file.textSection "messages"

def labels (file : RulesFile) : Except Failure (Table String) :=
  file.textSection "display_names"

def setMessages (registry : Registry) (texts : Table String) : Registry :=
  { registry with
    messages := registry.messages.insertAll (texts.map Message.template).entries }

def setLabels (registry : Registry) (texts : Table String) : Registry :=
  { registry with labels := registry.labels.insertAll (texts.map Value.text).entries }

/-- Put messages and labels into a registry: the registry afterwards, and whether all of
them were put in.  Messages stay when labels cannot be read. -/
def applyTo (file : RulesFile) (registry : Registry) : Registry × Except Failure Unit :=
  match file.messages with
  | .error failure => (registry, .error failure)
  | .ok messages =>
      let changed := setMessages registry messages
      match file.labels with
      | .error failure => (changed, .error failure)
      | .ok labels => (setLabels changed labels, .ok ())

end RulesFile

end FormCheck
