import FormCheck.Control

/-!
# Forms

A form is a row of controls with distinct names.  It begins with one control for every
field of its definition; more can be bound to it.  Validating a form validates the values
of all controls at once and shows every control its error.

A form is submitted only when a validation of all its controls finds no error.  What
becomes of the values then is up to the definition of the form, and may fail.
-/

namespace FormCheck

/-- The answer to a form that was submitted. -/
structure Receipt where
  form : String
  accepted : Bool
  fields : List String
  deriving DecidableEq, Repr

/-- The name of a form, the rule expressions of its fields, and what becomes of values that
are submitted. -/
structure FormDefinition where
  name : String
  rules : Table Value
  accept : Table Value → Traced Event Receipt

namespace FormDefinition

/-- The receipt of values that are submitted. -/
def acknowledge (name : String) (values : Table Value) : Traced Event Receipt := do
  let fields := values.keys
  Journal.write .info .definitions ("Form submitted: " ++ name)
    [("form", .text name), ("fields", .list (fields.map .text))]
  return ⟨name, true, fields⟩

/-- A definition that acknowledges what is submitted. -/
def static (name : String) (rules : Table Value) : FormDefinition :=
  ⟨name, rules, acknowledge name⟩

private def ofTexts (name : String) (rules : List (String × String)) : FormDefinition :=
  static name ((Table.ofList rules).map Value.text)

/-- The form in which users register. -/
def registration : FormDefinition :=
  ofTexts "registration"
    [("name", "required|alpha"), ("email", "required|email"),
      ("password", "required|string|min:6")]

/-- The form in which users identify themselves. -/
def login : FormDefinition :=
  ofTexts "login" [("email", "required|email"), ("password", "required")]

/-- The form in which users ask for a new password. -/
def forgetPassword : FormDefinition :=
  ofTexts "forget_password" [("email", "required|email")]

/-- The definitions that are always there. -/
def builtIn : List FormDefinition :=
  [registration, login, forgetPassword]

/-- The names of the definitions that are always there, in the order of the alphabet. -/
def builtInNames : List String :=
  (builtIn.map name).mergeSort fun left right => decide (left ≤ right)

def builtIn? (name : String) : Option FormDefinition :=
  builtIn.find? fun definition => definition.name == name

end FormDefinition

/-- A form.  `accept` comes from its definition, `registry` belongs to its validator, and
`recorded` says whether the form has the recorder. -/
structure Form where
  name : String
  accept : Table Value → Traced Event Receipt
  registry : Registry
  recorded : Bool
  controls : List Control
  visible : Bool
  lastReport? : Option Report

namespace Form

variable [Host]

def create (definition : FormDefinition) (registry : Registry) (recorded : Bool) : Form where
  name := definition.name
  accept := definition.accept
  registry := registry
  recorded := recorded
  controls := definition.rules.entries.map fun entry =>
    .create entry.1 entry.2 .null recorded none
  visible := true
  lastReport? := none

inductive Action where
  | setValues (values : Table Value)
  | onControl (name : String) (action : Control.Action)
  | validateAll
  | submit
  | bind (control : Control)
  | show
  | hide

inductive Answer where
  | nothing
  | error (error? : Option FieldError)
  | report (report : Report)
  | receipt (receipt? : Option Receipt)

def values (form : Form) : Table Value :=
  .ofList (form.controls.map fun control => (control.name, control.value))

def rules (form : Form) : Table Value :=
  .ofList (form.controls.map fun control => (control.name, control.rules))

def control? (form : Form) (name : String) : Option Control :=
  form.controls.find? fun control => control.name == name

def changeFirst (name : String) (change : Control → Control) : List Control → List Control
  | [] => []
  | control :: rest =>
      if control.name = name then
        change control :: rest
      else
        control :: changeFirst name change rest

def withControl (form : Form) (name : String) (control : Control) : Form :=
  { form with controls := changeFirst name (fun _ => control) form.controls }

/-- No control is invalid. -/
def isValid (form : Form) : Bool :=
  form.controls.all fun control => !control.error

/-- Set values one after another, up to the first name that no control has. -/
def setValues (form : Form) : List (String × Value) → Step Form Unit
  | [] => .idle form ()
  | (name, value) :: rest =>
      match form.control? name with
      | some control => (form.withControl name { control with value := value }).setValues rest
      | none => .refused form (.controlUnknown name)

def onControl (form : Form) (name : String) (action : Control.Action) :
    Step Form (Option FieldError) :=
  match form.control? name with
  | none => .refused form (.controlUnknown name)
  | some control =>
      let performed := control.perform form.registry form.values action
      ⟨form.withControl name performed.after, performed.drawings, performed.traced⟩

/-- Show each control its error, one after another. -/
def applyAll (report : Report) : List Control → Step (List Control) Unit
  | [] => .idle [] ()
  | control :: rest =>
      let first := control.apply (report.errorFor? control.name)
      let others := applyAll report rest
      ⟨first.after :: others.after, first.drawings ++ others.drawings,
        first.traced.andThen fun _ => others.traced⟩

def validateAll (form : Form) : Step Form Report :=
  let validated := Validation.validate form.registry form.values form.rules
  match validated.outcome with
  | .error failure => ⟨form, [], { trace := validated.trace, outcome := .error failure }⟩
  | .ok report =>
      let applied := applyAll report form.controls
      ⟨{ form with controls := applied.after, lastReport? := some report }, applied.drawings, do
        let _ ← validated
        applied.traced
        Journal.write .debug .binding ("Validated form " ++ form.name)
          [("form", .text form.name), ("invalid_fields", .list (report.errors.keys.map .text))]
        return report⟩

/-- Validate all controls, and accept the form when all of them are valid. -/
def submit (form : Form) : Step Form (Option Receipt) :=
  let validated := form.validateAll
  { validated with
    traced := do
      let _ ← validated.traced
      if validated.after.isValid then
        some <$> validated.after.accept validated.after.values
      else
        Journal.write .info .binding ("Submission blocked: " ++ form.name)
          [("form", .text form.name)]
        return none }

/-- Bind a control whose name no other control has. -/
def bind (form : Form) (control : Control) : Step Form Unit :=
  match form.control? control.name with
  | some _ => .refused form (.controlBound control.name form.name)
  | none => .idle { form with controls := form.controls ++ [control] } ()

def setVisible (form : Form) (shown : Bool) : Step Form Unit :=
  ⟨{ form with visible := shown }, if form.recorded then [.visible form.name shown] else [],
    .done ()⟩

def perform (form : Form) : Action → Step Form Answer
  | .setValues values => (form.setValues values.entries).withResult fun _ => .nothing
  | .onControl name action => (form.onControl name action).withResult .error
  | .validateAll => form.validateAll.withResult .report
  | .submit => form.submit.withResult .receipt
  | .bind control => (form.bind control).withResult fun _ => .nothing
  | .show => (form.setVisible true).withResult fun _ => .nothing
  | .hide => (form.setVisible false).withResult fun _ => .nothing

def display (form : Form) : String :=
  "Form(name=" ++ String.ofList (Text.quoted form.name.toList) ++ ", controls="
    ++ String.ofList
      (Value.list (form.controls.map fun control => .text control.name)).literal ++ ")"

end Form

end FormCheck
