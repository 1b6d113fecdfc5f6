import FormCheck.Validation

/-!
# Controls

A control is bound to a field: it has the field's name, rule expression and value.  It is
valid or invalid, and may show a hint.  What it shows is told to a recorder as a row of
drawings, if the control has one.

Validating a control runs its own rules only, though they may look at the other fields of
its form.  An invalid control shows the message as a hint; a control that becomes valid
shows none.
-/

namespace FormCheck

/-- What a recorder is told. -/
inductive Drawing where
  | error (control : String) (shown : Bool)
  | hint (control : String) (message : String)
  | noHint (control : String)
  | visible (form : String) (shown : Bool)
  deriving DecidableEq, Repr

/-- What a step leaves behind: the state after it, what the recorder was told, and its
trace and outcome.  A step that fails may have changed the state. -/
structure Step (State α : Type) where
  after : State
  drawings : List Drawing
  traced : Traced Event α

namespace Step

variable {State α β : Type}

def idle (state : State) (result : α) : Step State α :=
  ⟨state, [], .done result⟩

def refused (state : State) (failure : Failure) : Step State α :=
  ⟨state, [], .fail failure⟩

def withResult (step : Step State α) (result : α → β) : Step State β :=
  ⟨step.after, step.drawings, step.traced.andThen fun given => .done (result given)⟩

end Step

/-- A control.  `recorded` says whether it has the recorder, and `own?` is the
registry of the validator that it has for itself. -/
structure Control where
  name : String
  rules : Value
  value : Value
  recorded : Bool
  own? : Option Registry
  error : Bool
  hint? : Option String
  deriving Inhabited

namespace Control

variable [Host]

/-- A control that is valid and shows no hint. -/
def create (name : String) (rules value : Value) (recorded : Bool)
    (own? : Option Registry) : Control :=
  ⟨name, rules, value, recorded, own?, false, none⟩

inductive Action where
  | setValue (value : Value)
  | setRules (rules : Value)
  | apply (error? : Option FieldError)
  | makeHint (message : Value)
  | removeHint
  | blur

/-- Drawings of the control, which only its recorder sees. -/
def drawn (control : Control) (drawings : List Drawing) : List Drawing :=
  if control.recorded then drawings else []

def showHint (control : Control) (message : String) : Step Control Unit :=
  ⟨{ control with hint? := some message }, control.drawn [.hint control.name message],
    .done ()⟩

def removeHint (control : Control) : Step Control Unit :=
  match control.hint? with
  | none => .idle control ()
  | some _ =>
      ⟨{ control with hint? := none }, control.drawn [.noHint control.name], .done ()⟩

/-- Make the control invalid, with a hint, or valid. -/
def apply (control : Control) : Option FieldError → Step Control Unit
  | some error =>
      let shown := { control with error := true }.showHint error.message
      { shown with drawings := control.drawn [.error control.name true] ++ shown.drawings }
  | none =>
      let cleared := { control with error := false }.removeHint
      { cleared with
        drawings := control.drawn [.error control.name false] ++ cleared.drawings
        traced := do
          if control.error then
            Journal.write .debug .binding ("Control became valid: " ++ control.name)
              [("field", .text control.name)] }

/-- Validate the control.  `registry` is used unless the control has its own, and
`siblings` are the values of the other fields. -/
def blur (control : Control) (registry : Registry) (siblings : Table Value) :
    Step Control (Option FieldError) :=
  let validated := Validation.validateField (control.own?.getD registry) control.name
    control.value control.rules siblings
  match validated.outcome with
  | .error failure => ⟨control, [], { trace := validated.trace, outcome := .error failure }⟩
  | .ok report =>
      let error? := report.errorFor? control.name
      let applied := control.apply error?
      { applied with
        traced := { trace := validated.trace ++ applied.traced.trace, outcome := .ok error? } }

def perform (control : Control) (registry : Registry) (siblings : Table Value) :
    Action → Step Control (Option FieldError)
  | .setValue value => .idle { control with value := value } none
  | .setRules rules => .idle { control with rules := rules } none
  | .apply error? => (control.apply error?).withResult fun _ => none
  | .makeHint (.text message) => (control.showHint message).withResult fun _ => none
  | .makeHint other =>
      .refused control (.mistake (.hintNotText control.name other.typeName))
  | .removeHint => control.removeHint.withResult fun _ => none
  | .blur => control.blur registry siblings

def display (control : Control) : String :=
  "FormControl(name=" ++ String.ofList (Text.quoted control.name.toList) ++ ", rules="
    ++ String.ofList control.rules.literal ++ ", error="
    ++ (if control.error then "True" else "False") ++ ")"

end Control

end FormCheck
