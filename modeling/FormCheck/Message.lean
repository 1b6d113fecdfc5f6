import FormCheck.BuiltIn
import FormCheck.Template.Fault

/-!
# Messages

A message says what is wrong with a value.  It is a template, or it is composed by
a function of the value and the arguments of the rule.  Callers offer messages as
values: a text is taken as a template, and anything else but a function is refused.

Every built-in rule has a message.  The messages of `min` and `max` speak of numbers
or of characters, and the message of `equals` names the other field by its label.
-/

namespace FormCheck

inductive Message where
  | template (text : String)
  | composed (compose : Value → List String → Except Failure Value)

/-- What a caller offers as a message. -/
inductive MessageOffer where
  | value (value : Value)
  | composed (compose : Value → List String → Except Failure Value)

/-- The message that is offered, if one is; `rule` is the rule it is offered for. -/
def MessageOffer.accept (rule : String) : MessageOffer → Except Mistake (Option Message)
  | .value .null => .ok none
  | .value (.text characters) => .ok (some (.template characters))
  | .value other => .error (.messageUnusable rule other.typeName)
  | .composed compose => .ok (some (.composed compose))

namespace Message

/-- Render the message of a rule.  A template that asks for more than the arguments
and the value offer, and a function that gives no text, are mistakes of the rule. -/
def render [Host] (rule : String) (message : Message) (value : Value) (arguments : List String) :
    Except Failure String :=
  match message with
  | .template text =>
      match Template.render text.toList ⟨arguments, value⟩ with
      | .ok rendered => .ok (String.ofList rendered)
      | .error fault =>
          if fault.isMissingPart then
            .error (.mistake (.messageUnrendered rule text fault))
          else
            .error (.template fault)
  | .composed compose =>
      match compose value arguments with
      | .ok (.text rendered) => .ok rendered
      | .ok other => .error (.mistake (.messageNotText rule other.typeName))
      | .error failure => .error failure

/-- The message of a rule for which there is no other. -/
def generic : Message :=
  .template "The field is invalid"

/-- A message with at most one argument, which counts as empty when it is left out. -/
def withArgument (compose : Value → String → Except Failure String) : Message :=
  .composed fun value arguments =>
    match arguments with
    | [] => (compose value "").map .text
    | [argument] => (compose value argument).map .text
    | _ => .error (.callUnfit "the message takes at most one argument")

def aboutSize (comparison : String) : Message :=
  withArgument fun value bound =>
    if value.kind = .number then
      .ok ("The number must be " ++ comparison ++ " " ++ bound)
    else
      .ok ("The value must be " ++ comparison ++ " " ++ bound ++ " characters long")

/-- The message of the rule that compares fields; `label` gives the label of a field. -/
def aboutField (label : String → Value) : Message :=
  withArgument fun _ field =>
    if (label field).isWritable then
      .ok ("This field must match " ++ String.ofList (label field).display)
    else
      .error .integerTooLong

def ofBuiltIn (label : String → Value) : BuiltIn → Message
  | .required => .template "This field is required"
  | .string => .template "This field must be a string"
  | .email => .template "This field must be a valid email address"
  | .number | .numeric => .template "This field must be a number"
  | .alpha => .template "This field may only contain letters"
  | .min => aboutSize "at least"
  | .max => aboutSize "at most"
  | .equals => aboutField label

end Message

/-- The labels that fields have unless they are given others. -/
def commonLabel? : String → Option String
  | "name" => some "Name"
  | "email" => some "Email"
  | "password" => some "Password"
  | _ => none

/-- The label of a field; a field without one is called by its name. -/
def labelOf (labels : Table Value) (field : String) : Value :=
  match labels.get? field with
  | some label => label
  | none => .text ((commonLabel? field).getD field)

end FormCheck
