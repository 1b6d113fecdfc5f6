import FormCheck.Journal
import FormCheck.Message

/-!
# Registries of rules

A registry knows the built-in rules, and it may be given further rules, messages in
place of those that rules have, and labels of fields.  No rule may take the name of a
built-in rule; a rule that takes the name of an earlier one replaces it.

The message of a rule is the one set for its name, or else the one that the rule came
with, or else that of the built-in rule, or else a generic one.
-/

namespace FormCheck

/-- A rule: its name, how it judges, the message it came with, and whether it looks at
the whole record. -/
structure Rule where
  name : String
  predicate : Predicate
  message? : Option Message
  looksAtRecord : Bool

namespace Rule

def ofBuiltIn (rule : BuiltIn) : Rule where
  name := rule.name
  predicate := rule.predicate
  message? := none
  looksAtRecord := rule.looksAtRecord

/-- Judge a value.  Arguments that the predicate does not take are a mistake of the
rule. -/
def check (rule : Rule) (value : Value) (arguments : List String) (surroundings : Table Value) :
    Traced Notice Bool :=
  let given? := if rule.looksAtRecord then some surroundings else none
  let fault? := rule.predicate.parameters?.bind fun parameters =>
    parameters.faultOf arguments.length given?.isSome
  match fault? with
  | some fault => .fail (.mistake (.argumentsUnfit rule.name arguments fault))
  | none => rule.predicate.judge value arguments given?

end Rule

/-- The rules, messages and labels that were added to the built-in ones. -/
structure Registry where
  rules : Table Rule
  messages : Table Message
  labels : Table Value
  deriving Inhabited

namespace Registry

/-- The registry with nothing but the built-in rules. -/
def builtIn : Registry :=
  ⟨.empty, .empty, .empty⟩

def rule? (registry : Registry) (name : String) : Option Rule :=
  match registry.rules.get? name with
  | some rule => some rule
  | none => (BuiltIn.ofName? name).map Rule.ofBuiltIn

def lookup (registry : Registry) (name : String) : Except Mistake Rule :=
  match registry.rule? name with
  | some rule => .ok rule
  | none => .error (.unknownRule name)

def contains (registry : Registry) (name : String) : Bool :=
  (registry.rule? name).isSome

/-- The names of the rules that were added, in the order in which they first came. -/
def addedNames (registry : Registry) : List String :=
  registry.rules.keys.filter fun name => (BuiltIn.ofName? name).isNone

def names (registry : Registry) : List String :=
  BuiltIn.all.map BuiltIn.name ++ registry.addedNames

/-- Set the message of a rule: the registry afterwards, and whether the message was
accepted. -/
def setMessage (registry : Registry) (rule : String) (offer : MessageOffer) :
    Registry × Except Mistake Unit :=
  match offer.accept rule with
  | .ok (some message) =>
      ({ registry with messages := registry.messages.insert rule message }, .ok ())
  | .ok none => (registry, .error (.messageUnusable rule Value.null.typeName))
  | .error mistake => (registry, .error mistake)

/-- Set messages up to the first one that is refused. -/
def setMessages (registry : Registry) :
    List (String × MessageOffer) → Registry × Except Mistake Unit
  | [] => (registry, .ok ())
  | (rule, offer) :: rest =>
      match registry.setMessage rule offer with
      | (changed, .ok ()) => changed.setMessages rest
      | (changed, .error mistake) => (changed, .error mistake)

def setLabel (registry : Registry) (field : String) (label : Value) : Registry :=
  { registry with labels := registry.labels.insert field label }

/-- The registry of the built-in rules with messages and labels. -/
def create (messages : Table MessageOffer) (labels : Table Value) : Except Mistake Registry :=
  let (created, outcome) :=
    ({ builtIn with labels := labels } : Registry).setMessages messages.entries
  outcome.map fun _ => created

def label (registry : Registry) (field : String) : Value :=
  labelOf registry.labels field

/-- Add a rule: the registry afterwards, and the trace and outcome.  What cannot be called
is no predicate. -/
def register (registry : Registry) (name : String) (predicate? : Option Predicate)
    (offer : MessageOffer) (looksAtRecord : Bool) : Registry × Traced Event Unit :=
  if (BuiltIn.ofName? name).isSome then
    (registry, .fail (.mistake (.duplicateRule name)))
  else
    match predicate?, offer.accept name with
    | none, _ => (registry, .fail (.predicateNotCallable name))
    | _, .error mistake => (registry, .fail (.mistake mistake))
    | some predicate, .ok message? =>
        let definition : Rule := ⟨name, predicate, message?, looksAtRecord⟩
        ({ registry with rules := registry.rules.insert name definition }, do
          if registry.rules.contains name then
            Journal.write .warning .registry ("Replacing custom rule \"" ++ name ++ "\"")
              [("rule", .text name)]
          Journal.write .debug .registry ("Registered custom rule \"" ++ name ++ "\"")
            [("rule", .text name), ("cross_field", .boolean looksAtRecord)])

def messageFor (registry : Registry) (name : String) : Message :=
  match registry.messages.get? name with
  | some message => message
  | none =>
      match (registry.rules.get? name).bind Rule.message? with
      | some message => message
      | none =>
          match BuiltIn.ofName? name with
          | some rule => .ofBuiltIn registry.label rule
          | none => .generic

def renderMessage [Host] (registry : Registry) (name : String) (value : Value)
    (arguments : List String) : Except Failure String :=
  (registry.messageFor name).render name value arguments

end Registry

end FormCheck
