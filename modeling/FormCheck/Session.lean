import FormCheck.Validation

/-!
# Sessions

A session holds several registries, one of which is the current one, and it may keep
a validator.  Changes concern the current registry.  A copy is a registry of its own.

A validator that is made without messages uses the registry it was made from, as that
registry is at the time of each validation.  A validator that is made with messages has
a registry of its own, which later changes do not reach.
-/

namespace FormCheck

/-- The registry that a validator uses: one of the session's, or its own. -/
inductive KeptValidator where
  | shared (index : Nat)
  | own (registry : Registry)

/-- Registries, the number of the current one, and the validator that is kept. -/
structure Session where
  registries : List Registry
  current : Nat
  validator? : Option KeptValidator

namespace Session

inductive Change where
  | register (name : String) (predicate? : Option Predicate) (offer : MessageOffer)
      (looksAtRecord : Bool)
  | setMessage (rule : String) (offer : MessageOffer)
  | setLabel (field : String) (label : Value)
  | copy
  | select (index : Nat)
  | keepValidator (messages : Table MessageOffer)

/-- The session that begins with a registry. -/
def start (registry : Registry) : Session :=
  ⟨[registry], 0, none⟩

def registry (session : Session) (index : Nat) : Registry :=
  session.registries[index]?.getD .builtIn

def currentRegistry (session : Session) : Registry :=
  session.registry session.current

/-- The session with another current registry in the place of the present one. -/
def withCurrent (session : Session) (registry : Registry) : Session :=
  { session with registries := session.registries.set session.current registry }

def validatorWith (session : Session) (messages : Table MessageOffer) :
    Except Mistake KeptValidator :=
  if messages.isEmpty then
    .ok (.shared session.current)
  else
    let (own, outcome) := session.currentRegistry.setMessages messages.entries
    outcome.map fun _ => .own own

/-- The registry that a validator uses now. -/
def registryOf (session : Session) : KeptValidator → Registry
  | .shared index => session.registry index
  | .own registry => registry

/-- Make a change: the session afterwards, and the trace and outcome. -/
def apply (session : Session) : Change → Session × Traced Event Unit
  | .register name predicate? offer looksAtRecord =>
      let (changed, traced) :=
        session.currentRegistry.register name predicate? offer looksAtRecord
      (session.withCurrent changed, traced)
  | .setMessage rule offer =>
      let (changed, outcome) := session.currentRegistry.setMessage rule offer
      (session.withCurrent changed, .ofExcept (outcome.mapError Failure.mistake))
  | .setLabel field label =>
      (session.withCurrent (session.currentRegistry.setLabel field label), .done ())
  | .copy =>
      ({ session with
        registries := session.registries ++ [session.currentRegistry]
        current := session.registries.length }, .done ())
  | .select index => ({ session with current := index }, .done ())
  | .keepValidator messages =>
      match session.validatorWith messages with
      | .ok validator => ({ session with validator? := some validator }, .done ())
      | .error mistake => (session, .fail (.mistake mistake))

/-- Validate with the validator that is kept, or else with the current registry. -/
def validate [Host] (session : Session) (record rules : Table Value) : Traced Event Report :=
  let registry :=
    match session.validator? with
    | some validator => session.registryOf validator
    | none => session.currentRegistry
  Validation.validate registry record rules

end Session

end FormCheck
