import FormCheck.BuiltIn

/-!
# Stock predicates

Ready-made predicates for rules that a registry is to be given besides the built-in
ones.  They cover the ways in which a predicate can behave: with fixed, optional and
any number of arguments, with the record, with notices, with failures.
-/

namespace FormCheck.Predicate

/-- A predicate of the value alone. -/
def ofValue (judge : Value → Traced Notice Bool) : Predicate where
  parameters? := some (.exactly [])
  judge value _ _ := judge value

/-- Always the same verdict. -/
def constant (verdict : Bool) : Predicate :=
  .ofValue fun _ => .done verdict

def truthy : Predicate :=
  .ofValue fun value => .done value.truth

/-- A text with a digit from `'0'` to `'9'` in it. -/
def hasDigit : Predicate :=
  .ofValue fun value =>
    match value with
    | .text characters => .done (characters.toList.any Text.isAsciiDigit)
    | _ => .done false

def oneOf : Predicate where
  parameters? := some ⟨[], [], true, false⟩
  judge value arguments _ := .done (arguments.any fun argument => value.equal (.text argument))

/-- The argument is `yes`, or there is none. -/
def optional : Predicate where
  parameters? := some ⟨[], ["flag"], false, false⟩
  judge _ arguments _ := .done (arguments.all (· == "yes"))

/-- The whole number that an argument writes. -/
def wholeArgument (argument : String) : Except Failure Int :=
  (Numeral.readInteger 10 argument.toList).mapError (.notWhole argument)

/-- The number of characters, octets, items or entries of a value. -/
def count (value : Value) : Except Failure Int :=
  match value.size? with
  | some size => .ok size
  | none => .error (.uncountable value.typeName)

/-- The length of the value lies between two arguments.  The second one is not looked
at when the length is below the first. -/
def lengthBetween : Predicate where
  parameters? := some (.exactly ["low", "high"])
  judge value arguments _ :=
    match arguments with
    | [low, high] => do
        let least ← wholeArgument low
        let length ← count value
        if least ≤ length then
          let greatest ← wholeArgument high
          return length ≤ greatest
        else
          return false
    | _ => .fail (.callUnfit "two arguments are expected")

def differs : Predicate where
  parameters? := some ⟨["other"], [], false, true⟩
  judge value arguments surroundings? :=
    match arguments, surroundings? with
    | [other], some surroundings =>
        .done !(value.equal ((surroundings.get? other).getD .null))
    | _, _ => .fail (.callUnfit "one argument and a record are expected")

def recordSize : Predicate where
  parameters? := some ⟨[], [], false, true⟩
  judge value _ surroundings? :=
    match surroundings? with
    | some surroundings => .done (Value.equal (.integer surroundings.size) value)
    | none => .fail (.callUnfit "a record is expected")

/-- Every value passes, with two notices that are passed on. -/
def warns : Predicate :=
  .ofValue fun _ =>
    { trace := [⟨.general, "careful"⟩, ⟨.deprecation, "old"⟩], outcome := .ok true }

/-- No value passes, and each gives two notices that it is not handled. -/
def unsupported : Predicate :=
  .ofValue fun _ =>
    { trace := [⟨.unsupportedValue "inner", "first notice"⟩,
        ⟨.unsupportedValue "inner", "second notice"⟩]
      outcome := .ok false }

/-- No value can be judged. -/
def boom : Predicate :=
  .ofValue fun _ => .fail (.raised "boom")

/-- Judge as the built-in rule `min` does. -/
def delegateMin : Predicate where
  parameters? := some (.exactly ["bound"])
  judge value arguments _ :=
    match arguments with
    | [bound] => BuiltIn.atLeast value (some bound)
    | _ => .fail (.callUnfit "one argument is expected")

/-- The value counts as true; the predicate sees to its arguments itself. -/
def unchecked : Predicate where
  parameters? := none
  judge value arguments surroundings? :=
    if surroundings?.isSome then
      .fail (.callUnfit "bool() takes no keyword arguments")
    else if arguments.isEmpty then
      .done value.truth
    else
      .fail (.callUnfit
        ("bool expected at most 1 argument, got " ++ toString (arguments.length + 1)))

def stock? : String → Option Predicate
  | "true" => some (constant true)
  | "false" => some (constant false)
  | "truthy" => some truthy
  | "has_digit" => some hasDigit
  | "one_of" => some oneOf
  | "optional" => some optional
  | "len_between" => some lengthBetween
  | "differs" => some differs
  | "record_size" => some recordSize
  | "warns" => some warns
  | "unsupported" => some unsupported
  | "boom" => some boom
  | "delegate_min" => some delegateMin
  | "bool" => some unchecked
  | _ => none

end FormCheck.Predicate
