import FormCheck.Notice
import FormCheck.Table
import FormCheck.Traced
import FormCheck.Value

/-!
# Predicates

A predicate judges the value of a field.  It gets the value, the arguments of the
clause, and, when its rule looks at other fields, the record that the value stands
in.  It may give notices, and it may fail.

Most predicates tell which arguments they take (`Parameters`), so a call with the
wrong ones is found out before the predicate is asked.
-/

namespace FormCheck

/-- What a predicate takes besides the value: arguments that must be there, arguments
that may be there, any number of further ones, and the record. -/
structure Parameters where
  required : List String
  optional : List String
  furtherAllowed : Bool
  takesRecord : Bool
  deriving DecidableEq, Repr

namespace Parameters

/-- Arguments that must be there, and nothing else. -/
def exactly (names : List String) : Parameters :=
  ⟨names, [], false, false⟩

/-- What is wrong with a number of arguments.  Surplus arguments are reported first,
then missing ones, then a record that is not wanted. -/
def faultOf (parameters : Parameters) (count : Nat) (withRecord : Bool) : Option ArgumentFault :=
  if !parameters.furtherAllowed && parameters.required.length + parameters.optional.length < count
  then
    some .tooMany
  else
    match parameters.required[count]? with
    | some name => some (.missing name)
    | none =>
        if parameters.takesRecord && !withRecord then
          some (.missing "record")
        else if withRecord && !parameters.takesRecord then
          some (.unexpected "record")
        else
          none

end Parameters

/-- A way to judge values.  Without parameters, a predicate sees to its arguments
itself. -/
structure Predicate where
  parameters? : Option Parameters
  judge : Value → List String → Option (Table Value) → Traced Notice Bool

end FormCheck
