/-!
# Notices

A predicate may give notices while it looks at a value.  A notice that the value
is of an unsupported type ends up in the report of the validation; all others are
passed on to whoever asked for it.  Predicates that callers supply may give notices
of categories of their own.
-/

namespace FormCheck

inductive Notice.Category where
  | unsupportedValue (rule : String)
  | general
  | deprecation
  | supplied (name : String)
  deriving DecidableEq, Repr

/-- A notice, with its words. -/
structure Notice where
  category : Notice.Category
  text : String
  deriving DecidableEq, Repr

namespace Notice

def Category.name : Category → String
  | .unsupportedValue _ => "UnsupportedValueWarning"
  | .general => "UserWarning"
  | .deprecation => "DeprecationWarning"
  | .supplied name => name

/-- The notice is about a value of an unsupported type. -/
def isUnsupportedValue (notice : Notice) : Bool :=
  match notice.category with
  | .unsupportedValue _ => true
  | _ => false

end Notice

end FormCheck
