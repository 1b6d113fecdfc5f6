import FormCheck.Mailbox
import FormCheck.Number.Numeral
import FormCheck.Predicate
import FormCheck.Text.Case
import FormCheck.Value.Display

/-!
# Built-in rules

Nine rules are always there.  `required` asks whether there is a value at all,
`string`, `number`, `numeric`, `alpha` and `email` ask what it looks like, `min`
and `max` compare its size with a bound, and `equals` compares it with another
field.

The size of a text is its number of characters and the size of a number is the
number itself.  Other values have no size: `min` and `max` let them pass and give a
notice.
-/

namespace FormCheck

/-- The names of the built-in rules. -/
inductive BuiltIn where
  | required
  | string
  | number
  | numeric
  | alpha
  | email
  | min
  | max
  | equals
  deriving DecidableEq, Repr

namespace BuiltIn

def name : BuiltIn → String
  | .required => "required"
  | .string => "string"
  | .number => "number"
  | .numeric => "numeric"
  | .alpha => "alpha"
  | .email => "email"
  | .min => "min"
  | .max => "max"
  | .equals => "equals"

def all : List BuiltIn :=
  [.required, .string, .number, .numeric, .alpha, .email, .min, .max, .equals]

def ofName? (name : String) : Option BuiltIn :=
  all.find? fun rule => rule.name == name

@[simp]
theorem ofName?_name (rule : BuiltIn) : ofName? rule.name = some rule := by
  cases rule <;> decide

theorem ofName?_eq_some_iff {name : String} {rule : BuiltIn} :
    ofName? name = some rule ↔ name = rule.name := by
  constructor
  · intro found
    unfold ofName? at found
    have same : (rule.name == name) = true :=
      List.find?_some (p := fun known : BuiltIn => known.name == name) found
    exact (beq_iff_eq.mp same).symm
  · rintro rfl
    exact ofName?_name rule

def looksAtRecord (rule : BuiltIn) : Bool :=
  rule == .equals

/-- The arguments that a rule takes. -/
def parameters : BuiltIn → Parameters
  | .min | .max => ⟨[], ["bound"], false, false⟩
  | .equals => ⟨["other_field"], [], false, true⟩
  | _ => .exactly []

/-! ## What a value looks like -/

/-- There is a value: neither nothing nor an empty text, list or record. -/
def isPresent (value : Value) : Bool :=
  match value.kind with
  | .null => false
  | .string | .list | .record => value.size? != some 0
  | _ => true

/-- A text that begins, after blanks, with a whole number. -/
def startsWithInteger (text : List Char) : Bool :=
  match text.dropWhile Text.isBlank with
  | [] => false
  | first :: rest =>
      if first = '+' ∨ first = '-' then
        (rest.head?.map Text.isAsciiDigit).getD false
      else
        Text.isAsciiDigit first

/-- A number, or a text that begins with one. -/
def isNumeric : Value → Bool
  | .integer _ | .real _ => true
  | .text characters => startsWithInteger characters.toList
  | _ => false

/-- A Latin letter without marks or a letter of the Russian alphabet. -/
def isAlphaChar (c : Char) : Bool :=
  Mailbox.isLetter c || ('А' ≤ c && c ≤ 'я') || c == 'Ё' || c == 'ё'

/-- A text of letters. -/
def isAlpha : Value → Bool
  | .text characters => characters.toList.all isAlphaChar
  | _ => false

/-- A value that is displayed as a mailbox when capital letters are made small. -/
def isEmail (value : Value) : Bool :=
  Mailbox.accepts (Text.lower value.display)

/-! ## Bounds -/

/-- The bound that an argument writes. -/
def readBound (rule : String) : Option String → Except Mistake Binary64
  | none | some "" => .error (.boundMissing rule)
  | some written =>
      match Binary64.read? written.toList with
      | some bound => .ok bound
      | none => .error (.boundNotNumeric rule written)

/-- The place of the size of a value on the line of numbers; no place for what is
not a number. -/
inductive Measure where
  | size (place? : Option Position)
  | unsupported
  deriving DecidableEq, Repr

def measure : Value → Measure
  | .text characters => .size (some (.ofInt characters.length))
  | .integer whole => .size (some (.ofInt whole))
  | .real real => .size real.position?
  | _ => .unsupported

/-- The notice for a value without a size. -/
def unsupportedNotice (rule : String) (value : Value) : Notice where
  category := .unsupportedValue rule
  text := "The \"" ++ rule ++ "\" rule works only with types: string, number (got "
    ++ value.kind.name ++ ")"

/-- Two places that are both there and in order. -/
def inOrder : Option Position → Option Position → Bool
  | some left, some right => left.le right
  | _, _ => false

/-- Compare the size of a value with the bound that an argument writes. -/
def compare (rule : String) (holds : Option Position → Option Position → Bool) (value : Value)
    (written? : Option String) : Traced Notice Bool :=
  match readBound rule written? with
  | .error mistake => .fail (.mistake mistake)
  | .ok bound =>
      match measure value with
      | .size place? => .done (holds place? bound.position?)
      | .unsupported =>
          { trace := [unsupportedNotice rule value], outcome := .ok true }

def atLeast (value : Value) (written? : Option String) : Traced Notice Bool :=
  compare "min" (fun size bound => inOrder bound size) value written?

def atMost (value : Value) (written? : Option String) : Traced Notice Bool :=
  compare "max" inOrder value written?

/-! ## Other fields -/

/-- A value has the kind of another field and equals it.  A field that is not there
holds nothing. -/
def agreesWith (value : Value) (other? : Option String) (surroundings : Table Value) : Bool :=
  let other := (other?.bind surroundings.get?).getD .null
  value.kind == other.kind && value.equal other

/-! ## Judging -/

/-- Judge a value by a built-in rule.  An argument may be left out explicitly. -/
def judge (rule : BuiltIn) (value : Value) (arguments : List (Option String))
    (surroundings? : Option (Table Value)) : Traced Notice Bool :=
  match rule, arguments, surroundings? with
  | .required, [], none => .done (isPresent value)
  | .string, [], none => .done (value.kind == .string)
  | .number, [], none => .done (value.kind == .number)
  | .numeric, [], none => .done (isNumeric value)
  | .alpha, [], none => .done (isAlpha value)
  | .email, [], none => .done (isEmail value)
  | .min, [], none => atLeast value none
  | .min, [bound], none => atLeast value bound
  | .max, [], none => atMost value none
  | .max, [bound], none => atMost value bound
  | .equals, [other], some surroundings => .done (agreesWith value other surroundings)
  | _, _, _ => .fail (.callUnfit (rule.name ++ "() got arguments that it does not take"))

def predicate (rule : BuiltIn) : Predicate where
  parameters? := some rule.parameters
  judge value arguments surroundings? := rule.judge value (arguments.map some) surroundings?

end BuiltIn

end FormCheck
