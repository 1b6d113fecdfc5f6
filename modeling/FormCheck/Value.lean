import FormCheck.Number.Binary64

/-!
# Values of form fields

A field holds a value of one of nine shapes.  Rules do not look at shapes but at
kinds, of which there are seven: the two shapes of numbers are one kind, and so
are lists and tuples.  A truth value is a kind of its own and no number, though
it counts as one or zero where values are compared.
-/

namespace FormCheck

/-- The value of a field. -/
inductive Value where
  | null
  | boolean (truth : Bool)
  | integer (number : Int)
  | real (number : Binary64)
  | text (characters : String)
  | octets (content : List UInt8)
  | list (items : List Value)
  | tuple (items : List Value)
  | record (entries : List (Value × Value))
  deriving Inhabited

/-- What rules tell apart. -/
inductive Kind where
  | string
  | number
  | boolean
  | list
  | record
  | null
  | other
  deriving DecidableEq, Repr

namespace Kind

def name : Kind → String
  | .string => "string"
  | .number => "number"
  | .boolean => "boolean"
  | .list => "list"
  | .record => "record"
  | .null => "null"
  | .other => "other"

end Kind

namespace Value

def kind : Value → Kind
  | .null => .null
  | .boolean _ => .boolean
  | .integer _ | .real _ => .number
  | .text _ => .string
  | .octets _ => .other
  | .list _ | .tuple _ => .list
  | .record _ => .record

/-- The word for the shape of a value in messages. -/
def typeName : Value → String
  | .null => "NoneType"
  | .boolean _ => "bool"
  | .integer _ => "int"
  | .real _ => "float"
  | .text _ => "str"
  | .octets _ => "bytes"
  | .list _ => "list"
  | .tuple _ => "tuple"
  | .record _ => "dict"

/-- The number of characters, octets, items or entries, where there are any to
count. -/
def size? : Value → Option Nat
  | .text characters => some characters.length
  | .octets content => some content.length
  | .list items | .tuple items => some items.length
  | .record entries => some entries.length
  | _ => none

/-- A value counts as true unless it is null, false, zero or empty. -/
def truth : Value → Bool
  | .null => false
  | .boolean truth => truth
  | .integer number => number != 0
  | .real number => !number.isZero
  | value => value.size? != some 0

mutual

/-- The value can be looked up by: it has no list and no record in it. -/
def isKey : Value → Bool
  | .list _ | .record _ => false
  | .tuple items => areKeys items
  | _ => true

/-- Every value can be looked up by. -/
def areKeys : List Value → Bool
  | [] => true
  | item :: rest => item.isKey && areKeys rest

end

/-- The shape of the first part that cannot be looked up by, where there is one. -/
def firstUnkeyed : Value → Option Value
  | .tuple items => firstUnkeyedIn items
  | value => if value.isKey then none else some value
where
  firstUnkeyedIn : List Value → Option Value
    | [] => none
    | item :: rest =>
        match firstUnkeyed item with
        | some found => some found
        | none => firstUnkeyedIn rest

/-- The place of a number on the line; a truth value counts as one or zero. -/
def position? : Value → Option Position
  | .boolean truth => some (.ofInt (if truth then 1 else 0))
  | .integer number => some (.ofInt number)
  | .real number => number.position?
  | _ => none

mutual

/-- Two values are the same: numbers by their place on the line, texts and octets
by their characters, lists and tuples item by item, records by their entries in
any order.  What is not a number is the same only where it is the same object. -/
def same : Value → Value → Bool
  | .null, .null => true
  | .integer left, .integer right => left == right
  | .text left, .text right => left == right
  | .octets left, .octets right => left == right
  | .list left, .list right => sameItems left right
  | .tuple left, .tuple right => sameItems left right
  | .record left, .record right => left.length == right.length && hasEntries right left
  | .real (.nan left), .real (.nan right) => left == right
  | left, right =>
      match left.position?, right.position? with
      | some leftPosition, some rightPosition => leftPosition == rightPosition
      | _, _ => false

def sameItems : List Value → List Value → Bool
  | [], [] => true
  | left :: lefts, right :: rights => left.same right && sameItems lefts rights
  | _, _ => false

/-- A record has every entry of a list. -/
def hasEntries (record : List (Value × Value)) : List (Value × Value) → Bool
  | [] => true
  | (key, value) :: rest =>
      (match record.find? fun entry => key.same entry.1 with
        | some entry => value.same entry.2
        | none => false) &&
        hasEntries record rest

end

def isNan : Value → Bool
  | .real number => number.isNan
  | _ => false

/-- Two values are equal.  What is not a number does not equal itself, though a list
that holds it does. -/
def equal (left right : Value) : Bool :=
  left.same right && !left.isNan

/-- Add an entry to a record: the same key keeps its place and gets the new
value, a new key goes to the end. -/
def putEntry (entries : List (Value × Value)) (key value : Value) : List (Value × Value) :=
  match entries with
  | [] => [(key, value)]
  | (known, old) :: rest =>
      if known.same key then
        (known, value) :: rest
      else
        (known, old) :: putEntry rest key value

/-- The record that arises from adding entries one after another. -/
def recordOf (entries : List (Value × Value)) : Value :=
  .record (entries.foldl (fun sofar entry => putEntry sofar entry.1 entry.2) [])

/-- The value a record has under a key. -/
def valueAt? (entries : List (Value × Value)) (key : Value) : Option Value :=
  (entries.find? fun entry => key.same entry.1).map (·.2)

end Value

end FormCheck
