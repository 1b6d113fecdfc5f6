/-!
# Numbers of 64 bits

A finite floating-point number of 64 bits is a whole multiple of the least
positive one, the quantum `2 ^ -1074`.  It is kept as its sign and the number of
quanta, so zero has two signs and every comparison is one of whole numbers.  A
ratio becomes a number of 64 bits by rounding it once, to the nearest one, and
to the one with an even significand when two are equally near.

Whole numbers and numbers of 64 bits meet on one line, `Position`: nothing is
rounded when they are compared.

What is not a number has no place on the line.  It is an object by itself, under a
number of its own: held in two places it is the same in both, although it does not
count as equal to anything.
-/

namespace FormCheck

/-- A floating-point number of 64 bits. -/
inductive Binary64 where
  | nan (object : Nat)
  | infinite (negative : Bool)
  | finite (negative : Bool) (quanta : Nat)
  deriving DecidableEq, Repr, Inhabited

/-- A place on the line of numbers, measured in quanta. -/
inductive Position where
  | below
  | at (quanta : Int)
  | above
  deriving DecidableEq, Repr

/-- The nearest whole number to a ratio; a half goes to the even neighbour. -/
def roundHalfEven (numerator denominator : Nat) : Nat :=
  let quotient := numerator / denominator
  let remainder := numerator % denominator
  if 2 * remainder < denominator then
    quotient
  else if denominator < 2 * remainder then
    quotient + 1
  else
    quotient + quotient % 2

namespace Position

def le : Position → Position → Bool
  | .below, _ => true
  | _, .above => true
  | .at left, .at right => left ≤ right
  | _, _ => false

/-- Quanta in one unit. -/
def unit : Nat := Nat.pow 2 1074

def ofInt (number : Int) : Position :=
  .at (number * unit)

theorem le_refl (position : Position) : position.le position = true := by
  cases position <;> simp [le]

theorem le_total (left right : Position) :
    left.le right = true ∨ right.le left = true := by
  cases left with
  | below =>
      exact .inl rfl
  | above =>
      right
      cases right <;> rfl
  | «at» quanta =>
      cases right with
      | below | above =>
          simp [le]
      | «at» others =>
          simpa [le] using Int.le_total quanta others

theorem le_antisymm {left right : Position}
    (forward : left.le right = true) (backward : right.le left = true) :
    left = right := by
  cases left with
  | below | above =>
      cases right <;> simp_all [le]
  | «at» quanta =>
      cases right with
      | below | above =>
          simp [le] at forward backward
      | «at» others =>
          simp only [le, decide_eq_true_eq] at forward backward
          exact congrArg Position.at (Int.le_antisymm forward backward)

theorem unit_pos : 0 < unit := by
  decide +kernel

/-- Whole numbers have their own places. -/
theorem ofInt_eq_ofInt_iff {left right : Int} : ofInt left = ofInt right ↔ left = right := by
  have nonzero : (unit : Int) ≠ 0 := Int.natCast_ne_zero.mpr (Nat.pos_iff_ne_zero.mp unit_pos)
  rw [ofInt, ofInt, Position.at.injEq]
  exact Int.mul_eq_mul_right_iff nonzero

theorem ofInt_le_ofInt_iff {left right : Int} :
    (ofInt left).le (ofInt right) = true ↔ left ≤ right := by
  have positive : (0 : Int) < unit := Int.natCast_pos.mpr unit_pos
  rw [ofInt, ofInt, le, decide_eq_true_iff]
  exact Int.mul_le_mul_iff_of_pos_right positive

end Position

namespace Binary64

/-- Significands have 53 bits. -/
def precision : Nat := 53

/-- One more than the quanta of the greatest finite number. -/
def limit : Nat := Nat.pow 2 (1024 + 1074)

/-- The distance, in quanta, from a number of this size to the next one. -/
def step (quanta : Nat) : Nat :=
  Nat.pow 2 (quanta.log2 - (precision - 1))

/-- A ratio of quanta, rounded to a number of 64 bits. -/
def roundQuanta (negative : Bool) (numerator denominator : Nat) : Binary64 :=
  let distance := step (numerator / denominator)
  let quanta := roundHalfEven numerator (denominator * distance) * distance
  if quanta < limit then
    .finite negative quanta
  else
    .infinite negative

/-- The number of 64 bits nearest to a ratio. -/
def ofRatio (negative : Bool) (numerator denominator : Nat) : Binary64 :=
  roundQuanta negative (numerator * Position.unit) denominator

def ofInt (number : Int) : Binary64 :=
  ofRatio (number < 0) number.natAbs 1

def isInfinite : Binary64 → Bool
  | .infinite _ => true
  | _ => false

def isNan : Binary64 → Bool
  | .nan _ => true
  | _ => false

def isZero : Binary64 → Bool
  | .finite _ quanta => quanta == 0
  | _ => false

def negate : Binary64 → Binary64
  | .nan object => .nan object
  | .infinite negative => .infinite !negative
  | .finite negative quanta => .finite (!negative) quanta

/-- The place of a number on the line; no place for what is not a number. -/
def position? : Binary64 → Option Position
  | .nan _ => none
  | .infinite true => some .below
  | .infinite false => some .above
  | .finite true quanta => some (.at (-quanta))
  | .finite false quanta => some (.at quanta)

/-- A whole number of quanta with its sign, rounded to a number of 64 bits. -/
private def ofQuanta (quanta : Int) : Binary64 :=
  roundQuanta (quanta < 0) quanta.natAbs 1

/-- The sum, rounded once. -/
def add : Binary64 → Binary64 → Binary64
  | .nan object, _ => .nan object
  | _, .nan object => .nan object
  | .infinite left, .infinite right => if left = right then .infinite left else .nan 0
  | .infinite negative, .finite _ _ => .infinite negative
  | .finite _ _, .infinite negative => .infinite negative
  | .finite leftNegative left, .finite rightNegative right =>
      if left = 0 ∧ right = 0 then
        .finite (leftNegative && rightNegative) 0
      else
        let signed (negative : Bool) (quanta : Nat) : Int :=
          if negative then -quanta else quanta
        ofQuanta (signed leftNegative left + signed rightNegative right)

/-- The product with a positive whole number, rounded once. -/
def scale (number : Binary64) (factor : Nat) : Binary64 :=
  match number with
  | .finite negative quanta => roundQuanta negative (quanta * factor) 1
  | other => other

end Binary64

end FormCheck
