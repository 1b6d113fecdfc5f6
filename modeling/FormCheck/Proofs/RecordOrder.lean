import FormCheck.Predicate.Stock
import FormCheck.Proofs.Judging

/-!
# Records in another order

A record lists its fields in an order, and a rule that looks at the record gets them
in this order.  The built-in rules do not depend on it: the only one that looks at the
record asks what a field holds.

For rules of this kind, judging a field depends on a record only through what its fields
hold.  A predicate that reads the fields in order would see the difference.
-/

namespace FormCheck

/-- A predicate judges alike whatever the order is in which the record lists its fields. -/
def Predicate.IgnoresOrder (predicate : Predicate) : Prop :=
  ∀ value arguments left right, (∀ field, left.get? field = right.get? field) →
    predicate.judge value arguments (some left) = predicate.judge value arguments (some right)

theorem BuiltIn.predicate_ignoresOrder (rule : BuiltIn) : rule.predicate.IgnoresOrder := by
  intro value arguments left right same
  have agree : ∀ other?, agreesWith value other? left = agreesWith value other? right := by
    intro other?
    have held : other?.bind left.get? = other?.bind right.get? := by
      cases other? with
      | none =>
          rfl
      | some other =>
          exact same other
    simp only [agreesWith, held]
  cases rule with
  | equals =>
      rcases arguments with _ | ⟨other, _ | ⟨second, rest⟩⟩
      · rfl
      · exact congrArg Traced.done (agree (some other))
      · rfl
  | _ =>
      rcases arguments with _ | ⟨first, _ | ⟨second, rest⟩⟩ <;> rfl

theorem Predicate.differs_ignoresOrder : differs.IgnoresOrder := by
  intro value arguments left right same
  rcases arguments with _ | ⟨other, _ | ⟨second, rest⟩⟩
  · rfl
  · simp only [differs, same]
  · rfl

/-- The rules that were added and look at the record judge alike whatever its order is. -/
def Registry.IgnoresOrder (registry : Registry) : Prop :=
  ∀ name rule, registry.rules.get? name = some rule → rule.looksAtRecord = true →
    rule.predicate.IgnoresOrder

namespace Validation

variable [Host] {registry : Registry} {field : String} {value : Value}

omit [Host] in
theorem check_eq_of_sameFields (ignores : registry.IgnoresOrder) {name : String} {rule : Rule}
    (known : registry.lookup name = .ok rule) {left right : Table Value}
    (same : ∀ field, left.get? field = right.get? field) (arguments : List String) :
    rule.check value arguments left = rule.check value arguments right := by
  have judges : rule.looksAtRecord = true → rule.predicate.IgnoresOrder := by
    intro looks
    rcases Registry.lookup_eq_ok_cases known with added | ⟨builtIn, -, rfl⟩
    · exact ignores name rule added looks
    · exact builtIn.predicate_ignoresOrder
  cases looks : rule.looksAtRecord with
  | false =>
      simp [Rule.check, looks]
  | true =>
      simp only [Rule.check, looks, ↓reduceIte, Option.isSome_some,
        judges looks value arguments left right same]

/-- Judging a field depends on the record only through what its fields hold. -/
theorem judgeField_eq_of_sameFields (ignores : registry.IgnoresOrder)
    {left right : Table Value} (same : ∀ other, left.get? other = right.get? other)
    (expression : Value) :
    judgeField registry left field value expression =
      judgeField registry right field value expression := by
  unfold judgeField
  cases Expression.readValue expression with
  | error failure =>
      rfl
  | ok clauses =>
      refine judgeClauses_congr fun clause _ => ?_
      refine judgeClause_congr fun rule known => ?_
      exact check_eq_of_sameFields ignores known same clause.arguments

end Validation

end FormCheck
