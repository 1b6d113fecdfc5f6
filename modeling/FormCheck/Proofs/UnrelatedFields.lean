import FormCheck.Host.Plain
import FormCheck.Proofs.FieldByField
import FormCheck.Proofs.WellFormed

/-!
# Fields that make no difference

A record is given to every rule that looks at it, but the only built-in rule of this kind
asks a single thing of it: what the field holds that its first argument names.  For this
rule a field that is not there holds nothing, so it cannot tell an absent field from an
empty one.

Where no rule that was added looks at the record, two records therefore lead to the same
validation, down to the journal, when they agree on the fields that have an expression and
on the fields that these are compared with.  The order in which a record lists its fields
makes no difference, and neither do any other fields.
-/

namespace FormCheck

/-- The field that a clause compares with. -/
def Clause.compared? (clause : Clause) : Option String :=
  if clause.name = BuiltIn.equals.name then clause.arguments.head? else none

/-- No rule that was added looks at the record. -/
def Registry.AddedLookAway (registry : Registry) : Prop :=
  ∀ name rule, registry.rules.get? name = some rule → rule.looksAtRecord = false

namespace Validation

/-- What a comparison finds under the name of a field. -/
def heldOrNothing (record : Table Value) (field : String) : Value :=
  (record.get? field).getD .null

/-- Some field that a record has is compared with another one by its expression. -/
def ComparesWith (rules record : Table Value) (other : String) : Prop :=
  ∃ field expression clauses, (field, expression) ∈ rules.entries ∧
    record.contains field = true ∧ Expression.readValue expression = .ok clauses ∧
    ∃ clause ∈ clauses, clause.compared? = some other

/-- Two records agree on the fields with an expression and on those that they are compared
with. -/
structure AgreeFor (rules left right : Table Value) : Prop where
  same_held : ∀ field ∈ rules.keys, left.get? field = right.get? field
  same_compared : ∀ other, ComparesWith rules left other →
    heldOrNothing left other = heldOrNothing right other

variable {registry : Registry} {rules left right record : Table Value}

/-! ## One clause -/

theorem check_eq_of_looksAway {rule : Rule} (away : rule.looksAtRecord = false) (value : Value)
    (arguments : List String) (left right : Table Value) :
    rule.check value arguments left = rule.check value arguments right := by
  simp [Rule.check, away]

theorem check_equals_eq {arguments : List String} (value : Value)
    (same : ∀ other, arguments.head? = some other →
      heldOrNothing left other = heldOrNothing right other) :
    (Rule.ofBuiltIn .equals).check value arguments left =
      (Rule.ofBuiltIn .equals).check value arguments right := by
  rcases arguments with _ | ⟨other, _ | ⟨second, rest⟩⟩
  · rfl
  · have held : (left.get? other).getD .null = (right.get? other).getD .null :=
      same other rfl
    have agrees : BuiltIn.agreesWith value (some other) left =
        BuiltIn.agreesWith value (some other) right := by
      simp only [BuiltIn.agreesWith, Option.bind_some, held]
    exact congrArg Traced.done agrees
  · -- Surplus arguments are refused before the record is looked at.
    simp [BuiltIn.check_ofBuiltIn, BuiltIn.parameters, Parameters.faultOf]

theorem check_eq_of_compared (away : registry.AddedLookAway) {clause : Clause} {rule : Rule}
    (known : registry.lookup clause.name = .ok rule) (value : Value)
    (same : ∀ other, clause.compared? = some other →
      heldOrNothing left other = heldOrNothing right other) :
    rule.check value clause.arguments left =
      rule.check value clause.arguments right := by
  rcases Registry.lookup_eq_ok_cases known with added | ⟨builtIn, name, rfl⟩
  · exact check_eq_of_looksAway (away clause.name rule added) _ _ _ _
  · cases builtIn with
    | equals =>
        refine check_equals_eq value fun other first => same other ?_
        rw [Clause.compared?, if_pos name, first]
    | _ =>
        exact check_eq_of_looksAway rfl _ _ _ _

theorem agreeFor_of_get?_eq (same : ∀ field, left.get? field = right.get? field) :
    AgreeFor rules left right where
  same_held field _ := same field
  same_compared other _ := by
    rw [heldOrNothing, heldOrNothing, same]

/-- A field without an expression, with which no other is compared, may hold anything. -/
theorem agreeFor_insert {field : String} (value : Value) (unruled : field ∉ rules.keys)
    (uncompared : ¬ ComparesWith rules record field) :
    AgreeFor rules record (record.insert field value) where
  same_held ruled member := by
    have different : field ≠ ruled := by
      rintro rfl
      exact unruled member
    rw [Table.get?_insert, if_neg different]
  same_compared other compared := by
    have different : field ≠ other := by
      rintro rfl
      exact uncompared compared
    rw [heldOrNothing, heldOrNothing, Table.get?_insert, if_neg different]

/-! ## Whole records -/

section

variable [Host]

theorem judgeField_eq_of_agree (away : registry.AddedLookAway) (agree : AgreeFor rules left right)
    {field : String} {value expression : Value} (member : (field, expression) ∈ rules.entries)
    (held : left.get? field = some value) :
    judgeField registry left field value expression =
      judgeField registry right field value expression := by
  unfold judgeField
  cases read : Expression.readValue expression with
  | error failure =>
      rfl
  | ok clauses =>
      refine judgeClauses_congr fun clause clauseMember => ?_
      refine judgeClause_congr fun rule known => ?_
      refine check_eq_of_compared away known value fun other compared => ?_
      have present : left.contains field = true := by
        rw [Table.contains, held, Option.isSome_some]
      exact agree.same_compared other
        ⟨field, expression, clauses, member, present, read, clause, clauseMember, compared⟩

theorem judgeFields_eq_of_agree (away : registry.AddedLookAway) (agree : AgreeFor rules left right)
    {expressions : List (String × Value)}
    (members : ∀ entry ∈ expressions, entry ∈ rules.entries) (report : Report) :
    judgeFields registry left report expressions =
      judgeFields registry right report expressions := by
  induction expressions generalizing report with
  | nil =>
      rfl
  | cons entry rest inductionHypothesis =>
      obtain ⟨field, expression⟩ := entry
      have member : (field, expression) ∈ rules.entries := members _ List.mem_cons_self
      have remaining := inductionHypothesis fun other later =>
        members other (List.mem_cons_of_mem _ later)
      have sameHeld : left.get? field = right.get? field :=
        agree.same_held field (List.mem_map_of_mem member)
      cases held : left.get? field with
      | none =>
          simp only [judgeFields, ← sameHeld, held, remaining]
      | some value =>
          simp only [judgeFields, ← sameHeld, held, remaining,
            judgeField_eq_of_agree away agree member held]

theorem validate_eq_of_agree (away : registry.AddedLookAway) (agree : AgreeFor rules left right) :
    validate registry left rules = validate registry right rules := by
  rw [validate, validate, judgeFields_eq_of_agree away agree fun entry member => member]

/-- Where no added rule looks at the record, a validation depends only on the fields that have
an expression and on what the fields hold that these are compared with.  So the order of a
record does not matter, and neither does a field that is not one of them. -/
theorem validation_ignores_unrelated_fields (away : registry.AddedLookAway) :
    (∀ left right, AgreeFor rules left right →
        validate registry left rules = validate registry right rules) ∧
      (∀ left right : Table Value, (∀ field, left.get? field = right.get? field) →
        validate registry left rules = validate registry right rules) ∧
      ∀ record field value, field ∉ rules.keys → ¬ ComparesWith rules record field →
        validate registry record rules = validate registry (record.insert field value) rules := by
  refine ⟨fun left right agree => validate_eq_of_agree away agree, ?_, ?_⟩
  · intro left right same
    exact validate_eq_of_agree away (agreeFor_of_get?_eq same)
  · intro record field value unruled uncompared
    exact validate_eq_of_agree away (agreeFor_insert value unruled uncompared)

end

open scoped Host

/-- Passwords differ in both records.  An extra field, another order, and a field that holds
nothing where the other record does not have it, all make no difference. -/
theorem absent_field_is_compared_as_empty :
    let registry : Registry :=
      ⟨.ofList [("even", ⟨"even", .constant true, none, false⟩)],
        .ofList [("equals", .composed fun _ _ => .ok (.text "not the same"))], .empty⟩
    let rules : Table Value :=
      .ofList [("confirm", .text "even|equals:password"), ("note", .text "equals:gone")]
    let left : Table Value :=
      .ofList [("password", .text "p"), ("confirm", .text "q"), ("note", .null)]
    let right : Table Value :=
      .ofList [("note", .null), ("extra", .integer 1), ("gone", .null), ("confirm", .text "q"),
        ("password", .text "p")]
    registry.AddedLookAway ∧ AgreeFor rules left right ∧
      left.get? "gone" = none ∧ right.get? "gone" = some .null ∧
      validate registry left rules = validate registry right rules ∧
      (validate registry right rules).outcome =
        .ok ⟨.ofList [("confirm", ⟨"equals", "not the same"⟩)], []⟩ := by
  intro registry rules left right
  have away : registry.AddedLookAway := by
    intro name rule added
    have only : (name, rule) ∈ registry.rules.entries := Table.get?_eq_some_iff.mp added
    cases List.mem_singleton.mp only
    rfl
  have confirm : Expression.read "even|equals:password" =
      .ok [⟨"even", [], by decide⟩, ⟨"equals", ["password"], by decide⟩] := rfl
  have note : Expression.read "equals:gone" = .ok [⟨"equals", ["gone"], by decide⟩] := rfl
  have agree : AgreeFor rules left right := by
    refine ⟨?_, ?_⟩
    · intro field member
      rcases List.mem_cons.mp member with rfl | last
      · rfl
      · cases List.mem_singleton.mp last
        rfl
    · rintro other ⟨field, expression, clauses, member, -, read, clause, clauseMember, compared⟩
      rcases List.mem_cons.mp member with same | last
      · cases same
        rw [Expression.readValue, confirm] at read
        cases read
        rcases List.mem_cons.mp clauseMember with rfl | second
        · cases compared
        · cases List.mem_singleton.mp second
          cases compared
          rfl
      · cases List.mem_singleton.mp last
        rw [Expression.readValue, note] at read
        cases read
        cases List.mem_singleton.mp clauseMember
        cases compared
        rfl
  have same := (validation_ignores_unrelated_fields away).1 left right agree
  let finding (held : HeldField) : Finding :=
    if held.field = "confirm" then ⟨some ⟨"equals", "not the same"⟩, []⟩ else .none
  have found : (validate registry left rules).outcome =
      .ok ⟨.ofList [("confirm", ⟨"equals", "not the same"⟩)], []⟩ := by
    refine validate_eq_ok_iff.mpr ⟨finding, ?_, rfl, rfl⟩
    intro held member
    rcases List.mem_cons.mp member with rfl | last
    · rw [judgement, judgeField_text confirm]
      rfl
    · cases List.mem_singleton.mp last
      rw [judgement, judgeField_text note]
      rfl
  exact ⟨away, agree, rfl, rfl, same, same ▸ found⟩

end Validation

end FormCheck
