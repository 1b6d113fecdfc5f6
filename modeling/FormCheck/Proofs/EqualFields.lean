import FormCheck.Proofs.Judging
import FormCheck.Proofs.ValueEquality

/-!
# Fields that equal other fields

The rule `equals` lets the value of a field pass when the field that it names holds a value
of the same kind that is equal to it.  So the rule is symmetric and transitive on the fields
of a record, and a chain of fields may lead back to where it began.  A field that is compared
with itself passes unless it holds what is not a number; a list that holds such an object
equals itself and every list that holds the same one.

Nothing is asked of the values but that no record in them has a key twice.
-/

namespace FormCheck

/-- The clause that compares a field with another one. -/
def Clause.equalTo (other : String) : Clause :=
  ⟨BuiltIn.equals.name, [other], by decide⟩

namespace Validation

variable {registry : Registry} {record : Table Value} {field other : String}
  {value otherValue : Value}

/-- A field of a record passes the comparison with another one. -/
def Matches (registry : Registry) (record : Table Value) (field other : String) : Prop :=
  ∃ value, record.get? field = some value ∧
    Passes registry value record (.equalTo other)

section

variable (known : registry.lookup BuiltIn.equals.name = .ok (.ofBuiltIn .equals))

include known

theorem passes_equalTo_iff (surroundings : Table Value) :
    Passes registry value surroundings (.equalTo other) ↔
      BuiltIn.agreesWith value (some other) surroundings = true := by
  have judged : ((Rule.ofBuiltIn .equals).check value [other] surroundings).outcome =
      .ok (BuiltIn.agreesWith value (some other) surroundings) := rfl
  constructor
  · rintro ⟨rule, found, passed⟩
    have same : Rule.ofBuiltIn .equals = rule := Except.ok.inj (known.symm.trans found)
    rw [← same] at passed
    exact Except.ok.inj (judged.symm.trans passed)
  · intro agrees
    exact ⟨_, known, judged.trans (congrArg Except.ok agrees)⟩

/-- Fields are compared by what they hold, a field with itself too. -/
theorem matches_iff (held : record.get? field = some value)
    (otherHeld : record.get? other = some otherValue) :
    Matches registry record field other ↔
      value.kind = otherValue.kind ∧ value.equal otherValue = true := by
  simp [Matches, held, passes_equalTo_iff known, BuiltIn.agreesWith, otherHeld]

variable (keyed : record.All Value.WellKeyed)

include keyed

theorem matches_symm (otherPresent : other ∈ record.keys)
    (matched : Matches registry record field other) : Matches registry record other field := by
  obtain ⟨value, held, -⟩ := id matched
  obtain ⟨otherValue, otherHeld⟩ := Table.mem_keys_iff.mp otherPresent
  obtain ⟨kind, equal⟩ := (matches_iff known held otherHeld).mp matched
  refine (matches_iff known otherHeld held).mpr ⟨kind.symm, ?_⟩
  exact Value.equal_symm (keyed field value held) (keyed other otherValue otherHeld) equal

theorem matches_trans {last : String} (lastPresent : last ∈ record.keys)
    (first : Matches registry record field other) (second : Matches registry record other last) :
    Matches registry record field last := by
  obtain ⟨value, held, -⟩ := id first
  obtain ⟨otherValue, otherHeld, -⟩ := id second
  obtain ⟨lastValue, lastHeld⟩ := Table.mem_keys_iff.mp lastPresent
  obtain ⟨firstKind, firstEqual⟩ := (matches_iff known held otherHeld).mp first
  obtain ⟨lastKind, lastEqual⟩ := (matches_iff known otherHeld lastHeld).mp second
  refine (matches_iff known held lastHeld).mpr ⟨firstKind.trans lastKind, ?_⟩
  exact Value.equal_trans (keyed field value held) (keyed other otherValue otherHeld)
    (keyed last lastValue lastHeld) firstEqual lastEqual

end

/-- Equality with another field is symmetric and transitive on the fields of a record, a field
that is reached again included, and fields that are equal hold values of one kind. -/
theorem equals_is_equivalence_between_fields
    (known : registry.lookup BuiltIn.equals.name = .ok (.ofBuiltIn .equals))
    (keyed : record.All Value.WellKeyed) :
    (∀ field ∈ record.keys, ∀ other ∈ record.keys,
      (Matches registry record field other ↔ Matches registry record other field)) ∧
    (∀ field ∈ record.keys, ∀ other ∈ record.keys, ∀ last ∈ record.keys,
      Matches registry record field other → Matches registry record other last →
        Matches registry record field last) ∧
    ∀ field ∈ record.keys, ∀ other ∈ record.keys, Matches registry record field other →
      (record.get? field).map Value.kind = (record.get? other).map Value.kind := by
  refine ⟨?_, ?_, ?_⟩
  · intro field present other otherPresent
    exact ⟨matches_symm known keyed otherPresent, matches_symm known keyed present⟩
  · intro field _ other _ last lastPresent
    exact matches_trans known keyed lastPresent
  · intro field present other otherPresent matched
    obtain ⟨value, held⟩ := Table.mem_keys_iff.mp present
    obtain ⟨otherValue, otherHeld⟩ := Table.mem_keys_iff.mp otherPresent
    have kind := ((matches_iff known held otherHeld).mp matched).1
    simp [held, otherHeld, kind]

/-- Records that list their entries in other orders, and hold a truth value or a real number for
a whole one and the same object that is no number, are equal along the chain and back to its
beginning. -/
theorem reordered_records_are_equal :
    let two : Value := .real (.finite false (2 * Position.unit))
    let nan : Value := .real (.nan 0)
    let first : Value :=
      .recordOf [(.text "n", .list [.integer 1, nan]), (.integer 2, .null)]
    let second : Value := .recordOf [(two, .null), (.text "n", .list [.boolean true, nan])]
    let third : Value :=
      .recordOf [(.integer 2, .null), (.text "n", .list [.integer 1, nan])]
    let record : Table Value := .ofList [("a", first), ("b", second), ("c", third)]
    Registry.lookup .builtIn BuiltIn.equals.name = .ok (.ofBuiltIn .equals) ∧
      record.All Value.WellKeyed ∧ Matches .builtIn record "a" "b" ∧
      Matches .builtIn record "b" "c" ∧ Matches .builtIn record "b" "a" ∧
      Matches .builtIn record "a" "c" ∧ Matches .builtIn record "a" "a" ∧
      (record.get? "a").map Value.kind = (record.get? "b").map Value.kind := by
  intro two nan first second third record
  have known : Registry.lookup .builtIn BuiltIn.equals.name = .ok (.ofBuiltIn .equals) := rfl
  have flat (value : Value) (isFlat : value.isFlat = true) : value.WellKeyed :=
    Value.wellKeyed_of_isFlat isFlat
  have row (number : Value) (isFlat : number.isFlat = true) :
      (Value.list [number, nan]).WellKeyed := by
    refine Value.wellKeyed_list (List.forall_mem_cons.mpr ⟨flat number isFlat, ?_⟩)
    exact List.forall_mem_singleton.mpr (flat _ rfl)
  have keyed : record.All Value.WellKeyed := by
    refine (Table.all_empty _).insertAll ?_
    simp only [List.forall_mem_cons]
    refine ⟨?_, ?_, ?_, nofun⟩
    all_goals
      refine Value.wellKeyed_recordOf ?_
      simp only [List.forall_mem_cons]
    · exact ⟨⟨flat _ rfl, row _ rfl⟩, ⟨flat _ rfl, flat _ rfl⟩, nofun⟩
    · exact ⟨⟨flat _ rfl, flat _ rfl⟩, ⟨flat _ rfl, row _ rfl⟩, nofun⟩
    · exact ⟨⟨flat _ rfl, flat _ rfl⟩, ⟨flat _ rfl, row _ rfl⟩, nofun⟩
  have heldA : record.get? "a" = some first := rfl
  have heldB : record.get? "b" = some second := rfl
  have heldC : record.get? "c" = some third := rfl
  have forth : Matches .builtIn record "a" "b" :=
    (matches_iff known heldA heldB).mpr ⟨rfl, by decide +kernel⟩
  have further : Matches .builtIn record "b" "c" :=
    (matches_iff known heldB heldC).mpr ⟨rfl, by decide +kernel⟩
  obtain ⟨symmetric, transitive, sameKind⟩ := equals_is_equivalence_between_fields known keyed
  have a : "a" ∈ record.keys := Table.mem_keys_iff.mpr ⟨first, heldA⟩
  have b : "b" ∈ record.keys := Table.mem_keys_iff.mpr ⟨second, heldB⟩
  have c : "c" ∈ record.keys := Table.mem_keys_iff.mpr ⟨third, heldC⟩
  have back := (symmetric "a" a "b" b).mp forth
  exact ⟨known, keyed, forth, further, back, transitive "a" a "b" b "c" c forth further,
    transitive "a" a "b" b "a" a forth back, sameKind "a" a "b" b forth⟩

end Validation

end FormCheck
