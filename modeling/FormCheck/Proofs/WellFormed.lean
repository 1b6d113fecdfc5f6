import FormCheck.Host.Plain
import FormCheck.Proofs.Judging
import FormCheck.Proofs.Message

/-!
# Well-formed clauses

Whether a clause is set up well can be read off the clause alone: it names a built-in
rule and has the arguments that this rule takes.  A registry to which nothing was added
judges every value by a well-formed clause, and renders its message when the value
fails.  A clause that is not well-formed is a mistake as soon as it is reached, so a
validation fails exactly when all clauses before the first one that is not well-formed
let the value pass.

Labels of fields may have been set; they only occur in messages.
-/

namespace FormCheck

namespace BuiltIn

/-- The arguments that a rule takes: one bound that can be read, the name of one field,
or none. -/
def Takes (rule : BuiltIn) (arguments : List String) : Prop :=
  match rule with
  | .min | .max =>
      ∃ written bound, arguments = [written] ∧ readBound rule.name (some written) = .ok bound
  | .equals => ∃ field, arguments = [field]
  | _ => arguments = []

/-- A built-in rule first looks at how many arguments it gets. -/
theorem check_ofBuiltIn (rule : BuiltIn) (value : Value) (arguments : List String)
    (surroundings : Table Value) :
    (Rule.ofBuiltIn rule).check value arguments surroundings =
      match rule.parameters.faultOf arguments.length rule.looksAtRecord with
      | some fault => .fail (.mistake (.argumentsUnfit rule.name arguments fault))
      | none =>
          rule.judge value (arguments.map some)
            (if rule.looksAtRecord then some surroundings else none) := by
  cases rule <;> rfl

theorem check_min (value : Value) (written : String) (surroundings : Table Value) :
    (Rule.ofBuiltIn .min).check value [written] surroundings = atLeast value (some written) :=
  rfl

theorem check_max (value : Value) (written : String) (surroundings : Table Value) :
    (Rule.ofBuiltIn .max).check value [written] surroundings = atMost value (some written) :=
  rfl

/-! ## Arguments that a rule takes -/

/-- A comparison with a bound that can be read has a verdict on every value. -/
theorem exists_verdict_of_readBound {rule : String} {written? : Option String}
    {bound : Binary64} (read : readBound rule written? = .ok bound)
    (holds : Option Position → Option Position → Bool) (value : Value) :
    ∃ passed, (compare rule holds value written?).outcome = .ok passed := by
  simp only [compare, read]
  cases measure value with
  | size place? =>
      exact ⟨_, rfl⟩
  | unsupported =>
      exact ⟨_, rfl⟩

/-- A rule judges every value when it gets the arguments that it takes. -/
theorem exists_verdict_of_takes {rule : BuiltIn} {arguments : List String}
    (taken : rule.Takes arguments) (value : Value) (surroundings : Table Value) :
    ∃ passed, ((Rule.ofBuiltIn rule).check value arguments surroundings).outcome =
      .ok passed := by
  cases rule with
  | min =>
      obtain ⟨written, bound, rfl, read⟩ := taken
      rw [check_min]
      exact exists_verdict_of_readBound read _ value
  | max =>
      obtain ⟨written, bound, rfl, read⟩ := taken
      rw [check_max]
      exact exists_verdict_of_readBound read _ value
  | equals =>
      obtain ⟨field, rfl⟩ := taken
      exact ⟨_, rfl⟩
  | _ =>
      cases (taken : arguments = [])
      exact ⟨_, rfl⟩

/-! ## Arguments that a rule does not take -/

/-- A bound that cannot be read is a mistake in the arguments of its rule. -/
theorem readBound_error {rule : String} {written? : Option String} {mistake : Mistake}
    (refused : readBound rule written? = .error mistake) :
    mistake.kind = .ruleArgument ∧ mistake.concerns = rule := by
  unfold readBound at refused
  split at refused
  · cases refused
    exact ⟨rfl, rfl⟩
  · cases refused
    exact ⟨rfl, rfl⟩
  · split at refused
    · cases refused
    · cases refused
      exact ⟨rfl, rfl⟩

/-- The failure is a mistake in the arguments of a rule. -/
def Blames (rule : BuiltIn) (outcome : Except Failure Bool) : Prop :=
  ∃ mistake, outcome = .error (.mistake mistake) ∧ mistake.kind = .ruleArgument ∧
    mistake.concerns = rule.name

private theorem blames_of_fault {rule : BuiltIn} {arguments : List String} {fault : ArgumentFault}
    (faulty : rule.parameters.faultOf arguments.length rule.looksAtRecord = some fault)
    (value : Value) (surroundings : Table Value) :
    rule.Blames ((Rule.ofBuiltIn rule).check value arguments surroundings).outcome := by
  rw [check_ofBuiltIn, faulty]
  exact ⟨.argumentsUnfit rule.name arguments fault, rfl, rfl, rfl⟩

private theorem blames_of_surplus {rule : BuiltIn} {arguments : List String}
    (surplus : rule.parameters.required.length + rule.parameters.optional.length <
      arguments.length)
    (value : Value) (surroundings : Table Value) :
    rule.Blames ((Rule.ofBuiltIn rule).check value arguments surroundings).outcome := by
  have bounded : rule.parameters.furtherAllowed = false := by
    cases rule <;> rfl
  have tooMany :
      rule.parameters.faultOf arguments.length rule.looksAtRecord = some .tooMany := by
    simp [Parameters.faultOf, bounded, surplus]
  exact blames_of_fault tooMany value surroundings

private theorem blames_of_bound (rule : BuiltIn) {written? : Option String} {mistake : Mistake}
    (refused : readBound rule.name written? = .error mistake)
    (holds : Option Position → Option Position → Bool) (value : Value) :
    rule.Blames (compare rule.name holds value written?).outcome := by
  obtain ⟨kind, concerns⟩ := readBound_error refused
  refine ⟨mistake, ?_, kind, concerns⟩
  simp only [compare, refused]
  rfl

private theorem exists_refusal {rule written : String}
    (unread : ¬ ∃ given bound, [written] = [given] ∧ readBound rule (some given) = .ok bound) :
    ∃ mistake, readBound rule (some written) = .error mistake := by
  cases read : readBound rule (some written) with
  | error mistake =>
      exact ⟨mistake, rfl⟩
  | ok bound =>
      exact absurd ⟨written, bound, rfl, read⟩ unread

/-- A rule fails to judge, and is blamed, when it gets arguments that it does not take. -/
theorem blames_of_not_takes {rule : BuiltIn} {arguments : List String}
    (untaken : ¬ rule.Takes arguments) (value : Value) (surroundings : Table Value) :
    rule.Blames ((Rule.ofBuiltIn rule).check value arguments surroundings).outcome := by
  match rule, arguments, untaken with
  | .min, [], _ =>
      exact ⟨.boundMissing "min", rfl, rfl, rfl⟩
  | .min, [written], untaken =>
      obtain ⟨mistake, refused⟩ := exists_refusal untaken
      rw [check_min]
      exact blames_of_bound .min refused _ value
  | .max, [], _ =>
      exact ⟨.boundMissing "max", rfl, rfl, rfl⟩
  | .max, [written], untaken =>
      obtain ⟨mistake, refused⟩ := exists_refusal untaken
      rw [check_max]
      exact blames_of_bound .max refused _ value
  | .equals, [], _ =>
      exact ⟨.argumentsUnfit "equals" [] (.missing "other_field"), rfl, rfl, rfl⟩
  | .equals, [field], untaken =>
      exact absurd ⟨field, rfl⟩ untaken
  | .min, _ :: _ :: _, _ | .max, _ :: _ :: _, _ | .equals, _ :: _ :: _, _ =>
      exact blames_of_surplus (by simp [parameters]) value surroundings
  | .required, _ :: _, _ | .string, _ :: _, _ | .number, _ :: _, _ | .numeric, _ :: _, _
  | .alpha, _ :: _, _ | .email, _ :: _, _ =>
      exact blames_of_surplus (by simp [parameters, Parameters.exactly]) value surroundings
  | .required, [], untaken | .string, [], untaken | .number, [], untaken
  | .numeric, [], untaken | .alpha, [], untaken | .email, [], untaken =>
      exact absurd rfl untaken

theorem length_le_one_of_takes {rule : BuiltIn} {arguments : List String}
    (taken : rule.Takes arguments) : arguments.length ≤ 1 := by
  cases rule with
  | min | max =>
      obtain ⟨written, bound, rfl, -⟩ := taken
      exact Nat.le_refl 1
  | equals =>
      obtain ⟨field, rfl⟩ := taken
      exact Nat.le_refl 1
  | _ =>
      cases (taken : arguments = [])
      exact Nat.zero_le 1

end BuiltIn

namespace Registry

theorem isWritable_label {registry : Registry}
    (writable : registry.labels.All fun label => label.isWritable = true) (field : String) :
    (registry.label field).isWritable = true := by
  rw [label, labelOf]
  cases own : registry.labels.get? field with
  | some label =>
      exact writable field label own
  | none =>
      rfl

/-- A registry to which neither rules nor messages were added, and whose labels are
writable, as all texts are. -/
structure Bare (registry : Registry) : Prop where
  no_rules : registry.rules = .empty
  no_messages : registry.messages = .empty
  labels_writable : registry.labels.All fun label => label.isWritable = true

namespace Bare

variable {registry : Registry}

theorem lookup_name (bare : registry.Bare) (rule : BuiltIn) :
    registry.lookup rule.name = .ok (.ofBuiltIn rule) := by
  simp [lookup, rule?, bare.no_rules]

theorem lookup_of_ofName?_eq_none (bare : registry.Bare) {name : String}
    (unknown : BuiltIn.ofName? name = none) :
    registry.lookup name = .error (.unknownRule name) := by
  simp [lookup, rule?, bare.no_rules, unknown]

/-- The message of a built-in rule renders when the rule takes the arguments. -/
theorem exists_renderMessage [Host] (bare : registry.Bare) {rule : BuiltIn}
    {arguments : List String} (taken : rule.Takes arguments) (value : Value) :
    ∃ message, registry.renderMessage rule.name value arguments = .ok message := by
  have message : registry.messageFor rule.name = .ofBuiltIn registry.label rule := by
    simp [messageFor, bare.no_rules, bare.no_messages]
  rw [renderMessage, message]
  exact Message.exists_render_ofBuiltIn (isWritable_label bare.labels_writable) rule
    (BuiltIn.length_le_one_of_takes taken) _ value

end Bare

end Registry

namespace Clause

/-- A clause that names a built-in rule and has the arguments that this rule takes. -/
def WellFormed (clause : Clause) : Prop :=
  ∃ rule : BuiltIn, clause.name = rule.name ∧ rule.Takes clause.arguments

/-- The kind of mistake that a clause is when it is not well-formed: its rule is unknown, or
else its arguments are wrong. -/
def mistakeKind (clause : Clause) : Mistake.Kind :=
  if (BuiltIn.ofName? clause.name).isSome then .ruleArgument else .unknownRule

end Clause

namespace Validation

section

variable [Host] {registry : Registry} {field : String} {value : Value} {surroundings : Table Value}

/-- A well-formed clause is always judged, and its message rendered when the value fails. -/
theorem exists_finding_of_wellFormed (bare : registry.Bare) {clause : Clause}
    (wellFormed : clause.WellFormed) :
    ∃ finding,
      (judgeClause registry field value surroundings clause).outcome = .ok finding := by
  obtain ⟨rule, name, taken⟩ := wellFormed
  have known : registry.lookup clause.name = .ok (.ofBuiltIn rule) := by
    rw [name, bare.lookup_name]
  obtain ⟨passed, judged⟩ := BuiltIn.exists_verdict_of_takes taken value surroundings
  obtain ⟨message, rendered⟩ := bare.exists_renderMessage taken value
  rw [judgeClause_outcome_of_check known judged, name, rendered]
  cases passed with
  | true =>
      exact ⟨_, rfl⟩
  | false =>
      exact ⟨_, rfl⟩

/-- A clause that is not well-formed is a mistake under its own name. -/
theorem exists_mistake_of_not_wellFormed (bare : registry.Bare) {clause : Clause}
    (illFormed : ¬ clause.WellFormed) :
    ∃ mistake,
      (judgeClause registry field value surroundings clause).outcome =
          .error (.mistake mistake) ∧
        mistake.kind = clause.mistakeKind ∧ mistake.concerns = clause.name := by
  cases named : BuiltIn.ofName? clause.name with
  | none =>
      refine ⟨.unknownRule clause.name, ?_, by simp [Clause.mistakeKind, named, Mistake.kind], rfl⟩
      rw [judgeClause_of_unknown (bare.lookup_of_ofName?_eq_none named)]
      rfl
  | some rule =>
      have name : clause.name = rule.name := BuiltIn.ofName?_eq_some_iff.mp named
      have untaken : ¬ rule.Takes clause.arguments := fun taken =>
        illFormed ⟨rule, name, taken⟩
      have known : registry.lookup clause.name = .ok (.ofBuiltIn rule) := by
        rw [name, bare.lookup_name]
      obtain ⟨mistake, failed, kind, concerns⟩ :=
        BuiltIn.blames_of_not_takes untaken value surroundings
      refine ⟨mistake, ?_, ?_, concerns.trans name.symm⟩
      · rw [judgeClause_of_check_error known failed]
        rfl
      · simpa [Clause.mistakeKind, named] using kind

theorem not_passes_of_not_wellFormed (bare : registry.Bare) {clause : Clause}
    (illFormed : ¬ clause.WellFormed) : ¬ Passes registry value surroundings clause := by
  intro passes
  obtain ⟨finding, found, -⟩ := (exists_finding_without_error_iff "").mpr passes
  obtain ⟨mistake, failed, -⟩ := exists_mistake_of_not_wellFormed bare illFormed
  rw [failed] at found
  cases found

/-- The first clause that is not well-formed is reached: the value passes all clauses
before it. -/
def ReachesIllFormed (registry : Registry) (value : Value) (surroundings : Table Value)
    (clauses : List Clause) (bad : Clause) : Prop :=
  ∃ before after, clauses = before ++ bad :: after ∧ ¬ bad.WellFormed ∧
    ∀ clause ∈ before, clause.WellFormed ∧ Passes registry value surroundings clause

/-- Clauses cannot be judged exactly when the first one that is not well-formed is
reached, and then judging fails as it does for this clause. -/
theorem judgeClauses_outcome_error_iff_reaches (bare : registry.Bare) {clauses : List Clause}
    {failure : Failure} :
    (judgeClauses registry field value surroundings clauses).outcome = .error failure ↔
      ∃ bad, ReachesIllFormed registry value surroundings clauses bad ∧
        (judgeClause registry field value surroundings bad).outcome = .error failure := by
  rw [judgeClauses_outcome_error_iff]
  constructor
  · rintro ⟨before, bad, after, split, passing, failed⟩
    refine ⟨bad, ⟨before, after, split, ?_, ?_⟩, failed⟩
    · intro wellFormed
      obtain ⟨finding, found⟩ := exists_finding_of_wellFormed bare wellFormed
      rw [found] at failed
      cases failed
    · intro clause member
      refine ⟨?_, passing clause member⟩
      by_cases wellFormed : clause.WellFormed
      · exact wellFormed
      · exact absurd (passing clause member) (not_passes_of_not_wellFormed bare wellFormed)
  · rintro ⟨bad, ⟨before, after, split, -, clean⟩, failed⟩
    exact ⟨before, bad, after, split, fun clause member => (clean clause member).2, failed⟩

theorem exists_judgement_of_wellFormed (bare : registry.Bare) {clauses : List Clause}
    (wellFormed : ∀ clause ∈ clauses, clause.WellFormed) :
    ∃ finding, (judgeClauses registry field value surroundings clauses).outcome =
      .ok finding := by
  cases judged : (judgeClauses registry field value surroundings clauses).outcome with
  | ok finding =>
      exact ⟨finding, rfl⟩
  | error failure =>
      obtain ⟨bad, ⟨before, after, rfl, illFormed, -⟩, -⟩ :=
        (judgeClauses_outcome_error_iff_reaches bare).mp judged
      exact absurd (wellFormed bad (by simp)) illFormed

/-- The clause that is reached is blamed for the failure of its field. -/
theorem validateField_blames (bare : registry.Bare) {expression : String} {clauses : List Clause}
    (accepted : Expression.read expression = .ok clauses) {record : Table Value} {bad : Clause}
    (reached : ReachesIllFormed registry value (record.insert field value)
      clauses bad) :
    ∃ mistake,
      (validateField registry field value (.text expression) record).outcome =
          .error (.mistake mistake) ∧
        mistake.kind = bad.mistakeKind ∧ mistake.concerns = bad.name := by
  have illFormed : ¬ bad.WellFormed := by
    obtain ⟨before, after, split, illFormed, clean⟩ := reached
    exact illFormed
  obtain ⟨mistake, failed, kind, concerns⟩ := exists_mistake_of_not_wellFormed bare illFormed
  refine ⟨mistake, ?_, kind, concerns⟩
  rw [validateField_text_outcome accepted,
    (judgeClauses_outcome_error_iff_reaches bare).mpr ⟨bad, reached, failed⟩]
  rfl

theorem validateField_fails_iff_reaches (bare : registry.Bare) {expression : String}
    {clauses : List Clause} (accepted : Expression.read expression = .ok clauses)
    (record : Table Value) :
    (∃ failure,
        (validateField registry field value (.text expression) record).outcome =
          .error failure) ↔
      ∃ bad, ReachesIllFormed registry value (record.insert field value)
        clauses bad := by
  constructor
  · rintro ⟨failure, failed⟩
    rw [validateField_text_outcome accepted] at failed
    cases judged : (judgeClauses registry field value
        (record.insert field value) clauses).outcome with
    | ok finding =>
        rw [judged] at failed
        cases failed
    | error reason =>
        obtain ⟨bad, reached, -⟩ := (judgeClauses_outcome_error_iff_reaches bare).mp judged
        exact ⟨bad, reached⟩
  · rintro ⟨bad, reached⟩
    obtain ⟨mistake, failed, -⟩ := validateField_blames bare accepted reached
    exact ⟨.mistake mistake, failed⟩

/-- A record is validated when all clauses of all expressions are well-formed. -/
theorem exists_report_of_wellFormed (bare : registry.Bare) (record : Table Value)
    {rules : Table Value}
    (wellFormed : ∀ entry ∈ rules.entries, ∃ expression clauses, entry.2 = .text expression ∧
      Expression.read expression = .ok clauses ∧ ∀ clause ∈ clauses, clause.WellFormed) :
    ∃ report, (validate registry record rules).outcome = .ok report := by
  rw [validate_outcome]
  cases found : findings registry record (heldFields record rules.entries) with
  | ok found =>
      exact ⟨_, rfl⟩
  | error failure =>
      obtain ⟨before, held, after, split, -, failed⟩ := findings_eq_error_iff.mp found
      have member : held ∈ heldFields record rules.entries := by
        simp [split]
      obtain ⟨entry, entryMember, value, -, rfl⟩ := mem_heldFields.mp member
      obtain ⟨expression, clauses, text, accepted, clean⟩ := wellFormed entry entryMember
      obtain ⟨finding, judged⟩ := exists_judgement_of_wellFormed bare clean
      rw [judgement, text, judgeField_text accepted, judged] at failed
      cases failed

/-- With the built-in rules alone, validating a field fails exactly when the first clause
that is not well-formed is reached, and it is blamed on this clause.  So a record is
validated whenever all clauses of all expressions are well-formed. -/
theorem validation_fails_iff_reaches_illFormed (bare : registry.Bare) :
    (∀ expression clauses field value record, Expression.read expression = .ok clauses →
      let outcome := (validateField registry field value (.text expression) record).outcome
      let reaches := ReachesIllFormed registry value (record.insert field value) clauses
      ((∃ failure, outcome = .error failure) ↔ ∃ bad, reaches bad) ∧
        ∀ bad, reaches bad →
          ∃ mistake, outcome = .error (.mistake mistake) ∧
            mistake.kind = bad.mistakeKind ∧ mistake.concerns = bad.name) ∧
      ∀ record rules : Table Value,
        (∀ entry ∈ rules.entries, ∃ expression clauses, entry.2 = .text expression ∧
          Expression.read expression = .ok clauses ∧ ∀ clause ∈ clauses, clause.WellFormed) →
        ∃ report, (validate registry record rules).outcome = .ok report := by
  refine ⟨?_, fun record rules wellFormed => exists_report_of_wellFormed bare record wellFormed⟩
  intro expression clauses field value record accepted outcome reaches
  refine ⟨validateField_fails_iff_reaches bare accepted record, ?_⟩
  intro bad reached
  exact validateField_blames bare accepted reached

end

open scoped Host

/-- A bound that is no number is reached behind `required`, and an unknown rule behind it
is not; `min` with a readable bound is well-formed whatever the value is. -/
theorem unreadable_bound_is_blamed :
    let registry : Registry := ⟨.empty, .empty, .ofList [("a", .text "A")]⟩
    registry.Bare ∧
      (∃ clauses, Expression.read "required|min:x|nope" = .ok clauses) ∧
      (∃ mistake,
        (validateField registry "a" (.text "ab") (.text "required|min:x|nope") .empty).outcome =
            .error (.mistake mistake) ∧
          mistake.kind = .ruleArgument ∧ mistake.concerns = "min") ∧
      ∃ report,
        (validate registry (.ofList [("a", .list [])])
          (.ofList [("a", .text "min:2")])).outcome = .ok report := by
  intro registry
  have bare : registry.Bare := by
    refine ⟨rfl, rfl, (Table.all_empty _).insert "a" ?_⟩
    rfl
  let required : Clause := ⟨"required", [], by decide⟩
  let bad : Clause := ⟨"min", ["x"], by decide⟩
  let unknown : Clause := ⟨"nope", [], by decide⟩
  have accepted : Expression.read "required|min:x|nope" = .ok [required, bad, unknown] := by
    rfl
  have illFormed : ¬ bad.WellFormed := by
    rintro ⟨rule, name, taken⟩
    have minimum : rule = .min := by
      cases rule <;> first | rfl | exact absurd name (by decide)
    subst minimum
    obtain ⟨written, bound, arguments, read⟩ := taken
    cases arguments
    cases read
  have reached : ReachesIllFormed registry (.text "ab")
      (Table.insert .empty "a" (.text "ab")) [required, bad, unknown] bad := by
    refine ⟨[required], [unknown], rfl, illFormed, ?_⟩
    intro clause member
    cases List.mem_singleton.mp member
    exact ⟨⟨.required, rfl, rfl⟩, .ofBuiltIn .required, rfl, rfl⟩
  have minimum : Expression.read "min:2" = .ok [⟨"min", ["2"], by decide⟩] := by
    rfl
  refine ⟨bare, ⟨_, accepted⟩, ?_, ?_⟩
  · exact ((validation_fails_iff_reaches_illFormed bare).1 _ _ "a" (.text "ab") .empty accepted).2
      bad reached
  · refine (validation_fails_iff_reaches_illFormed bare).2 _ _ ?_
    intro entry member
    cases List.mem_singleton.mp member
    refine ⟨"min:2", _, rfl, minimum, ?_⟩
    intro clause only
    cases List.mem_singleton.mp only
    exact ⟨.min, rfl, "2", _, rfl, rfl⟩

end Validation

end FormCheck
