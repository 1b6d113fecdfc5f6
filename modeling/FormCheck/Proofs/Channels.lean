import FormCheck.Host.Plain
import FormCheck.Predicate.Stock
import FormCheck.Proofs.FieldByField
import FormCheck.Proofs.WellFormed

/-!
# Where notices go

The rule of a clause may give notices about a value, in any number and of any category.  Each
of them goes one of two ways.  A notice that the value is of an unsupported type is collected:
it becomes a warning of the report, under the field and under the name that the clause has for
the rule, whatever name the notice itself has, and it gets an entry in the journal.  Every
other notice is passed on as it is.  Both ways keep the order in which the notices were given,
so nothing is lost and nothing comes twice.

Notices come from the clauses that are applied: those up to the first one that the value does
not pass.  Among the built-in rules only `min` and `max` give one, on a value without a size,
which they let pass.
-/

namespace FormCheck.BuiltIn

/-! ## Built-in rules -/

/-- The rule compares sizes, and the value has none. -/
def IsUnsupported (rule : BuiltIn) (value : Value) : Prop :=
  (rule = .min ∨ rule = .max) ∧ value.kind ≠ .string ∧ value.kind ≠ .number

/-- What a rule notes when it gives a verdict: a value that it does not support passes with
one notice, and about other values it gives none. -/
def NotesOnlyUnsupported (rule : BuiltIn) (value : Value) (judged : Traced Notice Bool) : Prop :=
  ∀ passed, judged.outcome = .ok passed →
    (rule.IsUnsupported value →
        judged.trace = [unsupportedNotice rule.name value] ∧ passed = true) ∧
      (¬ rule.IsUnsupported value → judged.trace = [])

theorem notes_compare {rule : BuiltIn} (compares : rule = .min ∨ rule = .max)
    (holds : Option Position → Option Position → Bool) (value : Value)
    (written? : Option String) :
    rule.NotesOnlyUnsupported value (compare rule.name holds value written?) := by
  intro passed judged
  cases read : readBound rule.name written? with
  | error mistake =>
      simp [compare, read, Traced.fail] at judged
  | ok bound =>
      cases value <;>
        simp_all [compare, measure, IsUnsupported, Value.kind, Traced.done]

theorem notes_done {rule : BuiltIn} (compares : ¬ (rule = .min ∨ rule = .max)) (value : Value)
    (verdict : Bool) : rule.NotesOnlyUnsupported value (.done verdict) := by
  intro passed judged
  refine ⟨?_, fun _ => rfl⟩
  intro unsupported
  exact absurd unsupported.1 compares

theorem notes_fail (rule : BuiltIn) (value : Value) (failure : Failure) :
    rule.NotesOnlyUnsupported value (.fail failure) := by
  intro passed judged
  cases judged

theorem notes_judge (rule : BuiltIn) (value : Value) (arguments : List (Option String))
    (surroundings? : Option (Table Value)) :
    rule.NotesOnlyUnsupported value (rule.judge value arguments surroundings?) := by
  -- The cases are those of the definition: `min` and `max` without a bound and with one, and
  -- arguments that no rule takes.
  fun_cases judge rule value arguments surroundings? with
  | case7 => exact notes_compare (.inl rfl) _ value none
  | case8 bound => exact notes_compare (.inl rfl) _ value bound
  | case9 => exact notes_compare (.inr rfl) _ value none
  | case10 bound => exact notes_compare (.inr rfl) _ value bound
  | case12 => exact notes_fail rule value _
  | _ => exact notes_done (by decide) value _

/-- A built-in rule does not get as far as to note anything when it refuses its arguments. -/
theorem notes_check (rule : BuiltIn) (value : Value) (arguments : List String)
    (surroundings : Table Value) :
    rule.NotesOnlyUnsupported value
      ((Rule.ofBuiltIn rule).check value arguments surroundings) := by
  rw [check_ofBuiltIn]
  split
  · exact notes_fail rule value _
  · exact notes_judge rule value _ _

end FormCheck.BuiltIn

namespace FormCheck.Validation

section

variable {registry : Registry} {field : String} {value : Value} {surroundings : Table Value}

/-! ## What is given -/

def passes (registry : Registry) (value : Value) (surroundings : Table Value)
    (clause : Clause) : Bool :=
  match registry.lookup clause.name with
  | .error _ => false
  | .ok rule =>
      match (rule.check value clause.arguments surroundings).outcome with
      | .ok passed => passed
      | .error _ => false

theorem passes_iff {clause : Clause} :
    passes registry value surroundings clause = true ↔
      Passes registry value surroundings clause := by
  cases known : registry.lookup clause.name with
  | error mistake =>
      simp [passes, Passes, known]
  | ok rule =>
      cases judged : (rule.check value clause.arguments surroundings).outcome <;>
        simp [passes, Passes, known, judged]

/-- The notices that the rule of a clause gives about a value.  Those of a rule that fails to
judge are lost. -/
def given (registry : Registry) (value : Value) (surroundings : Table Value)
    (clause : Clause) : List Notice :=
  match registry.lookup clause.name with
  | .error _ => []
  | .ok rule =>
      match (rule.check value clause.arguments surroundings).outcome with
      | .ok _ => (rule.check value clause.arguments surroundings).trace
      | .error _ => []

structure Emission where
  field : String
  rule : String
  notice : Notice

namespace Emission

def isCollected (emission : Emission) : Bool :=
  emission.notice.isUnsupportedValue

def warning (emission : Emission) : RuleWarning :=
  ⟨emission.field, emission.rule, emission.notice.text⟩

def event (emission : Emission) : Event :=
  eventOf emission.field emission.rule emission.notice

end Emission

def collected (emissions : List Emission) : List RuleWarning :=
  (emissions.filter Emission.isCollected).map Emission.warning

/-- The notices that are passed on. -/
def passedOn (emissions : List Emission) : List Notice :=
  (emissions.filter fun emission => !emission.isCollected).map Emission.notice

theorem collected_append (first second : List Emission) :
    collected (first ++ second) = collected first ++ collected second := by
  simp [collected]

theorem collected_flatMap {α : Type} (emissionsOf : α → List Emission) (items : List α) :
    collected (items.flatMap emissionsOf) =
      items.flatMap fun item => collected (emissionsOf item) := by
  simp [collected, List.filter_flatMap, List.map_flatMap]

theorem passedOn_append (first second : List Emission) :
    passedOn (first ++ second) = passedOn first ++ passedOn second := by
  simp [passedOn]

theorem length_collected_add_length_passedOn (emissions : List Emission) :
    (collected emissions).length + (passedOn emissions).length = emissions.length := by
  simp only [collected, passedOn, List.length_map]
  exact (List.length_eq_length_filter_add Emission.isCollected).symm

/-- A notice that is not collected is passed on. -/
theorem notices_event (emissions : List Emission) :
    Event.notices (emissions.map Emission.event) = passedOn emissions := by
  induction emissions with
  | nil =>
      rfl
  | cons emission rest inductionHypothesis =>
      rw [Event.notices] at inductionHypothesis
      cases kept : emission.notice.isUnsupportedValue <;>
        simp [Event.notices, passedOn, Emission.event, Emission.isCollected, eventOf, kept,
          inductionHypothesis]

/-- The clauses that are applied to a value: those up to the first one that it does not
pass. -/
def applied (registry : Registry) (value : Value) (surroundings : Table Value)
    (clauses : List Clause) : List Clause :=
  upToFirst (passes registry value surroundings) clauses

/-- The notices that the rule of a clause gives about the value of a field. -/
def emittedBy (registry : Registry) (field : String) (value : Value)
    (surroundings : Table Value) (clause : Clause) : List Emission :=
  (given registry value surroundings clause).map fun notice => ⟨field, clause.name, notice⟩

def emitted (registry : Registry) (field : String) (value : Value)
    (surroundings : Table Value) (clauses : List Clause) : List Emission :=
  (applied registry value surroundings clauses).flatMap
    (emittedBy registry field value surroundings)

theorem emitted_cons (clause : Clause) (rest : List Clause) :
    emitted registry field value surroundings (clause :: rest) =
      emittedBy registry field value surroundings clause ++
        if passes registry value surroundings clause then
          emitted registry field value surroundings rest
        else
          [] := by
  rw [emitted, applied, upToFirst, List.flatMap_cons]
  cases passes registry value surroundings clause <;> rfl

theorem collected_emittedBy (clause : Clause) :
    collected (emittedBy registry field value surroundings clause) =
      warningsOf field clause.name (given registry value surroundings clause) := by
  rw [collected, emittedBy, List.filter_map, List.map_map]
  rfl

/-! ## One field -/

variable [Host]

theorem judgeClause_trace (clause : Clause) :
    (judgeClause registry field value surroundings clause).trace =
      (emittedBy registry field value surroundings clause).map Emission.event := by
  rw [judgeClause, emittedBy, given, List.map_map]
  cases registry.lookup clause.name with
  | error mistake =>
      rfl
  | ok rule =>
      simp only
      cases (rule.check value clause.arguments surroundings).outcome <;> rfl

theorem judgeClause_warnings {clause : Clause} {finding : Finding}
    (judged : (judgeClause registry field value surroundings clause).outcome = .ok finding) :
    finding.warnings = collected (emittedBy registry field value surroundings clause) := by
  rw [collected_emittedBy]
  cases known : registry.lookup clause.name with
  | error mistake =>
      rw [judgeClause_of_unknown known] at judged
      cases judged
  | ok rule =>
      cases checked : (rule.check value clause.arguments surroundings).outcome with
      | error failure =>
          rw [judgeClause_of_check_error known checked] at judged
          cases judged
      | ok passed =>
          have gives : given registry value surroundings clause =
              (rule.check value clause.arguments surroundings).trace := by
            simp only [given, known, checked]
          rw [judgeClause_outcome_of_check known checked, ← gives] at judged
          cases passed with
          | true =>
              cases judged
              rfl
          | false =>
              obtain ⟨message, -, rfl⟩ := map_eq_ok_iff.mp judged
              rfl

/-- Whether a clause is found to be without an error decides whether the next one is applied. -/
theorem passes_of_judged {clause : Clause} {finding : Finding}
    (judged : (judgeClause registry field value surroundings clause).outcome = .ok finding) :
    passes registry value surroundings clause = finding.error?.isNone := by
  rw [Bool.eq_iff_iff, passes_iff, ← exists_finding_without_error_iff field, judged,
    Option.isNone_iff_eq_none]
  constructor
  · rintro ⟨found, same, clear⟩
    cases same
    exact clear
  · intro clear
    exact ⟨finding, rfl, clear⟩

theorem passes_of_unjudged {clause : Clause} {failure : Failure}
    (failed : (judgeClause registry field value surroundings clause).outcome = .error failure) :
    passes registry value surroundings clause = false := by
  rw [Bool.eq_false_iff, ne_eq, passes_iff, ← exists_finding_without_error_iff field, failed]
  simp

/-- When clauses can be judged, the first one can, and the others can unless the value does
not pass the first one. -/
theorem judgeClauses_cons_ok {clause : Clause} {rest : List Clause} {finding : Finding}
    (judged : (judgeClauses registry field value surroundings (clause :: rest)).outcome =
      .ok finding) :
    ∃ here, (judgeClause registry field value surroundings clause).outcome = .ok here ∧
      (passes registry value surroundings clause = false ∧ finding = here ∨
        passes registry value surroundings clause = true ∧
          ∃ later, (judgeClauses registry field value surroundings rest).outcome = .ok later ∧
            finding = later.after here.warnings) := by
  rw [judgeClauses_cons_outcome] at judged
  cases first : (judgeClause registry field value surroundings clause).outcome with
  | error failure =>
      rw [first] at judged
      cases judged
  | ok here =>
      refine ⟨here, rfl, ?_⟩
      rw [passes_of_judged first]
      simp only [first] at judged
      cases error : here.error? with
      | some found =>
          simp only [error, Option.isSome_some, ↓reduceIte, Except.ok.injEq] at judged
          exact .inl ⟨rfl, judged.symm⟩
      | none =>
          simp only [error, Option.isSome_none, Bool.false_eq_true, ↓reduceIte] at judged
          obtain ⟨later, found, same⟩ := map_eq_ok_iff.mp judged
          exact .inr ⟨rfl, later, found, same.symm⟩

/-- The journal of clauses tells what became of the notices that they gave. -/
theorem judgeClauses_trace (clauses : List Clause) :
    (judgeClauses registry field value surroundings clauses).trace =
      (emitted registry field value surroundings clauses).map Emission.event := by
  induction clauses with
  | nil =>
      rfl
  | cons clause rest inductionHypothesis =>
      rw [judgeClauses, Traced.andThen, emitted_cons, List.map_append, ← judgeClause_trace]
      cases judged : (judgeClause registry field value surroundings clause).outcome with
      | error failure =>
          simp [passes_of_unjudged judged]
      | ok finding =>
          rw [passes_of_judged judged]
          cases error : finding.error? with
          | some found =>
              simp [error, Traced.done]
          | none =>
              simp [error, Traced.andThen_done_of, inductionHypothesis]

theorem judgeClauses_warnings {clauses : List Clause} {finding : Finding}
    (judged : (judgeClauses registry field value surroundings clauses).outcome = .ok finding) :
    finding.warnings = collected (emitted registry field value surroundings clauses) := by
  induction clauses generalizing finding with
  | nil =>
      cases judged
      rfl
  | cons clause rest inductionHypothesis =>
      obtain ⟨here, first, ⟨stops, rfl⟩ | ⟨goesOn, later, found, rfl⟩⟩ :=
        judgeClauses_cons_ok judged
      · rw [emitted_cons, stops, if_neg Bool.false_ne_true, List.append_nil,
          judgeClause_warnings first]
      · rw [emitted_cons, goesOn, if_pos rfl, collected_append, ← judgeClause_warnings first,
          ← inductionHypothesis found]
        rfl

/-- The notices that the clauses of a field of a record give about its value. -/
def emissions (registry : Registry) (record : Table Value) (held : HeldField) : List Emission :=
  match Expression.readValue held.expression with
  | .error _ => []
  | .ok clauses =>
      emitted registry held.field held.value record clauses

variable {record rules : Table Value}

theorem judgeField_trace (held : HeldField) :
    (judgeField registry record held.field held.value held.expression).trace =
      (emissions registry record held).map Emission.event := by
  rw [judgeField, emissions]
  cases Expression.readValue held.expression with
  | error failure =>
      rfl
  | ok clauses =>
      exact judgeClauses_trace clauses

theorem judgement_warnings {held : HeldField} {finding : Finding}
    (judged : judgement registry record held = .ok finding) :
    finding.warnings = collected (emissions registry record held) := by
  rw [judgement, judgeField] at judged
  rw [emissions]
  cases read : Expression.readValue held.expression with
  | error failure =>
      rw [read] at judged
      cases judged
  | ok clauses =>
      rw [read] at judged
      exact judgeClauses_warnings judged

/-! ## A record -/

/-- The events of a field with an expression: it is passed over, or the clauses of the
expression give notices about its value. -/
def events (registry : Registry) (record : Table Value) (entry : String × Value) : List Event :=
  match record.get? entry.1 with
  | none => [skipped entry.1]
  | some value => (emissions registry record ⟨entry.1, value, entry.2⟩).map Emission.event

def goesOn (registry : Registry) (record : Table Value) (entry : String × Value) : Bool :=
  match record.get? entry.1 with
  | none => true
  | some value => (judgement registry record ⟨entry.1, value, entry.2⟩).isOk

/-- The fields that a validation comes to: those up to the first one that cannot be judged. -/
def met (registry : Registry) (record : Table Value) (expressions : List (String × Value)) :
    List (String × Value) :=
  upToFirst (goesOn registry record) expressions

theorem goesOn_of_none {field : String} (absent : record.get? field = none)
    (expression : Value) : goesOn registry record (field, expression) = true := by
  simp only [goesOn, absent]

theorem goesOn_of_some (held : HeldField) (present : record.get? held.field = some held.value) :
    goesOn registry record (held.field, held.expression) =
      (judgement registry record held).isOk := by
  simp only [goesOn, present]

/-- The journal of fields tells of each field that is come to, in order. -/
theorem judgeFields_trace (expressions : List (String × Value)) (report : Report) :
    (judgeFields registry record report expressions).trace =
      (met registry record expressions).flatMap (events registry record) := by
  induction expressions generalizing report with
  | nil =>
      rfl
  | cons entry rest inductionHypothesis =>
      obtain ⟨name, expression⟩ := entry
      rw [met, upToFirst, List.flatMap_cons]
      rw [met] at inductionHypothesis
      cases present : record.get? name with
      | none =>
          rw [goesOn_of_none present, if_pos rfl, ← inductionHypothesis report]
          simp only [judgeFields, events, present]
          rfl
      | some content =>
          let held : HeldField := ⟨name, content, expression⟩
          have here : (judgeField registry record name content expression).trace =
              events registry record (name, expression) := by
            rw [judgeField_trace held]
            simp only [events, present, held]
          simp only [judgeFields, present, Traced.andThen, ← here]
          rw [goesOn_of_some held present, judgement]
          cases (judgeField registry record name content expression).outcome with
          | error failure =>
              simp [Except.isOk, Except.toBool]
          | ok finding =>
              simp [Except.isOk, Except.toBool, inductionHypothesis]

omit [Host] in
/-- What is passed on while fields are judged was given about the fields that are held. -/
theorem notices_events (expressions : List (String × Value)) :
    Event.notices (expressions.flatMap (events registry record)) =
      passedOn ((heldFields record expressions).flatMap (emissions registry record)) := by
  induction expressions with
  | nil =>
      rfl
  | cons entry rest inductionHypothesis =>
      obtain ⟨name, expression⟩ := entry
      have first : Event.notices (((name, expression) :: rest).flatMap (events registry record)) =
          Event.notices (events registry record (name, expression)) ++
            Event.notices (rest.flatMap (events registry record)) := by
        rw [List.flatMap_cons]
        exact List.filterMap_append
      rw [first, inductionHypothesis]
      cases present : record.get? name with
      | none =>
          rw [heldFields_cons_of_none present]
          simp only [events, present]
          rfl
      | some content =>
          rw [heldFields_cons_of_some present, List.flatMap_cons, passedOn_append]
          simp only [events, present, notices_event]

theorem met_of_returned {report : Report}
    (returned : (validate registry record rules).outcome = .ok report) :
    met registry record rules.entries = rules.entries := by
  obtain ⟨finding, each, -, -⟩ := validate_eq_ok_iff.mp returned
  refine upToFirst_of_forall ?_
  rintro ⟨name, expression⟩ member
  cases present : record.get? name with
  | none =>
      exact goesOn_of_none present expression
  | some content =>
      have held : ⟨name, content, expression⟩ ∈ heldFields record rules.entries :=
        mem_heldFields.mpr ⟨_, member, content, present, rfl⟩
      rw [goesOn_of_some ⟨name, content, expression⟩ present, each _ held]
      rfl

theorem warnings_of_returned {report : Report}
    (returned : (validate registry record rules).outcome = .ok report) :
    report.warnings =
      collected ((heldFields record rules.entries).flatMap (emissions registry record)) := by
  obtain ⟨finding, each, -, warnings⟩ := validate_eq_ok_iff.mp returned
  rw [warnings, collected_flatMap]
  refine List.flatMap_congr fun held member => ?_
  exact judgement_warnings (each held member)

/-- The journal of a validation begins and ends with an entry. -/
theorem notices_validate :
    Event.notices (validate registry record rules).trace =
      passedOn ((heldFields record (met registry record rules.entries)).flatMap
        (emissions registry record)) := by
  rw [← notices_events, ← judgeFields_trace rules.entries ⟨.empty, []⟩]
  simp [validate, Journal.around, Event.notices]

/-! ## Rules that give notices -/

theorem judged_of_applied {clauses : List Clause} {finding : Finding}
    (judged : (judgeClauses registry field value surroundings clauses).outcome = .ok finding)
    {clause : Clause} (member : clause ∈ applied registry value surroundings clauses) :
    ∃ found, (judgeClause registry field value surroundings clause).outcome = .ok found := by
  induction clauses generalizing finding with
  | nil =>
      cases member
  | cons first rest inductionHypothesis =>
      rw [applied, upToFirst, List.mem_cons] at member
      obtain ⟨here, judgedFirst, ⟨stops, -⟩ | ⟨goesOn, later, judgedRest, -⟩⟩ :=
        judgeClauses_cons_ok judged
      · rw [stops, if_neg Bool.false_ne_true] at member
        rcases member with rfl | nothing
        · exact ⟨here, judgedFirst⟩
        · cases nothing
      · rw [goesOn, if_pos rfl] at member
        rcases member with rfl | behind
        · exact ⟨here, judgedFirst⟩
        · exact inductionHypothesis judgedRest behind

/-- The notices that a clause of a built-in rule gives when it can be judged. -/
theorem given_of_builtIn {clause : Clause} {rule : BuiltIn} {finding : Finding}
    (known : registry.lookup clause.name = .ok (.ofBuiltIn rule))
    (judged : (judgeClause registry field value surroundings clause).outcome = .ok finding) :
    (rule.IsUnsupported value →
        given registry value surroundings clause = [BuiltIn.unsupportedNotice rule.name value] ∧
          Passes registry value surroundings clause) ∧
      (¬ rule.IsUnsupported value → given registry value surroundings clause = []) := by
  cases checked : ((Rule.ofBuiltIn rule).check value clause.arguments surroundings).outcome with
  | error failure =>
      rw [judgeClause_of_check_error known checked] at judged
      cases judged
  | ok passed =>
      obtain ⟨unsupported, supported⟩ := BuiltIn.notes_check rule value clause.arguments
        surroundings passed checked
      simp only [given, known, checked]
      refine ⟨?_, supported⟩
      intro isUnsupported
      obtain ⟨noted, rfl⟩ := unsupported isUnsupported
      exact ⟨noted, _, known, checked⟩

/-- A validation that returns collects some of the notices that were given and passes on the
others, each kind in the order in which they were given.  A built-in rule gives a notice only
when it compares sizes and the value has none; it gives one, and lets the value pass. -/
theorem notices_go_one_way {report : Report}
    (returned : (validate registry record rules).outcome = .ok report) :
    let fields := heldFields record rules.entries
    let raised := fields.flatMap (emissions registry record)
    let onward := Event.notices (validate registry record rules).trace
    report.warnings = collected raised ∧ onward = passedOn raised ∧
      report.warnings.length + onward.length = raised.length ∧
      ∀ held ∈ fields, ∃ clauses, Expression.readValue held.expression = .ok clauses ∧
        ∀ clause ∈ applied registry held.value record clauses,
        ∀ rule : BuiltIn, registry.lookup clause.name = .ok (.ofBuiltIn rule) →
          (rule.IsUnsupported held.value →
            given registry held.value record clause =
                [BuiltIn.unsupportedNotice rule.name held.value] ∧
              Passes registry held.value record clause) ∧
          (¬ rule.IsUnsupported held.value →
            given registry held.value record clause = []) := by
  intro fields raised onward
  have warnings : report.warnings = collected raised := warnings_of_returned returned
  have passed : onward = passedOn raised := by
    rw [show onward = _ from notices_validate, met_of_returned returned]
  refine ⟨warnings, passed, ?_, ?_⟩
  · rw [warnings, passed, length_collected_add_length_passedOn]
  · intro held member
    obtain ⟨finding, each, -, -⟩ := validate_eq_ok_iff.mp returned
    have judged := each held member
    rw [judgement, judgeField] at judged
    cases read : Expression.readValue held.expression with
    | error failure =>
        rw [read] at judged
        cases judged
    | ok clauses =>
        rw [read] at judged
        refine ⟨clauses, rfl, ?_⟩
        intro clause isApplied rule known
        obtain ⟨found, here⟩ := judged_of_applied judged isApplied
        exact given_of_builtIn known here

end

open scoped Host

/-- Notices of three categories about one value, and one of a rule that compares sizes, before a
clause that the value does not pass. -/
theorem interleaved_notices_go_one_way :
    let talks : Predicate := .ofValue fun _ =>
      { trace := [⟨.unsupportedValue "inner", "first"⟩, ⟨.supplied "ResourceWarning", "second"⟩,
          ⟨.unsupportedValue "inner", "third"⟩, ⟨.deprecation, "fourth"⟩]
        outcome := .ok true }
    let registry : Registry := ⟨.ofList [("talks", ⟨"talks", talks, none, false⟩)], .empty, .empty⟩
    let record : Table Value := .ofList [("tags", .list [])]
    let rules : Table Value :=
      .ofList [("name", .text "talks"), ("tags", .text "talks|min:1|string|talks")]
    ∃ report, (validate registry record rules).outcome = .ok report ∧
      report.warnings = [⟨"tags", "talks", "first"⟩, ⟨"tags", "talks", "third"⟩,
        ⟨"tags", "min", "The \"min\" rule works only with types: string, number (got list)"⟩] ∧
      Event.notices (validate registry record rules).trace =
        [⟨.supplied "ResourceWarning", "second"⟩, ⟨.deprecation, "fourth"⟩] := by
  intro talks registry record rules
  have returned : ∃ report, (validate registry record rules).outcome = .ok report := ⟨_, rfl⟩
  obtain ⟨report, returned⟩ := returned
  obtain ⟨warnings, onward, -, -⟩ := notices_go_one_way returned
  exact ⟨report, returned, warnings.trans rfl, onward.trans rfl⟩

end FormCheck.Validation
