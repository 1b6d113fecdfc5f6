import FormCheck.Proofs.Outcomes
import FormCheck.Validation

/-!
# How a field is judged

The clauses of a field are judged one after another, and judging them fails exactly
when it comes to a clause that cannot be judged: every clause before it passes.  The
outcome for a field depends on the record only through the verdicts of the rules of
its clauses.

A validation of a record takes only the fields that the record has.  It fails with the
first of them that cannot be judged, and otherwise reports what is found for each, in
order.  A validation of one field reports what is found for this field alone.

What the journal of a validation says is not looked at here.
-/

namespace FormCheck

/-- A rule that is found was added under its name, or it is the built-in rule of that name. -/
theorem Registry.lookup_eq_ok_cases {registry : Registry} {name : String} {rule : Rule}
    (found : registry.lookup name = .ok rule) :
    registry.rules.get? name = some rule ∨
      ∃ builtIn : BuiltIn, name = builtIn.name ∧ rule = .ofBuiltIn builtIn := by
  rw [lookup, rule?] at found
  cases added : registry.rules.get? name with
  | some other =>
      rw [added] at found
      exact .inl (congrArg some (Except.ok.inj found))
  | none =>
      rw [added] at found
      cases named : BuiltIn.ofName? name with
      | none =>
          simp [named] at found
      | some builtIn =>
          rw [named] at found
          exact .inr ⟨builtIn, BuiltIn.ofName?_eq_some_iff.mp named, (Except.ok.inj found).symm⟩

namespace Validation

/-! ## Fields of a record -/

/-- A field that a record has, with its value and its expression. -/
structure HeldField where
  field : String
  value : Value
  expression : Value

/-- The fields with an expression that the record has, in the order of the expressions. -/
def heldFields (record : Table Value) (expressions : List (String × Value)) : List HeldField :=
  expressions.filterMap fun entry =>
    (record.get? entry.1).map fun value => ⟨entry.1, value, entry.2⟩

theorem mem_heldFields {record : Table Value} {expressions : List (String × Value)}
    {held : HeldField} :
    held ∈ heldFields record expressions ↔
      ∃ entry ∈ expressions, ∃ value, record.get? entry.1 = some value ∧
        ⟨entry.1, value, entry.2⟩ = held := by
  simp [heldFields]

theorem heldFields_cons_of_none {record : Table Value} {field : String}
    (absent : record.get? field = none) (expression : Value)
    (rest : List (String × Value)) :
    heldFields record ((field, expression) :: rest) = heldFields record rest := by
  simp [heldFields, absent]

theorem heldFields_cons_of_some {record : Table Value} {field : String} {value : Value}
    (present : record.get? field = some value) (expression : Value)
    (rest : List (String × Value)) :
    heldFields record ((field, expression) :: rest) =
      ⟨field, value, expression⟩ :: heldFields record rest := by
  simp [heldFields, present]

/-- The report of one field: its error, if it has one, and its warnings. -/
def reportOf (field : String) (finding : Finding) : Report :=
  add ⟨.empty, []⟩ field finding

@[simp]
theorem warnings_reportOf (field : String) (finding : Finding) :
    (reportOf field finding).warnings = finding.warnings := by
  simp [reportOf, add]

@[simp]
theorem errorFor?_reportOf (field : String) (finding : Finding) :
    (reportOf field finding).errorFor? field = finding.error? := by
  cases error : finding.error? <;>
    simp [reportOf, add, error, Report.errorFor?, Table.get?_insert]

variable [Host] {registry : Registry} {field : String} {value : Value} {surroundings : Table Value}

/-- A clause passes: its rule lets the value pass. -/
def Passes (registry : Registry) (value : Value) (surroundings : Table Value)
    (clause : Clause) : Prop :=
  ∃ rule, registry.lookup clause.name = .ok rule ∧
    (rule.check value clause.arguments surroundings).outcome = .ok true

/-! ## One clause -/

theorem judgeClause_of_unknown {clause : Clause} {mistake : Mistake}
    (unknown : registry.lookup clause.name = .error mistake) :
    judgeClause registry field value surroundings clause = .fail (.mistake mistake) := by
  simp only [judgeClause, unknown]

theorem judgeClause_of_check_error {clause : Clause} {rule : Rule} {failure : Failure}
    (known : registry.lookup clause.name = .ok rule)
    (failed : (rule.check value clause.arguments surroundings).outcome = .error failure) :
    judgeClause registry field value surroundings clause = .fail failure := by
  simp only [judgeClause, known, failed]

/-- A rule that judges gives a finding, without an error when the value passes and with
the rendered message when it does not. -/
theorem judgeClause_outcome_of_check {clause : Clause} {rule : Rule} {passed : Bool}
    (known : registry.lookup clause.name = .ok rule)
    (judged : (rule.check value clause.arguments surroundings).outcome = .ok passed) :
    (judgeClause registry field value surroundings clause).outcome =
      let warnings := warningsOf field clause.name
        (rule.check value clause.arguments surroundings).trace
      if passed then
        .ok ⟨none, warnings⟩
      else
        (registry.renderMessage clause.name value clause.arguments).map fun message =>
          ⟨some ⟨clause.name, message⟩, warnings⟩ := by
  simp only [judgeClause, known, judged]
  cases passed with
  | true =>
      rfl
  | false =>
      cases registry.renderMessage clause.name value clause.arguments <;> rfl

/-- A clause cannot be judged because its rule is unknown, because the rule fails to judge,
or because the message for a value that fails the rule is not rendered. -/
theorem judgeClause_error_cases {clause : Clause} {failure : Failure}
    (failed : (judgeClause registry field value surroundings clause).outcome = .error failure) :
    (∃ mistake, registry.lookup clause.name = .error mistake ∧ failure = .mistake mistake) ∨
      ∃ rule, registry.lookup clause.name = .ok rule ∧
        ((rule.check value clause.arguments surroundings).outcome = .error failure ∨
          (rule.check value clause.arguments surroundings).outcome = .ok false ∧
            registry.renderMessage clause.name value clause.arguments = .error failure) := by
  cases known : registry.lookup clause.name with
  | error mistake =>
      rw [judgeClause_of_unknown known] at failed
      cases failed
      exact .inl ⟨mistake, rfl, rfl⟩
  | ok rule =>
      refine .inr ⟨rule, rfl, ?_⟩
      cases judged : (rule.check value clause.arguments surroundings).outcome with
      | error reason =>
          rw [judgeClause_of_check_error known judged] at failed
          cases failed
          exact .inl rfl
      | ok passed =>
          rw [judgeClause_outcome_of_check known judged] at failed
          cases passed with
          | true =>
              cases failed
          | false =>
              exact .inr ⟨rfl, map_eq_error_iff.mp failed⟩

/-- A clause is found to be without an error exactly when it passes. -/
theorem exists_finding_without_error_iff (field : String) {clause : Clause} :
    (∃ finding, (judgeClause registry field value surroundings clause).outcome = .ok finding ∧
      finding.error? = none) ↔ Passes registry value surroundings clause := by
  constructor
  · rintro ⟨finding, found, clear⟩
    cases known : registry.lookup clause.name with
    | error mistake =>
        rw [judgeClause_of_unknown known] at found
        cases found
    | ok rule =>
        cases judged : (rule.check value clause.arguments surroundings).outcome with
        | error failure =>
            rw [judgeClause_of_check_error known judged] at found
            cases found
        | ok passed =>
            refine ⟨rule, known, ?_⟩
            rw [judgeClause_outcome_of_check known judged] at found
            cases passed with
            | true =>
                exact judged
            | false =>
                cases rendered : registry.renderMessage clause.name value clause.arguments with
                | error failure =>
                    simp [rendered, Except.map] at found
                | ok message =>
                    simp only [rendered, Except.map, Bool.false_eq_true, ↓reduceIte,
                      Except.ok.injEq] at found
                    rw [← found] at clear
                    cases clear
  · rintro ⟨rule, known, judged⟩
    exact ⟨_, judgeClause_outcome_of_check known judged, rfl⟩

/-- Judging a clause depends on the record only through the verdict of its rule. -/
theorem judgeClause_congr {left right : Table Value} {clause : Clause}
    (same : ∀ rule, registry.lookup clause.name = .ok rule →
      rule.check value clause.arguments left = rule.check value clause.arguments right) :
    judgeClause registry field value left clause =
      judgeClause registry field value right clause := by
  cases known : registry.lookup clause.name with
  | error mistake =>
      rw [judgeClause_of_unknown known, judgeClause_of_unknown known]
  | ok rule =>
      simp only [judgeClause, known, same rule known]

/-! ## Clauses in order -/

theorem judgeClauses_cons_outcome (clause : Clause) (rest : List Clause) :
    (judgeClauses registry field value surroundings (clause :: rest)).outcome =
      match (judgeClause registry field value surroundings clause).outcome with
      | .error failure => .error failure
      | .ok finding =>
          if finding.error?.isSome then
            .ok finding
          else
            (judgeClauses registry field value surroundings rest).outcome.map fun later =>
              later.after finding.warnings := by
  rw [judgeClauses, Traced.outcome_andThen]
  cases (judgeClause registry field value surroundings clause).outcome with
  | error failure =>
      rfl
  | ok finding =>
      obtain ⟨error?, warnings⟩ := finding
      cases error? with
      | some error =>
          rfl
      | none =>
          simp only [Except.bind, Traced.outcome_andThen, Option.isSome_none,
            Bool.false_eq_true, ↓reduceIte]
          cases (judgeClauses registry field value surroundings rest).outcome <;> rfl

theorem judgeClauses_cons_outcome_error_iff {clause : Clause} {rest : List Clause}
    {failure : Failure} :
    (judgeClauses registry field value surroundings (clause :: rest)).outcome =
        .error failure ↔
      (judgeClause registry field value surroundings clause).outcome = .error failure ∨
        Passes registry value surroundings clause ∧
          (judgeClauses registry field value surroundings rest).outcome = .error failure := by
  rw [judgeClauses_cons_outcome, ← exists_finding_without_error_iff field]
  cases (judgeClause registry field value surroundings clause).outcome with
  | error reason =>
      simp
  | ok finding =>
      cases clear : finding.error? with
      | some error =>
          simp [clear]
      | none =>
          cases (judgeClauses registry field value surroundings rest).outcome <;>
            simp [clear, Except.map]

/-- Judging clauses fails exactly when a clause cannot be judged and every clause before
it passes. -/
theorem judgeClauses_outcome_error_iff {clauses : List Clause} {failure : Failure} :
    (judgeClauses registry field value surroundings clauses).outcome = .error failure ↔
      ∃ before clause after, clauses = before ++ clause :: after ∧
        (∀ earlier ∈ before, Passes registry value surroundings earlier) ∧
        (judgeClause registry field value surroundings clause).outcome = .error failure := by
  refine stops_iff_exists_split
    (fun clauses =>
      (judgeClauses registry field value surroundings clauses).outcome = .error failure)
    (Passes registry value surroundings)
    (fun clause => (judgeClause registry field value surroundings clause).outcome = .error failure)
    ?_ fun first rest => judgeClauses_cons_outcome_error_iff
  intro failed
  cases failed

theorem judgeClauses_congr {left right : Table Value} {clauses : List Clause}
    (same : ∀ clause ∈ clauses,
      judgeClause registry field value left clause =
        judgeClause registry field value right clause) :
    judgeClauses registry field value left clauses =
      judgeClauses registry field value right clauses := by
  induction clauses with
  | nil =>
      rfl
  | cons first rest inductionHypothesis =>
      have remaining := inductionHypothesis fun clause member =>
        same clause (List.mem_cons_of_mem _ member)
      simp only [judgeClauses, same first List.mem_cons_self, remaining]

/-! ## One field -/

theorem judgeField_text {expression : String} {clauses : List Clause}
    (accepted : Expression.read expression = .ok clauses) (record : Table Value) :
    judgeField registry record field value (.text expression) =
      judgeClauses registry field value record clauses := by
  have readText : Expression.readValue (.text expression) = .ok clauses := by
    rw [Expression.readValue, accepted]
    rfl
  rw [judgeField, readText]

/-- What judging a field comes to stands between an entry when the validation begins and one
when it ends. -/
theorem validateField_eq (expression : Value) (record : Table Value) :
    let judged := judgeField registry (record.insert field value) field value expression
    validateField registry field value expression record =
      Journal.around .validation "validate" (.ofList [("field_count", .integer 1)])
        { trace := judged.trace, outcome := judged.outcome.map (reportOf field) } := by
  intro judged
  have present : (record.insert field value).get? field = some value := by
    simp [Table.get?_insert]
  have single : (Table.ofList [(field, expression)]).entries = [(field, expression)] := rfl
  have size : (Table.ofList [(field, expression)]).size = 1 := rfl
  rw [← Traced.andThen_done_of]
  simp only [validateField, validate, single, size, judgeFields, present]
  rfl

theorem validateField_outcome (expression : Value) (record : Table Value) :
    (validateField registry field value expression record).outcome =
      (judgeField registry (record.insert field value) field value expression).outcome.map
        (reportOf field) := by
  rw [validateField_eq]
  rfl

theorem validateField_text_outcome {expression : String} {clauses : List Clause}
    (accepted : Expression.read expression = .ok clauses) (record : Table Value) :
    (validateField registry field value (.text expression) record).outcome =
      (judgeClauses registry field value (record.insert field value)
        clauses).outcome.map (reportOf field) := by
  rw [validateField_outcome, judgeField_text accepted]

/-! ## Fields in order -/

/-- What judging a field of a record comes to. -/
def judgement (registry : Registry) (record : Table Value) (held : HeldField) :
    Except Failure Finding :=
  (judgeField registry record held.field held.value held.expression).outcome

/-- What is found for each field, up to the first one that cannot be judged. -/
def findings (registry : Registry) (record : Table Value) :
    List HeldField → Except Failure (List (String × Finding))
  | [] => .ok []
  | held :: rest =>
      match judgement registry record held with
      | .error failure => .error failure
      | .ok finding =>
          (findings registry record rest).map fun others => (held.field, finding) :: others

def addAll (report : Report) (found : List (String × Finding)) : Report :=
  found.foldl (fun sofar entry => add sofar entry.1 entry.2) report

/-- Fields that the record does not have are passed over, and what is found for the others
is added to the report. -/
theorem judgeFields_outcome (record : Table Value) (expressions : List (String × Value))
    (report : Report) :
    (judgeFields registry record report expressions).outcome =
      (findings registry record (heldFields record expressions)).map (addAll report) := by
  induction expressions generalizing report with
  | nil =>
      rfl
  | cons entry rest inductionHypothesis =>
      obtain ⟨name, expression⟩ := entry
      cases held : record.get? name with
      | none =>
          simp only [judgeFields, held, heldFields_cons_of_none held, Traced.outcome_andThen]
          exact inductionHypothesis report
      | some content =>
          simp only [judgeFields, held, heldFields_cons_of_some held, Traced.outcome_andThen,
            findings, judgement]
          cases (judgeField registry record name content expression).outcome with
          | error failure =>
              rfl
          | ok finding =>
              simp only [Except.bind]
              rw [inductionHypothesis]
              cases findings registry record (heldFields record rest) <;> rfl

theorem validate_outcome (registry : Registry) (record rules : Table Value) :
    (validate registry record rules).outcome =
      (findings registry record (heldFields record rules.entries)).map (addAll ⟨.empty, []⟩) :=
  judgeFields_outcome record rules.entries ⟨.empty, []⟩

theorem findings_eq_error_iff {record : Table Value} {fields : List HeldField}
    {failure : Failure} :
    findings registry record fields = .error failure ↔
      ∃ before held after, fields = before ++ held :: after ∧
        (∀ earlier ∈ before, ∃ finding, judgement registry record earlier = .ok finding) ∧
        judgement registry record held = .error failure := by
  refine stops_iff_exists_split
    (fun fields => findings registry record fields = .error failure)
    (fun held => ∃ finding, judgement registry record held = .ok finding)
    (fun held => judgement registry record held = .error failure) ?_ ?_
  · intro failed
    cases failed
  · intro first rest
    rw [findings]
    cases judgement registry record first with
    | error reason =>
        simp
    | ok finding =>
        cases findings registry record rest <;> simp [Except.map]

theorem findings_eq_ok {record : Table Value} {fields : List HeldField}
    {finding : HeldField → Finding}
    (judged : ∀ held ∈ fields, judgement registry record held = .ok (finding held)) :
    findings registry record fields =
      .ok (fields.map fun held => (held.field, finding held)) := by
  induction fields with
  | nil =>
      rfl
  | cons first rest inductionHypothesis =>
      have later := inductionHypothesis fun held member =>
        judged held (List.mem_cons_of_mem first member)
      simp only [findings, judged first List.mem_cons_self, later]
      rfl

/-- When every field can be judged, the findings are those of the fields, in order. -/
theorem exists_finding_of_findings_eq_ok {record : Table Value} {fields : List HeldField}
    {found : List (String × Finding)} (judged : findings registry record fields = .ok found) :
    ∃ finding : HeldField → Finding,
      (∀ held ∈ fields, judgement registry record held = .ok (finding held)) ∧
        found = fields.map fun held => (held.field, finding held) := by
  have clear : ∀ held ∈ fields, ∃ finding, judgement registry record held = .ok finding := by
    induction fields generalizing found with
    | nil =>
        simp
    | cons first rest inductionHypothesis =>
        rw [findings] at judged
        cases first? : judgement registry record first with
        | error failure =>
            simp [first?] at judged
        | ok finding =>
            cases rest? : findings registry record rest with
            | error failure =>
                simp [first?, rest?, Except.map] at judged
            | ok others =>
                simpa [first?] using inductionHypothesis rest?
  let finding (held : HeldField) : Finding :=
    (judgement registry record held).toOption.getD .none
  have agrees : ∀ held ∈ fields, judgement registry record held = .ok (finding held) := by
    intro held member
    obtain ⟨content, found⟩ := clear held member
    simp [finding, found, Except.toOption]
  refine ⟨finding, agrees, ?_⟩
  rw [findings_eq_ok agrees] at judged
  exact (Except.ok.inj judged).symm

/-- A validation against texts fails for one of them: the text cannot be read, or one of the
clauses that it writes cannot be judged. -/
theorem exists_clause_of_validate_error {fields : Table String} {record : Table Value}
    {failure : Failure}
    (failed : (validate registry record (fields.map Value.text)).outcome = .error failure) :
    ∃ field expression, fields.get? field = some expression ∧
      match Expression.read expression with
      | .error mistake => failure = .mistake mistake
      | .ok clauses => ∃ clause ∈ clauses, ∃ value surroundings,
          (judgeClause registry field value surroundings clause).outcome = .error failure := by
  rw [validate_outcome, map_eq_error_iff, findings_eq_error_iff] at failed
  obtain ⟨before, held, after, split, -, unjudged⟩ := failed
  have member : held ∈ heldFields record (fields.map Value.text).entries := by
    simp [split]
  obtain ⟨entry, entryMember, value, -, rfl⟩ := mem_heldFields.mp member
  obtain ⟨⟨field, expression⟩, written, rfl⟩ := List.mem_map.mp entryMember
  refine ⟨field, expression, Table.get?_eq_some_iff.mpr written, ?_⟩
  cases read : Expression.read expression with
  | error mistake =>
      simpa [judgement, judgeField, Expression.readValue, read, Traced.fail, eq_comm]
        using unjudged
  | ok clauses =>
      rw [judgement, judgeField_text read, judgeClauses_outcome_error_iff] at unjudged
      obtain ⟨_, clause, _, rfl, -, stopped⟩ := unjudged
      exact ⟨clause, by simp, value, _, stopped⟩

end Validation

end FormCheck
