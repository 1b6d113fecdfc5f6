import FormCheck.Proofs.FieldByField

/-!
# The first clause that a field fails

The clauses of a field are judged up to the first one that its value fails: those before it
pass, and its own rule judges and does not let the value pass.  The error of the field has
the name of this clause and its rendered message, whatever stands behind it.

A validation that returns has this error in its report.  One that does not return fails for
another field.
-/

namespace FormCheck.Validation

variable [Host] {registry : Registry} {field : String} {value : Value} {surroundings : Table Value}
  {message : String}

/-- A clause fails: its rule judges, and does not let the value pass. -/
def Fails (registry : Registry) (value : Value) (surroundings : Table Value)
    (clause : Clause) : Prop :=
  ∃ rule, registry.lookup clause.name = .ok rule ∧
    (rule.check value clause.arguments surroundings).outcome = .ok false

theorem exists_finding_of_fails (field : String) {clause : Clause}
    (fails : Fails registry value surroundings clause)
    (rendered : registry.renderMessage clause.name value clause.arguments = .ok message) :
    ∃ finding, (judgeClause registry field value surroundings clause).outcome = .ok finding ∧
      finding.error? = some ⟨clause.name, message⟩ := by
  obtain ⟨rule, known, judged⟩ := fails
  rw [judgeClause_outcome_of_check known judged, rendered]
  exact ⟨_, rfl, rfl⟩

/-- Judging clauses stops at the first one that fails, with its message. -/
theorem exists_finding_of_first_fails {before : List Clause} {clause : Clause}
    (passing : ∀ earlier ∈ before, Passes registry value surroundings earlier)
    (fails : Fails registry value surroundings clause)
    (rendered : registry.renderMessage clause.name value clause.arguments = .ok message)
    (after : List Clause) :
    ∃ finding,
      (judgeClauses registry field value surroundings (before ++ clause :: after)).outcome =
        .ok finding ∧
      finding.error? = some ⟨clause.name, message⟩ := by
  induction before with
  | nil =>
      obtain ⟨finding, judged, error⟩ := exists_finding_of_fails field fails rendered
      refine ⟨finding, ?_, error⟩
      rw [List.nil_append, judgeClauses_cons_outcome, judged]
      simp only [error, Option.isSome_some, ↓reduceIte]
  | cons first rest inductionHypothesis =>
      obtain ⟨passes, later⟩ := List.forall_mem_cons.mp passing
      obtain ⟨clear, judged, noError⟩ := (exists_finding_without_error_iff field).mpr passes
      obtain ⟨finding, found, error⟩ := inductionHypothesis later
      refine ⟨finding.after clear.warnings, ?_, error⟩
      rw [List.cons_append, judgeClauses_cons_outcome, judged, found]
      simp only [noError, Option.isSome_none, Bool.false_eq_true, ↓reduceIte]
      rfl

theorem fails_of_error {clause : Clause} {finding : Finding}
    (found : (judgeClause registry field value surroundings clause).outcome = .ok finding)
    (error : finding.error?.isSome = true) : Fails registry value surroundings clause := by
  cases known : registry.lookup clause.name with
  | error mistake =>
      rw [judgeClause_of_unknown known] at found
      cases found
  | ok rule =>
      cases judged : (rule.check value clause.arguments surroundings).outcome with
      | error failure =>
          rw [judgeClause_of_check_error known judged] at found
          cases found
      | ok passed =>
          refine ⟨rule, known, ?_⟩
          rw [judgeClause_outcome_of_check known judged] at found
          cases passed with
          | true =>
              obtain rfl := Except.ok.inj found
              cases error
          | false =>
              exact judged

/-- An error among clauses comes from one that fails, and all before it pass. -/
theorem exists_first_failure {clauses : List Clause} {finding : Finding}
    (found : (judgeClauses registry field value surroundings clauses).outcome = .ok finding)
    (error : finding.error?.isSome = true) :
    ∃ before clause after, clauses = before ++ clause :: after ∧
      (∀ earlier ∈ before, Passes registry value surroundings earlier) ∧
      Fails registry value surroundings clause := by
  induction clauses generalizing finding with
  | nil =>
      obtain rfl := Except.ok.inj found
      cases error
  | cons first rest inductionHypothesis =>
      rw [judgeClauses_cons_outcome] at found
      cases judged : (judgeClause registry field value surroundings first).outcome with
      | error failure =>
          rw [judged] at found
          cases found
      | ok own =>
          rw [judged] at found
          simp only at found
          cases clear : own.error? with
          | some failed =>
              refine ⟨[], first, rest, rfl, List.forall_mem_nil _, fails_of_error judged ?_⟩
              simp [clear]
          | none =>
              have passes := (exists_finding_without_error_iff field).mp ⟨own, judged, clear⟩
              simp only [clear, Option.isSome_none, Bool.false_eq_true, ↓reduceIte] at found
              obtain ⟨later, foundLater, rfl⟩ := map_eq_ok_iff.mp found
              obtain ⟨before, clause, after, rfl, passing, fails⟩ :=
                inductionHypothesis foundLater error
              exact ⟨first :: before, clause, after, rfl,
                List.forall_mem_cons.mpr ⟨passes, passing⟩, fails⟩

/-- A clause is the first one that a field of a record fails. -/
def FailsFirst (registry : Registry) (record : Table Value) (held : HeldField)
    (clause : Clause) : Prop :=
  ∃ before after, Expression.readValue held.expression = .ok (before ++ clause :: after) ∧
    (∀ earlier ∈ before, Passes registry held.value record earlier) ∧
    Fails registry held.value record clause

variable {record rules : Table Value} {held : HeldField} {clause : Clause}

theorem exists_judgement_of_failsFirst (fails : FailsFirst registry record held clause)
    (rendered : registry.renderMessage clause.name held.value clause.arguments = .ok message) :
    ∃ finding, judgement registry record held = .ok finding ∧
      finding.error? = some ⟨clause.name, message⟩ := by
  obtain ⟨before, after, read, passing, failing⟩ := fails
  rw [judgement, judgeField, read]
  exact exists_finding_of_first_fails passing failing rendered after

/-- A field that is judged, and fails a clause first, has the rendered message of this clause. -/
theorem rendered_of_failsFirst (fails : FailsFirst registry record held clause)
    {finding : Finding} (judged : judgement registry record held = .ok finding) :
    ∃ message, registry.renderMessage clause.name held.value clause.arguments = .ok message ∧
      finding.error? = some ⟨clause.name, message⟩ := by
  cases rendered : registry.renderMessage clause.name held.value clause.arguments with
  | ok message =>
      obtain ⟨found, same, error⟩ := exists_judgement_of_failsFirst fails rendered
      obtain rfl : found = finding := Except.ok.inj (same.symm.trans judged)
      exact ⟨message, rfl, error⟩
  | error failure =>
      obtain ⟨before, after, read, passing, rule, known, refused⟩ := fails
      have unjudged : judgement registry record held = .error failure := by
        rw [judgement, judgeField, read, judgeClauses_outcome_error_iff]
        refine ⟨before, clause, after, rfl, passing, ?_⟩
        rw [judgeClause_outcome_of_check known refused, rendered]
        rfl
      rw [unjudged] at judged
      cases judged

theorem exists_failsFirst_of_error {finding : Finding}
    (judged : judgement registry record held = .ok finding)
    (error : finding.error?.isSome = true) : ∃ clause, FailsFirst registry record held clause := by
  rw [judgement, judgeField] at judged
  cases read : Expression.readValue held.expression with
  | error failure =>
      rw [read] at judged
      cases judged
  | ok clauses =>
      rw [read] at judged
      obtain ⟨before, clause, after, rfl, passing, fails⟩ := exists_first_failure judged error
      exact ⟨clause, before, after, read, passing, fails⟩

/-- A validation reports the message of the first clause that a field fails, unless another
field cannot be judged. -/
theorem validate_of_failsFirst (member : held ∈ heldFields record rules.entries)
    (fails : FailsFirst registry record held clause)
    (rendered : registry.renderMessage clause.name held.value clause.arguments = .ok message) :
    match (validate registry record rules).outcome with
    | .ok report => report.errorFor? held.field = some ⟨clause.name, message⟩
    | .error failure => ∃ other ∈ heldFields record rules.entries, other.field ≠ held.field ∧
        judgement registry record other = .error failure := by
  have distinct := heldFields_nodup record rules
  obtain ⟨own, judged, error⟩ := exists_judgement_of_failsFirst fails rendered
  cases ended : (validate registry record rules).outcome with
  | ok report =>
      obtain ⟨finding, each, errors, -⟩ := validate_eq_ok_iff.mp ended
      have same : finding held = own := Except.ok.inj ((each held member).symm.trans judged)
      simp only
      rw [errorFor?_of_errors distinct errors member, errorFor?_reportOf, same, error]
  | error failure =>
      obtain ⟨before, other, after, split, -, unjudged⟩ := validate_eq_error_iff.mp ended
      have otherMember : other ∈ heldFields record rules.entries := by
        simp [split]
      refine ⟨other, otherMember, ?_, unjudged⟩
      intro sameField
      have same : other = held :=
        List.inj_on_of_nodup_map distinct otherMember member sameField
      rw [same, judged] at unjudged
      cases unjudged

end FormCheck.Validation
