import FormCheck.Host.Plain
import FormCheck.Proofs.Judging
import FormCheck.Proofs.Segments

/-!
# Expressions one after another

A field is validated against an expression of two parts as against the parts, one after the
other.  The second part is not looked at when the first one cannot be judged or finds an
error: the whole journal is then that of the first part alone.  Otherwise what the second
part finds counts, behind the warnings of the first one.
-/

namespace FormCheck.Validation

/-! ## Operations and reports in two parts -/

/-- Where an operation goes on, the entries between its two parts are left out. -/
theorem trace_around_append {α β γ : Type} {first : Traced Event α} {second : Traced Event β}
    {whole : Traced Event γ} (traces : whole.trace = first.trace ++ second.trace)
    (ends : Journal.failure? whole.outcome = Journal.failure? second.outcome)
    (source : Source) (operation : String) (details : Details) :
    (Journal.around source operation details whole).trace =
      (Journal.around source operation details first).trace.dropLast ++
        (Journal.around source operation details second).trace.tail := by
  have unclosed (opening closing : Event) :
      (opening :: (first.trace ++ [closing])).dropLast = opening :: first.trace := by
    rw [← List.cons_append, List.dropLast_concat]
  simp only [Journal.around, traces, ends, unclosed, List.tail_cons, List.cons_append,
    List.append_assoc]

theorem reportOf_after (field : String) (earlier : List RuleWarning) (finding : Finding) :
    reportOf field (finding.after earlier) =
      ⟨(reportOf field finding).errors, earlier ++ (reportOf field finding).warnings⟩ := by
  simp [reportOf, add, Finding.after]

section

variable [Host] {registry : Registry} {field : String} {value : Value}
  {surroundings : Table Value}

/-! ## Clauses in two rows -/

/-- Clauses in two rows are judged row by row, up to the first error. -/
theorem judgeClauses_append (left right : List Clause) :
    judgeClauses registry field value surroundings (left ++ right) =
      (judgeClauses registry field value surroundings left).andThen fun finding =>
        match finding.error? with
        | some _ => .done finding
        | none =>
            (judgeClauses registry field value surroundings right).andThen fun later =>
              .done (later.after finding.warnings) := by
  induction left with
  | nil =>
      have unchanged : (fun later : Finding => Traced.done (later.after [])) =
          (Traced.done : Finding → Traced Event Finding) := rfl
      simp only [List.nil_append, judgeClauses, Traced.done_andThen, Finding.none, unchanged,
        Traced.andThen_done]
  | cons clause rest inductionHypothesis =>
      simp only [List.cons_append, judgeClauses, inductionHypothesis, Traced.andThen_assoc]
      congr 1
      funext finding
      cases error : finding.error? with
      | some failed =>
          simp only [Traced.done_andThen, error]
      | none =>
          simp only [Traced.andThen_assoc]
          congr 1
          funext middle
          cases middleError : middle.error? with
          | some failed =>
              simp only [Traced.done_andThen, Finding.after, middleError]
          | none =>
              simp only [Traced.done_andThen, Finding.after, middleError, Traced.andThen_assoc,
                List.append_assoc]

/-- The second row is not looked at when the first one cannot be judged or finds an error. -/
theorem judgeClauses_append_of_stopped {left : List Clause} (right : List Clause)
    (stopped : ∀ finding,
      (judgeClauses registry field value surroundings left).outcome = .ok finding →
        finding.error? ≠ none) :
    judgeClauses registry field value surroundings (left ++ right) =
      judgeClauses registry field value surroundings left := by
  rw [judgeClauses_append, Traced.andThen]
  cases ended : (judgeClauses registry field value surroundings left).outcome with
  | error failure =>
      exact Traced.ext rfl ended.symm
  | ok finding =>
      cases error : finding.error? with
      | none =>
          exact absurd error (stopped finding ended)
      | some failed =>
          refine Traced.ext ?_ ?_
          · simp [Traced.done, error]
          · simp [Traced.done, error, ended]

/-- Behind a row without an error the second row decides. -/
theorem judgeClauses_append_of_clear {left : List Clause} (right : List Clause)
    {finding : Finding}
    (ended : (judgeClauses registry field value surroundings left).outcome = .ok finding)
    (clear : finding.error? = none) :
    judgeClauses registry field value surroundings (left ++ right) =
      { trace := (judgeClauses registry field value surroundings left).trace ++
          (judgeClauses registry field value surroundings right).trace
        outcome := (judgeClauses registry field value surroundings right).outcome.map fun later =>
          later.after finding.warnings } := by
  rw [judgeClauses_append, Traced.andThen]
  simp only [ended, clear, Traced.andThen]
  cases (judgeClauses registry field value surroundings right).outcome with
  | error failure =>
      rfl
  | ok later =>
      simp [Traced.done, Except.map]

/-! ## Expressions in two parts -/

theorem validateField_text {expression : String} {clauses : List Clause}
    (accepted : Expression.read expression = .ok clauses) (record : Table Value) :
    let judged := judgeClauses registry field value (record.insert field value) clauses
    validateField registry field value (.text expression) record =
      Journal.around .validation "validate" (.ofList [("field_count", .integer 1)])
        { trace := judged.trace, outcome := judged.outcome.map (reportOf field) } := by
  intro judged
  rw [validateField_eq, judgeField_text accepted]

/-- An expression of two parts is judged like the first part alone, down to the journal, when
the first part cannot be judged or finds an error.  Otherwise it is judged like the second
part, behind the journal and the warnings of the first. -/
theorem validateField_short_circuits {first second : String}
    {firstClauses secondClauses : List Clause}
    (firstRead : Expression.read first = .ok firstClauses)
    (secondRead : Expression.read second = .ok secondClauses)
    (registry : Registry) (field : String) (value : Value) (record : Table Value) :
    let judged (expression : String) :=
      validateField registry field value (.text expression) record
    let joined := judged (first ++ "|" ++ second)
    (∀ failure, (judged first).outcome = .error failure → joined = judged first) ∧
      ∀ report, (judged first).outcome = .ok report →
        (∀ error, report.errorFor? field = some error → joined = judged first) ∧
        (report.errorFor? field = none →
          joined.outcome = (judged second).outcome.map (fun later =>
            ⟨later.errors, report.warnings ++ later.warnings⟩) ∧
          joined.trace = (judged first).trace.dropLast ++ (judged second).trace.tail) := by
  intro judged joined
  have joinedRead : Expression.read (first ++ "|" ++ second) =
      .ok (firstClauses ++ secondClauses) := by
    rw [Expression.read_append_bar, firstRead, secondRead]
    rfl
  have firstJudged : judged first = _ := validateField_text firstRead record
  have secondJudged : judged second = _ := validateField_text secondRead record
  have joinedJudged : joined = _ := validateField_text joinedRead record
  have firstOutcome : (judged first).outcome = _ := validateField_text_outcome firstRead record
  refine ⟨?_, ?_⟩
  · intro failure failed
    rw [firstOutcome, map_eq_error_iff] at failed
    rw [joinedJudged, firstJudged, judgeClauses_append_of_stopped secondClauses]
    intro finding found
    rw [failed] at found
    cases found
  · intro report reported
    rw [firstOutcome] at reported
    obtain ⟨finding, ended, rfl⟩ := map_eq_ok_iff.mp reported
    rw [errorFor?_reportOf]
    refine ⟨?_, ?_⟩
    · intro error failed
      rw [joinedJudged, firstJudged, judgeClauses_append_of_stopped secondClauses]
      intro other found
      rw [ended] at found
      cases found
      rw [failed]
      exact Option.some_ne_none error
    · intro clear
      rw [joinedJudged, firstJudged, secondJudged,
        judgeClauses_append_of_clear secondClauses ended clear]
      refine ⟨?_, trace_around_append rfl ?_ _ _ _⟩
      · cases (judgeClauses registry field value (record.insert field value)
            secondClauses).outcome with
        | error failure =>
            rfl
        | ok later =>
            simp [Journal.around, Except.map, reportOf_after]
      · cases (judgeClauses registry field value (record.insert field value)
            secondClauses).outcome <;> rfl

end

open scoped Host

/-- The warning of a part that the value passes stays in front of what the other part finds; an
unknown rule behind an error is not looked up. -/
theorem unknown_rule_behind_error_is_not_met :
    let judged (expression : String) :=
      validateField .builtIn "a" (.list []) (.text expression) .empty
    ∃ passed failed, (judged "min:1").outcome = .ok passed ∧ passed.errorFor? "a" = none ∧
      passed.warnings ≠ [] ∧ (judged "string").outcome = .ok failed ∧
      (judged "min:1|string").outcome =
        .ok ⟨failed.errors, passed.warnings ++ failed.warnings⟩ ∧
      judged "string|unheard" = judged "string" ∧
      judged "unheard|string" = judged "unheard" := by
  intro judged
  have minRead : Expression.read "min:1" = .ok [⟨"min", ["1"], by decide⟩] := rfl
  have stringRead : Expression.read "string" = .ok [⟨"string", [], by decide⟩] := rfl
  have unheardRead : Expression.read "unheard" = .ok [⟨"unheard", [], by decide⟩] := rfl
  obtain ⟨warning, passed⟩ : ∃ warning,
      (judged "min:1").outcome = .ok (reportOf "a" ⟨none, [warning]⟩) := by
    rw [validateField_text_outcome minRead]
    exact ⟨_, rfl⟩
  obtain ⟨message, failed⟩ : ∃ message,
      (judged "string").outcome = .ok (reportOf "a" ⟨some ⟨"string", message⟩, []⟩) := by
    rw [validateField_text_outcome stringRead]
    exact ⟨_, rfl⟩
  have unknown : (judged "unheard").outcome = .error (.mistake (.unknownRule "unheard")) := by
    rw [validateField_text_outcome unheardRead]
    rfl
  obtain ⟨-, afterMin⟩ :=
    validateField_short_circuits minRead stringRead .builtIn "a" (.list []) .empty
  obtain ⟨-, afterString⟩ :=
    validateField_short_circuits stringRead unheardRead .builtIn "a" (.list []) .empty
  obtain ⟨afterUnheard, -⟩ :=
    validateField_short_circuits unheardRead stringRead .builtIn "a" (.list []) .empty
  obtain ⟨together, -⟩ := (afterMin _ passed).2 (errorFor?_reportOf _ _)
  rw [failed] at together
  exact ⟨_, _, passed, errorFor?_reportOf _ _, List.cons_ne_nil _ _, failed, together,
    (afterString _ failed).1 _ (errorFor?_reportOf _ _), afterUnheard _ unknown⟩

end FormCheck.Validation
