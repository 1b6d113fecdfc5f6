import FormCheck.Host.Plain
import FormCheck.Proofs.ControlByControl
import FormCheck.Proofs.FirstFailure
import FormCheck.Proofs.Verdict

/-!
# Controls with validators for themselves

A control that is left is judged by the validator that it has for itself, but a form that is
validated at once judges all of its controls by the validator of the form.  So what the two
say of the control are the findings of two registries beside the same values.

Where both registries have the rules that the control's expression calls for, the control
fails the same rule either way.  The two errors are then the same exactly when both
registries put the clause that fails first into the same words.
-/

namespace FormCheck

open Validation

section

namespace Validation

variable {left right : Registry} {record : Table Value} {held : HeldField}

/-- Two registries have the same rules for an expression. -/
def SameRulesFor (left right : Registry) (expression : Value) : Prop :=
  ∀ clauses, Expression.readValue expression = .ok clauses →
    ∀ clause ∈ clauses, left.lookup clause.name = right.lookup clause.name

theorem sameRulesFor_of_rules_eq (same : left.rules = right.rules) (expression : Value) :
    SameRulesFor left right expression := by
  intro clauses _ clause _
  simp only [Registry.lookup, Registry.rule?, same]

/-- Which clause a field fails first is up to the rules alone. -/
theorem FailsFirst.of_sameRules {clause : Clause}
    (sameRules : SameRulesFor left right held.expression)
    (fails : FailsFirst left record held clause) : FailsFirst right record held clause := by
  obtain ⟨before, after, read, passing, rule, known, refused⟩ := fails
  have same := sameRules _ read
  refine ⟨before, after, read, ?_, rule, ?_, refused⟩
  · intro earlier member
    obtain ⟨passed, knownEarlier, accepted⟩ := passing earlier member
    exact ⟨passed, same earlier (List.mem_append_left _ member) ▸ knownEarlier, accepted⟩
  · exact same clause (by simp) ▸ known

variable [Host]

/-- Registries with the same rules find that a field fails the same rule. -/
theorem sameVerdict_of_sameRules {findingLeft findingRight : Finding}
    (sameRules : SameRulesFor left right held.expression)
    (judgedLeft : judgement left record held = .ok findingLeft)
    (judgedRight : judgement right record held = .ok findingRight) :
    findingLeft.SameVerdict findingRight := by
  have outcomes := @judgement_sameButForWords _ left right record held sameRules
  rw [judgedLeft, judgedRight] at outcomes
  exact outcomes.alike_of_ok

/-- Each finding has the words of its own registry for the clause that the field fails first. -/
theorem errors_of_failsFirst {findingLeft findingRight : Finding} {clause : Clause}
    (sameRules : SameRulesFor left right held.expression)
    (judgedLeft : judgement left record held = .ok findingLeft)
    (judgedRight : judgement right record held = .ok findingRight)
    (fails : FailsFirst left record held clause) :
    ∃ leftWords rightWords,
      left.renderMessage clause.name held.value clause.arguments = .ok leftWords ∧
      right.renderMessage clause.name held.value clause.arguments = .ok rightWords ∧
      findingLeft.error? = some ⟨clause.name, leftWords⟩ ∧
      findingRight.error? = some ⟨clause.name, rightWords⟩ := by
  obtain ⟨leftWords, ofLeft, leftError⟩ := rendered_of_failsFirst fails judgedLeft
  obtain ⟨rightWords, ofRight, rightError⟩ :=
    rendered_of_failsFirst (fails.of_sameRules sameRules) judgedRight
  exact ⟨leftWords, rightWords, ofLeft, ofRight, leftError, rightError⟩

/-- Two registries with the same rules find the same error exactly when they put the clause
that the field fails first into the same words. -/
theorem error_eq_iff_same_words {findingLeft findingRight : Finding}
    (sameRules : SameRulesFor left right held.expression)
    (judgedLeft : judgement left record held = .ok findingLeft)
    (judgedRight : judgement right record held = .ok findingRight) :
    findingLeft.error? = findingRight.error? ↔
      ∀ clause, FailsFirst left record held clause →
        left.renderMessage clause.name held.value clause.arguments =
          right.renderMessage clause.name held.value clause.arguments := by
  constructor
  · intro sameError clause fails
    obtain ⟨leftWords, rightWords, ofLeft, ofRight, leftError, rightError⟩ :=
      errors_of_failsFirst sameRules judgedLeft judgedRight fails
    rw [leftError, rightError, Option.some.injEq, FieldError.mk.injEq] at sameError
    rw [ofLeft, ofRight, sameError.2]
  · intro sameWords
    cases error : findingLeft.error? with
    | none =>
        have sameRule := (sameVerdict_of_sameRules sameRules judgedLeft judgedRight).same_rule
        rw [error, Option.map_none, eq_comm, Option.map_eq_none_iff] at sameRule
        exact sameRule.symm
    | some failed =>
        obtain ⟨clause, fails⟩ := exists_failsFirst_of_error judgedLeft (by simp [error])
        obtain ⟨leftWords, rightWords, ofLeft, ofRight, leftError, rightError⟩ :=
          errors_of_failsFirst sameRules judgedLeft judgedRight fails
        have same : leftWords = rightWords := by
          rw [sameWords clause fails, ofRight] at ofLeft
          exact (Except.ok.inj ofLeft).symm
        rw [← error, leftError, rightError, same]

end Validation

namespace Form

variable [Host] {definition : FormDefinition} {form : Form} {control : Control} {own : Registry}
  {report : Report} {error? : Option FieldError}

/-- What the report of a form has for a control is found by the validator of the form. -/
theorem finding_of_validateAll (reached : form.Reachable definition)
    (member : control ∈ form.controls)
    (atOnce : (form.perform .validateAll).traced.outcome = .ok (.report report)) :
    (∃ finding, judgement form.registry form.values control.held = .ok finding ∧
        report.errorFor? control.name = finding.error?) ∧
      (form.perform .validateAll).after.control? control.name =
        some (control.judged (report.errorFor? control.name)) := by
  rw [outcome_perform_validateAll] at atOnce
  obtain ⟨found, validated, sameReport⟩ := map_eq_ok_iff.mp atOnce
  obtain rfl : found = report := Answer.report.inj sameReport
  refine ⟨(errors_of_validated reached.distinct validated).1 control member, ?_⟩
  have judgedAll : (form.perform .validateAll).after.controls =
      form.controls.map fun other => other.judged (found.errorFor? other.name) :=
    congrArg controls (validateAll_of_ok validated).1
  have stays : control.judged (found.errorFor? control.name) ∈
      (form.perform .validateAll).after.controls := by
    rw [judgedAll]
    exact List.mem_map.mpr ⟨control, member, rfl⟩
  exact control?_of_mem (reached.performed .validateAll).distinct stays

/-- What a control that is left answers is found by the validator that it has for itself. -/
theorem finding_of_blur (reached : form.Reachable definition)
    (member : control ∈ form.controls) (kept : control.own? = some own)
    (left : (form.perform (blurOf control.name)).traced.outcome = .ok (.error error?)) :
    (∃ finding, judgement own form.values control.held = .ok finding ∧
        finding.error? = error?) ∧
      (form.perform (blurOf control.name)).after.control? control.name =
        some (control.judged error?) := by
  obtain ⟨after, -, outcome⟩ := onControl_of_mem reached.distinct member .blur
  rw [outcome_perform_blurOf, outcome] at left
  obtain ⟨answered, ended, sameError⟩ := map_eq_ok_iff.mp left
  obtain rfl : answered = error? := Answer.error.inj sameError
  constructor
  · have judged := outcome_blur_held reached.distinct form.registry member
    rw [kept, Option.getD_some] at judged
    exact map_eq_ok_iff.mp (judged.symm.trans ended)
  · have moved : (form.perform (blurOf control.name)).after.controls =
        form.controls.map fun other =>
          if other.name = control.name then
            (other.perform form.registry form.values .blur).after
          else
            other :=
      congrArg controls after
    have stays : control.judged answered ∈
        (form.perform (blurOf control.name)).after.controls := by
      rw [moved]
      refine List.mem_map.mpr ⟨control, member, ?_⟩
      rw [if_pos rfl]
      exact (Control.blur_of_outcome ended).1
    exact control?_of_mem (reached.performed (blurOf control.name)).distinct stays

/-- A control with a validator for itself is judged by it when it is left, but by the validator
of the form when all controls are validated, beside the same values; and the message of what
is found is its hint.  When both have the rules that its expression calls for, it fails the
same rule either way, and with the same message exactly when both put the clause that it fails
first into the same words. -/
theorem own_validator_counts_only_when_left (reached : form.Reachable definition)
    (member : control ∈ form.controls) (kept : control.own? = some own)
    (atOnce : (form.perform .validateAll).traced.outcome = .ok (.report report))
    (left : (form.perform (blurOf control.name)).traced.outcome = .ok (.error error?)) :
    (∃ ofForm ofOwn,
      judgement form.registry form.values control.held = .ok ofForm ∧
      judgement own form.values control.held = .ok ofOwn ∧
      report.errorFor? control.name = ofForm.error? ∧ error? = ofOwn.error?) ∧
    ((form.perform .validateAll).after.control? control.name).map Control.hint? =
      some ((report.errorFor? control.name).map FieldError.message) ∧
    ((form.perform (blurOf control.name)).after.control? control.name).map Control.hint? =
      some (error?.map FieldError.message) ∧
    (SameRulesFor own form.registry control.rules →
      error?.map FieldError.rule = (report.errorFor? control.name).map FieldError.rule ∧
      (error? = report.errorFor? control.name ↔
        ∀ clause, FailsFirst own form.values control.held clause →
          own.renderMessage clause.name control.value clause.arguments =
            form.registry.renderMessage clause.name control.value clause.arguments)) := by
  obtain ⟨⟨ofForm, judgedByForm, reported⟩, shownAtOnce⟩ :=
    finding_of_validateAll reached member atOnce
  obtain ⟨⟨ofOwn, judgedByOwn, rfl⟩, shownWhenLeft⟩ := finding_of_blur reached member kept left
  refine ⟨⟨ofForm, ofOwn, judgedByForm, judgedByOwn, reported, rfl⟩, ?_, ?_, ?_⟩
  · rw [shownAtOnce]
    rfl
  · rw [shownWhenLeft]
    rfl
  · intro sameRules
    rw [reported]
    exact ⟨(sameVerdict_of_sameRules sameRules judgedByOwn judgedByForm).same_rule,
      error_eq_iff_same_words sameRules judgedByOwn judgedByForm⟩

end Form

end

open scoped Host

namespace Form

/-- A message that the own validator has for another rule makes no difference. -/
theorem message_for_other_rule_is_not_shown :
    let own : Registry := ⟨.empty, .ofList [("min", .template "Too short")], .empty⟩
    let pin : Control := .create "pin" (.text "required|min:3") (.text "") false (some own)
    let form := ((Form.create (.static "login" .empty) .builtIn true).perform (.bind pin)).after
    let error : FieldError := ⟨"required", "This field is required"⟩
    form.Reachable (.static "login" .empty) ∧ pin ∈ form.controls ∧ pin.own? = some own ∧
      (form.perform .validateAll).traced.outcome =
        .ok (.report ⟨.ofList [("pin", error)], []⟩) ∧
      (form.perform (blurOf "pin")).traced.outcome = .ok (.error (some error)) ∧
      SameRulesFor own form.registry pin.rules ∧
      ∀ clause, FailsFirst own form.values pin.held clause →
        own.renderMessage clause.name pin.value clause.arguments =
          form.registry.renderMessage clause.name pin.value clause.arguments := by
  intro own pin form error
  have reached : form.Reachable (.static "login" .empty) :=
    .performed (.created .builtIn true) (.bind pin)
  have member : pin ∈ form.controls := List.mem_singleton.mpr rfl
  have atOnce : (form.perform .validateAll).traced.outcome =
      .ok (.report ⟨.ofList [("pin", error)], []⟩) := rfl
  have left : (form.perform (blurOf "pin")).traced.outcome = .ok (.error (some error)) := rfl
  have sameRules : SameRulesFor own form.registry pin.rules := sameRulesFor_of_rules_eq rfl _
  obtain ⟨-, -, -, compared⟩ :=
    own_validator_counts_only_when_left reached member rfl atOnce left
  exact ⟨reached, member, rfl, atOnce, left, sameRules, (compared sameRules).2.mp rfl⟩

/-- A message that the own validator has for the rule in question is shown when the control is
left, and is lost when the form is validated. -/
theorem own_message_is_lost_at_once :
    let own : Registry := ⟨.empty, .ofList [("required", .template "Mine")], .empty⟩
    let pin : Control := .create "pin" (.text "required") (.text "") false (some own)
    let form := ((Form.create (.static "login" .empty) .builtIn true).perform (.bind pin)).after
    form.Reachable (.static "login" .empty) ∧ pin ∈ form.controls ∧ pin.own? = some own ∧
      (form.perform (blurOf "pin")).traced.outcome =
        .ok (.error (some ⟨"required", "Mine"⟩)) ∧
      (form.perform .validateAll).traced.outcome =
        .ok (.report ⟨.ofList [("pin", ⟨"required", "This field is required"⟩)], []⟩) :=
  ⟨.performed (.created .builtIn true) _, List.mem_singleton.mpr rfl, rfl, rfl, rfl⟩

end Form

end FormCheck
