import FormCheck.Host.Plain
import FormCheck.Proofs.FormValidation

/-!
# Submitting a form

A form that acknowledges what is submitted does so exactly when a validation of its values
finds no error.  Whether the form is valid is read off its controls, but after the
validation they show the errors of its report and nothing from before, and every error of
the report is that of a control.
-/

namespace FormCheck.Form

open Validation

theorem outcome_acknowledge (name : String) (values : Table Value) :
    (FormDefinition.acknowledge name values).outcome = .ok ⟨name, true, values.keys⟩ := rfl

section

variable [Host] {form : Form} {report : Report}

/-- After a validation the form is valid just when the report is. -/
theorem isValid_validateAll (distinct : (form.controls.map Control.name).Nodup)
    (found : form.validated = .ok report) :
    form.validateAll.after.isValid = report.isValid := by
  have known := (errors_of_validated distinct found).2
  rw [(validateAll_of_ok found).1, Bool.eq_iff_iff, Report.isValid, Table.isEmpty,
    List.isEmpty_iff, isValid, List.all_map, List.all_eq_true]
  constructor
  · intro clear
    rw [← List.map_eq_nil_iff (f := (·.1)), List.eq_nil_iff_forall_not_mem]
    intro name present
    obtain ⟨control, member, rfl⟩ := List.mem_map.mp (known name present)
    have noError : report.errorFor? control.name = none := by
      simpa [Control.judged] using clear control member
    exact Table.get?_eq_none_iff.mp noError present
  · intro empty control member
    have noError : report.errorFor? control.name = none := by
      refine Table.get?_eq_none_iff.mpr ?_
      simp [Table.keys, empty]
    simp [Control.judged, noError]

theorem outcome_submit_of_error {failure : Failure} (failed : form.validated = .error failure) :
    (form.perform .submit).traced.outcome = .error failure := by
  simp only [perform, submit, Step.withResult, Traced.bind_eq, Traced.outcome_andThen,
    outcome_validateAll, failed]
  rfl

theorem outcome_submit_of_ok {name : String}
    (acknowledges : form.accept = FormDefinition.acknowledge name)
    (distinct : (form.controls.map Control.name).Nodup) (found : form.validated = .ok report) :
    (form.perform .submit).traced.outcome =
      .ok (.receipt (if report.isValid then
        some ⟨name, true, form.controls.map Control.name⟩
      else
        none)) := by
  have after := (validateAll_of_ok found).1
  have sameAccept : form.validateAll.after.accept = FormDefinition.acknowledge name := by
    rw [after]
    exact acknowledges
  have fields : form.validateAll.after.values.keys = form.controls.map Control.name := by
    have same : form.validateAll.after.content = form.content := by
      rw [after]
      exact content_of_judged form _ _
    rw [values_eq_of_content_eq same, Table.keys, entries_values distinct]
    simp [Function.comp_def]
  simp only [perform, submit, Step.withResult, Traced.bind_eq, Traced.outcome_andThen,
    outcome_validateAll, found, isValid_validateAll distinct found, sameAccept, Except.bind]
  cases report.isValid with
  | true =>
      simp only [↓reduceIte, map_eq_pure_bind, Traced.bind_eq, Traced.outcome_andThen,
        outcome_acknowledge, fields]
      rfl
  | false =>
      rfl

/-- A form that acknowledges what is submitted does so exactly when a validation finds no
error: it fails as the validation does, it answers with a receipt of all of its fields when
there is no error, and with none when there is one.  Afterwards it shows what was found and
nothing from before, and holds what it held. -/
theorem submit_iff_validation_clean {name : String} {rules : Table Value}
    (reached : form.Reachable (.static name rules)) :
    let validation := (validate form.registry form.values form.rules).outcome
    let submitted := form.perform .submit
    (∀ failure, submitted.traced.outcome = .error failure ↔ validation = .error failure) ∧
      ∀ report, validation = .ok report →
        (∀ receipt, submitted.traced.outcome = .ok (.receipt (some receipt)) ↔
          report.errors.entries = [] ∧
            receipt = ⟨form.name, true, form.controls.map Control.name⟩) ∧
        (submitted.traced.outcome = .ok (.receipt none) ↔ report.errors.entries ≠ []) ∧
        submitted.after.isValid = report.isValid ∧
        submitted.after.lastReport? = some report ∧
        (∀ control ∈ submitted.after.controls,
          (control.error = true ↔ ∃ error, report.errorFor? control.name = some error) ∧
            control.hint? = (report.errorFor? control.name).map FieldError.message) ∧
        submitted.after.content = form.content := by
  intro validation submitted
  have distinct := reached.distinct
  obtain ⟨sameName, acknowledges⟩ := reached.fromDefinition
  refine ⟨?_, ?_⟩
  · intro failure
    cases ended : form.validated with
    | error reason =>
        have failed : submitted.traced.outcome = .error reason := outcome_submit_of_error ended
        rw [failed, show validation = .error reason from ended]
        simp
    | ok report =>
        have finished : submitted.traced.outcome = _ :=
          outcome_submit_of_ok acknowledges distinct ended
        rw [finished, show validation = .ok report from ended]
        simp
  · intro report found
    have finished : submitted.traced.outcome = _ :=
      outcome_submit_of_ok acknowledges distinct found
    have clean : report.isValid = true ↔ report.errors.entries = [] := List.isEmpty_iff
    have after : submitted.after = _ := (validateAll_of_ok found).1
    refine ⟨?_, ?_, isValid_validateAll distinct found, ?_, ?_, ?_⟩
    · intro receipt
      rw [finished, sameName, ← clean]
      cases report.isValid <;> simp [FormDefinition.static, eq_comm]
    · rw [finished, ne_eq, ← clean]
      cases report.isValid <;> simp
    · rw [after]
    · rw [after, List.forall_mem_map]
      intro control _
      simp [Control.judged, Option.isSome_iff_exists]
    · rw [after]
      exact content_of_judged form _ _

end

open scoped Host

/-- An old error does not stand in the way of a form that is clean, and a control with a
validator for itself is submitted like the others. -/
theorem cleared_form_is_acknowledged :
    let definition : FormDefinition := .static "login" (.ofList [("email", .text "required")])
    let note : Control := .create "note" (.text "required") (.text "n") false (some .builtIn)
    let opened := Form.create definition .builtIn true
    let stale := (opened.perform (.onControl "email" (.apply (some ⟨"email", "old"⟩)))).after
    let bound := (stale.perform (.bind note)).after
    let form := (bound.perform (.onControl "email" (.setValue (.text "a")))).after
    let submitted := form.perform .submit
    form.Reachable definition ∧ form.isValid = false ∧
      (validate form.registry form.values form.rules).outcome = .ok ⟨.empty, []⟩ ∧
      submitted.traced.outcome = .ok (.receipt (some ⟨"login", true, ["email", "note"]⟩)) ∧
      submitted.after.isValid = true := by
  intro definition note opened stale bound form submitted
  have reached : form.Reachable definition :=
    .performed (.performed (.performed (.created .builtIn true) _) _) _
  have listed : form.controls =
      [⟨"email", .text "required", .text "a", true, none, true, some "old"⟩,
        ⟨"note", .text "required", .text "n", false, some .builtIn, false, none⟩] := rfl
  have required : Expression.read "required" = .ok [⟨"required", [], by decide⟩] := rfl
  have found : (validate form.registry form.values form.rules).outcome = .ok ⟨.empty, []⟩ := by
    refine validate_eq_ok_iff.mpr ?_
    rw [heldFields_values reached.distinct, listed]
    refine ⟨fun _ => ⟨none, []⟩, ?_, rfl, rfl⟩
    rw [List.forall_mem_map]
    intro control member
    simp only [List.mem_cons, List.not_mem_nil, or_false] at member
    rcases member with rfl | rfl
    · rw [judgement, Control.held, judgeField_text required]
      rfl
    · rw [judgement, Control.held, judgeField_text required]
      rfl
  obtain ⟨-, whenFound⟩ := submit_iff_validation_clean reached
  obtain ⟨receipts, -, valid, -⟩ := whenFound ⟨.empty, []⟩ found
  have invalid : form.isValid = false := by
    simp [isValid, listed]
  refine ⟨reached, invalid, found, (receipts _).mpr ⟨rfl, ?_⟩, valid⟩
  simp [listed, reached.fromDefinition.1, definition, FormDefinition.static]

end FormCheck.Form
