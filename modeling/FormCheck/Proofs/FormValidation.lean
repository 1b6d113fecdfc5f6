import FormCheck.Proofs.FieldByField
import FormCheck.Proofs.Recorder

/-!
# Validating the controls of a form

A form is reached from its definition by actions, whichever of them fail, while the
registries of its validators may change at any time.  However it was reached, the names of
its controls are distinct, so its values and its rules list each control once, in the order
of the controls, and a validation of them judges every control.

What a validation leaves behind does not depend on what the controls showed before: it
gives each control the error that the report has for it, or none.
-/

namespace FormCheck

open Validation

/-! ## Controls as fields -/

/-- The control as a field of the values of its form. -/
def Control.held (control : Control) : HeldField :=
  ⟨control.name, control.value, control.rules⟩

namespace Form

theorem find?_name_of_mem {controls : List Control}
    (distinct : (controls.map Control.name).Nodup) {control : Control}
    (member : control ∈ controls) :
    (controls.find? fun other => other.name == control.name) = some control := by
  induction controls with
  | nil =>
      simp at member
  | cons first rest inductionHypothesis =>
      obtain ⟨fresh, distinctRest⟩ := List.nodup_cons.mp distinct
      rcases List.mem_cons.mp member with same | later
      · simp [same]
      · have otherName : first.name ≠ control.name := by
          intro same
          exact fresh (List.mem_map.mpr ⟨control, later, same.symm⟩)
        simpa [otherName] using inductionHypothesis distinctRest later

variable {form : Form}

section Distinct

variable (distinct : (form.controls.map Control.name).Nodup)

include distinct

theorem control?_of_mem {control : Control} (member : control ∈ form.controls) :
    form.control? control.name = some control :=
  find?_name_of_mem distinct member

theorem entries_values :
    form.values.entries = form.controls.map fun control => (control.name, control.value) := by
  refine Table.entries_ofList ?_
  simpa [Function.comp_def] using distinct

theorem entries_rules :
    form.rules.entries = form.controls.map fun control => (control.name, control.rules) := by
  refine Table.entries_ofList ?_
  simpa [Function.comp_def] using distinct

theorem get?_values {control : Control} (member : control ∈ form.controls) :
    form.values.get? control.name = some control.value := by
  rw [Table.get?_eq_some_iff, entries_values distinct]
  exact List.mem_map.mpr ⟨control, member, rfl⟩

/-- A validation of the form judges every control, in the order of the controls. -/
theorem heldFields_values :
    heldFields form.values form.rules.entries = form.controls.map Control.held := by
  rw [entries_rules distinct, heldFields, List.filterMap_map]
  refine List.filterMap_eq_map_iff_forall_eq_some.mpr ?_
  intro control member
  simp [get?_values distinct member, Control.held]

end Distinct

/-! ## What controls hold -/

/-- What the controls hold, whatever they show. -/
def content (form : Form) : List (String × Value × Value) :=
  form.controls.map fun control => (control.name, control.rules, control.value)

theorem names_eq_of_content_eq {after : Form} (same : after.content = form.content) :
    after.controls.map Control.name = form.controls.map Control.name := by
  simpa [content, Function.comp_def] using congrArg (List.map Prod.fst) same

theorem values_eq_of_content_eq {after : Form} (same : after.content = form.content) :
    after.values = form.values := by
  have pairs := congrArg (List.map fun held => (held.1, held.2.2)) same
  simp only [content, List.map_map] at pairs
  exact congrArg Table.ofList pairs

theorem rules_eq_of_content_eq {after : Form} (same : after.content = form.content) :
    after.rules = form.rules := by
  have pairs := congrArg (List.map fun held => (held.1, held.2.1)) same
  simp only [content, List.map_map] at pairs
  exact congrArg Table.ofList pairs

end Form

/-! ## What applying an error leaves behind -/

namespace Control

/-- The control with an error and its message as a hint, or with neither. -/
def judged (control : Control) (error? : Option FieldError) : Control :=
  { control with error := error?.isSome, hint? := error?.map FieldError.message }

theorem after_apply (control : Control) (error? : Option FieldError) :
    (control.apply error?).after = control.judged error? := by
  cases error? with
  | some error =>
      rfl
  | none =>
      cases hinted : control.hint? <;> simp [apply, removeHint, hinted, Step.idle, judged]

theorem outcome_apply (control : Control) (error? : Option FieldError) :
    (control.apply error?).traced.outcome = .ok () := by
  cases error? with
  | some error =>
      rfl
  | none =>
      cases wasInvalid : control.error <;> simp [apply, wasInvalid] <;> rfl

end Control

namespace Form

theorem after_applyAll (report : Report) (controls : List Control) :
    (applyAll report controls).after =
      controls.map fun control => control.judged (report.errorFor? control.name) := by
  induction controls with
  | nil =>
      rfl
  | cons control rest inductionHypothesis =>
      simp [applyAll, Control.after_apply, inductionHypothesis]

theorem drawings_applyAll (report : Report) (controls : List Control) :
    (applyAll report controls).drawings =
      controls.flatMap fun control => (control.apply (report.errorFor? control.name)).drawings := by
  induction controls with
  | nil =>
      rfl
  | cons control rest inductionHypothesis =>
      simp [applyAll, inductionHypothesis]

theorem outcome_applyAll (report : Report) (controls : List Control) :
    (applyAll report controls).traced.outcome = .ok () := by
  induction controls with
  | nil =>
      rfl
  | cons control rest inductionHypothesis =>
      rw [applyAll, Traced.outcome_andThen, Control.outcome_apply]
      exact inductionHypothesis

theorem content_of_judged (form : Form) (error? : Control → Option FieldError)
    (lastReport? : Option Report) :
    content { form with
        controls := form.controls.map fun control => control.judged (error? control)
        lastReport? := lastReport? } =
      form.content := by
  simp [content, Control.judged, Function.comp_def]

end Form

variable [Host]

namespace Form

/-! ## Forms that are reached -/

/-- The form with other registries behind its validators: one for its own, and those of the
validators that controls have for themselves. -/
def withValidators (form : Form) (registry : Registry) (own : Control → Option Registry) : Form :=
  { form with
    registry := registry
    controls := form.controls.map fun control => { control with own? := own control } }

/-- The forms that a definition leads to. -/
inductive Reachable (definition : FormDefinition) : Form → Prop where
  | created (registry : Registry) (recorded : Bool) :
      Reachable definition (.create definition registry recorded)
  | performed {form : Form} (reached : Reachable definition form) (action : Action) :
      Reachable definition (form.perform action).after
  | validatorsChanged {form : Form} (reached : Reachable definition form) (registry : Registry)
      (own : Control → Option Registry) :
      Reachable definition (form.withValidators registry own)

/-- Whatever is done with a form is made of moves. -/
theorem perform_moves_freely (form : Form) (action : Action) :
    Moves (fun _ => True) (fun _ => True) form (form.perform action).after
      (form.perform action).drawings :=
  form.perform_moves action (fun _ => trivial) (fun _ => trivial) (fun _ _ _ => trivial)
    (fun _ _ => trivial)

theorem Moves.distinct {asked : Control.Action → Prop} {bindable : Control → Prop}
    {form after : Form} {drawings : List Drawing} (moved : Moves asked bindable form after drawings)
    (distinct : (form.controls.map Control.name).Nodup) :
    (after.controls.map Control.name).Nodup := by
  induction moved with
  | row lastReport? moved =>
      rw [moved.names]
      exact distinct
  | bound isBindable absent =>
      exact nodup_names_bound distinct absent
  | turned form shown =>
      exact distinct
  | andThen first later ofFirst ofLater =>
      exact ofLater (ofFirst distinct)

variable {definition : FormDefinition} {form : Form}

theorem Reachable.distinct (reached : form.Reachable definition) :
    (form.controls.map Control.name).Nodup := by
  induction reached with
  | created registry recorded =>
      simpa [create, Control.create, Function.comp_def] using definition.rules.keys_distinct
  | performed reached action inductionHypothesis =>
      exact (perform_moves_freely _ action).distinct inductionHypothesis
  | validatorsChanged reached registry own inductionHypothesis =>
      simpa [withValidators, Function.comp_def] using inductionHypothesis

theorem Reachable.fromDefinition (reached : form.Reachable definition) :
    form.name = definition.name ∧ form.accept = definition.accept := by
  induction reached with
  | created registry recorded =>
      exact ⟨rfl, rfl⟩
  | performed reached action inductionHypothesis =>
      obtain ⟨name, accept, -⟩ := (perform_moves_freely _ action).frame
      exact ⟨name.trans inductionHypothesis.1, accept.trans inductionHypothesis.2⟩
  | validatorsChanged reached registry own inductionHypothesis =>
      exact inductionHypothesis

/-! ## Validating all controls -/

/-- What validating the form with its validator comes to. -/
def validated (form : Form) : Except Failure Report :=
  (validate form.registry form.values form.rules).outcome

theorem validateAll_of_error {form : Form} {failure : Failure}
    (failed : form.validated = .error failure) :
    form.validateAll.after = form ∧ form.validateAll.traced.outcome = .error failure := by
  rw [validated] at failed
  simp [validateAll, failed]

theorem validateAll_of_ok {form : Form} {report : Report} (found : form.validated = .ok report) :
    form.validateAll.after =
        { form with
          controls := form.controls.map fun control =>
            control.judged (report.errorFor? control.name)
          lastReport? := some report } ∧
      form.validateAll.traced.outcome = .ok report ∧
      form.validateAll.drawings = form.controls.flatMap fun control =>
        (control.apply (report.errorFor? control.name)).drawings := by
  rw [validated] at found
  simp only [validateAll, found, after_applyAll, drawings_applyAll, true_and, and_true,
    Traced.bind_eq, Traced.outcome_andThen, Except.bind, outcome_applyAll]
  rfl

theorem outcome_validateAll (form : Form) :
    form.validateAll.traced.outcome = form.validated := by
  cases ended : form.validated with
  | error failure =>
      exact (validateAll_of_error ended).2
  | ok report =>
      exact (validateAll_of_ok ended).2.1

section Distinct

variable (distinct : (form.controls.map Control.name).Nodup)

include distinct

/-- A control that is validated alone beside the values of its form is judged as the form
judges it. -/
theorem validateField_outcome_held (registry : Registry) {control : Control}
    (member : control ∈ form.controls) :
    (validateField registry control.name control.value control.rules form.values).outcome =
      (judgement registry form.values control.held).map (reportOf control.name) := by
  rw [validateField_outcome, Table.insert_of_get? (get?_values distinct member)]
  rfl

theorem validated_fails_iff :
    (∃ failure, form.validated = .error failure) ↔
      ∃ control ∈ form.controls, ∃ failure,
        judgement form.registry form.values control.held = .error failure := by
  constructor
  · rintro ⟨failure, failed⟩
    obtain ⟨before, held, after, split, -, bad⟩ := validate_eq_error_iff.mp failed
    have member : held ∈ form.controls.map Control.held := by
      rw [← heldFields_values distinct, split]
      simp
    obtain ⟨control, present, rfl⟩ := List.mem_map.mp member
    exact ⟨control, present, failure, bad⟩
  · rintro ⟨control, present, failure, bad⟩
    cases ended : form.validated with
    | error reason =>
        exact ⟨reason, rfl⟩
    | ok report =>
        obtain ⟨finding, each, -⟩ := validate_eq_ok_iff.mp ended
        rw [heldFields_values distinct] at each
        rw [each control.held (List.mem_map_of_mem present)] at bad
        cases bad

/-- The report of a form has for each control what is found when the control is judged, and
nothing else. -/
theorem errors_of_validated {report : Report} (found : form.validated = .ok report) :
    (∀ control ∈ form.controls, ∃ finding,
        judgement form.registry form.values control.held = .ok finding ∧
          report.errorFor? control.name = finding.error?) ∧
      ∀ name ∈ report.errors.keys, name ∈ form.controls.map Control.name := by
  obtain ⟨finding, each, errors, -⟩ := validate_eq_ok_iff.mp found
  rw [heldFields_values distinct] at each errors
  have fields : (form.controls.map Control.held).map HeldField.field =
      form.controls.map Control.name := by
    simp [Control.held, Function.comp_def]
  constructor
  · intro control present
    have member := List.mem_map_of_mem (f := Control.held) present
    refine ⟨finding control.held, each _ member, ?_⟩
    have found := errorFor?_of_errors (fields ▸ distinct) errors member
    rwa [errorFor?_reportOf] at found
  · intro name member
    obtain ⟨⟨_, error⟩, present, rfl⟩ := List.mem_map.mp member
    rw [errors] at present
    obtain ⟨held, isHeld, found⟩ := List.mem_filterMap.mp present
    obtain ⟨_, -, same⟩ := Option.map_eq_some_iff.mp found
    obtain ⟨rfl, -⟩ := Prod.mk.inj same
    rw [← fields]
    exact List.mem_map_of_mem isHeld

end Distinct

end Form

end FormCheck
