import FormCheck.Host.Plain
import FormCheck.Proofs.FormValidation

/-!
# A form at once, or control by control

Validating a form at once and leaving its controls one after another come to the same, in
whichever order the controls are left, as long as no control has a validator for itself.
The two read the rules of a control against the same record, and what a control is left
with depends only on the error that is found for it.

The drawings agree only when the controls are left in the order of the form, since a
recorder is told things in the order in which they happen.
-/

namespace FormCheck

open Validation

/-! ## Changing controls -/

namespace Form

/-- A control is found as before among controls of which only others were changed. -/
theorem find?_name_map {controls : List Control} {change : Control → Control} {name : String}
    (keepsNames : ∀ control, (change control).name = control.name)
    (rests : ∀ control, control.name = name → change control = control) :
    ((controls.map change).find? fun control => control.name == name) =
      controls.find? fun control => control.name == name := by
  have sameTest : ((fun control => control.name == name) ∘ change) =
      fun control => control.name == name := by
    funext control
    simp [keepsNames]
  rw [List.find?_map, sameTest]
  cases found : controls.find? fun control => control.name == name with
  | none =>
      rfl
  | some control =>
      have named : control.name = name := by
        simpa using List.find?_some found
      rw [Option.map_some, rests control named]

theorem changeFirst_eq_map {controls : List Control}
    (distinct : (controls.map Control.name).Nodup) (name : String) (change : Control → Control) :
    changeFirst name change controls =
      controls.map fun control => if control.name = name then change control else control := by
  induction controls with
  | nil =>
      rfl
  | cons first rest inductionHypothesis =>
      obtain ⟨fresh, distinctRest⟩ := List.nodup_cons.mp distinct
      by_cases same : first.name = name
      · have others : ∀ control ∈ rest,
            (if control.name = name then change control else control) = control := by
          intro control member
          rw [if_neg]
          intro named
          exact fresh (List.mem_map.mpr ⟨control, member, named.trans same.symm⟩)
        rw [changeFirst, if_pos same, List.map_cons, if_pos same, List.map_congr_left others,
          List.map_id']
      · rw [changeFirst, if_neg same, List.map_cons, if_neg same,
          inductionHypothesis distinctRest]

/-- The form in which the controls of some names show what the report has for them. -/
def judgedAt (form : Form) (report : Report) (names : List String) : Form :=
  { form with
    controls := form.controls.map fun control =>
      if control.name ∈ names then control.judged (report.errorFor? control.name) else control }

variable {form : Form}

theorem judgedAt_nil (form : Form) (report : Report) : form.judgedAt report [] = form := by
  simp [judgedAt]

theorem judgedAt_judgedAt (form : Form) (report : Report) (first later : List String) :
    (form.judgedAt report first).judgedAt report later =
      form.judgedAt report (first ++ later) := by
  simp only [judgedAt, List.map_map]
  congr 1
  refine List.map_congr_left fun control _ => ?_
  by_cases isFirst : control.name ∈ first
  · by_cases isLater : control.name ∈ later <;>
      simp [isFirst, isLater, Control.judged]
  · by_cases isLater : control.name ∈ later <;> simp [isFirst, isLater]

theorem content_judgedAt (form : Form) (report : Report) (names : List String) :
    (form.judgedAt report names).content = form.content := by
  rw [content, judgedAt, List.map_map]
  refine List.map_congr_left fun control _ => ?_
  rw [Function.comp_apply]
  split <;> rfl

theorem control?_judgedAt {report : Report} {names : List String} {name : String}
    (absent : name ∉ names) :
    (form.judgedAt report names).control? name = form.control? name := by
  refine find?_name_map ?_ ?_
  · intro control
    split <;> rfl
  · rintro control rfl
    exact if_neg absent

end Form

section

variable [Host]

/-! ## Leaving one control -/

namespace Control

variable {control : Control} {registry : Registry} {siblings : Table Value}

/-- A control that is left keeps all but what it shows. -/
theorem after_blur (control : Control) (registry : Registry) (siblings : Table Value) :
    ∃ error hint?, (control.blur registry siblings).after =
      { control with error := error, hint? := hint? } := by
  rcases blur_cases control registry siblings with ⟨rests, -⟩ | ⟨error?, applied, -⟩
  · exact ⟨control.error, control.hint?, rests⟩
  · exact ⟨error?.isSome, error?.map FieldError.message, applied.trans (after_apply _ _)⟩

theorem outcome_blur (control : Control) (registry : Registry) (siblings : Table Value) :
    (control.blur registry siblings).traced.outcome =
      (validateField (control.own?.getD registry) control.name control.value control.rules
        siblings).outcome.map fun report => report.errorFor? control.name := by
  cases ended : (validateField (control.own?.getD registry) control.name control.value
      control.rules siblings).outcome <;> simp [blur, ended, Except.map]

theorem blur_of_outcome {error? : Option FieldError}
    (left : (control.blur registry siblings).traced.outcome = .ok error?) :
    (control.blur registry siblings).after = control.judged error? ∧
      (control.blur registry siblings).drawings = (control.apply error?).drawings := by
  rw [outcome_blur] at left
  cases ended : (validateField (control.own?.getD registry) control.name control.value
      control.rules siblings).outcome with
  | error failure =>
      rw [ended] at left
      cases left
  | ok report =>
      rw [ended] at left
      obtain rfl : report.errorFor? control.name = error? := Except.ok.inj left
      simp only [blur, ended, after_apply, and_self]

end Control

namespace Form

variable {form : Form}

/-- A control of the form is left, and validates itself. -/
def blurOf (name : String) : Action :=
  .onControl name .blur

/-- What is done with a control of the form changes this control, as it is done with the
control beside the values of the form. -/
theorem onControl_of_mem (distinct : (form.controls.map Control.name).Nodup) {control : Control}
    (member : control ∈ form.controls) (action : Control.Action) :
    (form.onControl control.name action).after =
        { form with
          controls := form.controls.map fun other =>
            if other.name = control.name then
              (other.perform form.registry form.values action).after
            else
              other } ∧
      (form.onControl control.name action).drawings =
        (control.perform form.registry form.values action).drawings ∧
      (form.onControl control.name action).traced.outcome =
        (control.perform form.registry form.values action).traced.outcome := by
  have found := control?_of_mem distinct member
  simp only [onControl, found, withControl, changeFirst_eq_map distinct, and_self, and_true]
  congr 1
  refine List.map_congr_left fun other isOther => ?_
  by_cases named : other.name = control.name
  · rw [if_pos named, if_pos named, List.inj_on_of_nodup_map distinct isOther member named]
  · rw [if_neg named, if_neg named]

theorem onControl_of_absent {name : String} (absent : form.control? name = none)
    (action : Control.Action) :
    form.onControl name action = .refused form (.controlUnknown name) := by
  simp only [onControl, absent]

/-- A control that is left answers as its form judges it, with the control's own rules if it
has a validator for itself. -/
theorem outcome_blur_held (distinct : (form.controls.map Control.name).Nodup)
    (registry : Registry) {control : Control} (member : control ∈ form.controls) :
    (control.blur registry form.values).traced.outcome =
      (judgement (control.own?.getD registry) form.values control.held).map Finding.error? := by
  rw [Control.outcome_blur, validateField_outcome_held distinct _ member]
  cases judgement (control.own?.getD registry) form.values control.held <;> simp [Except.map]

theorem outcome_perform_blurOf (form : Form) (name : String) :
    (form.perform (blurOf name)).traced.outcome =
      (form.onControl name .blur).traced.outcome.map .error := by
  simp only [perform, blurOf, Step.withResult, Traced.outcome_andThen]
  cases (form.onControl name .blur).traced.outcome <;> rfl

/-- A control that is left changes neither another control nor any name, rule expression or
value. -/
theorem blurOf_frame (distinct : (form.controls.map Control.name).Nodup) (name : String) :
    (form.perform (blurOf name)).after.content = form.content ∧
      ∀ other, other ≠ name →
        (form.perform (blurOf name)).after.control? other = form.control? other := by
  cases found : form.control? name with
  | none =>
      have rests : (form.perform (blurOf name)).after = form := by
        simp only [perform, blurOf, onControl_of_absent found]
        rfl
      rw [rests]
      exact ⟨rfl, fun _ _ => rfl⟩
  | some control =>
      have member : control ∈ form.controls := List.mem_of_find?_eq_some found
      obtain rfl : control.name = name := by
        simpa using List.find?_some found
      let change (other : Control) : Control :=
        if other.name = control.name then
          (other.perform form.registry form.values .blur).after
        else
          other
      have moved : (form.perform (blurOf control.name)).after.controls =
          form.controls.map change :=
        congrArg controls (onControl_of_mem distinct member .blur).1
      have keeps : ∀ other, ∃ error hint?,
          change other = { other with error := error, hint? := hint? } := by
        intro other
        by_cases named : other.name = control.name
        · simp only [change, if_pos named]
          exact other.after_blur form.registry form.values
        · exact ⟨other.error, other.hint?, if_neg named⟩
      constructor
      · rw [content, moved, List.map_map]
        refine List.map_congr_left fun other _ => ?_
        obtain ⟨error, hint?, same⟩ := keeps other
        simp only [Function.comp_apply, same]
      · intro name different
        rw [control?, moved]
        refine find?_name_map ?_ ?_
        · intro other
          obtain ⟨error, hint?, same⟩ := keeps other
          rw [same]
        · rintro other rfl
          exact if_neg different

/-! ## Leaving controls one after another -/

/-- The controls have no validators for themselves, and the form is found to be as the
report says. -/
structure Finds (form : Form) (report : Report) : Prop where
  distinct : (form.controls.map Control.name).Nodup
  shared : ∀ control ∈ form.controls, control.own? = none
  found : form.validated = .ok report

/-- What the control of a name draws when it is given what the report has for it. -/
def drawingsAt (form : Form) (report : Report) (name : String) : List Drawing :=
  match form.control? name with
  | some control => (control.apply (report.errorFor? name)).drawings
  | none => []

namespace Finds

variable {report : Report}

/-- What controls show does not matter to what is found. -/
theorem judgedAt (finds : form.Finds report) (names : List String) :
    (form.judgedAt report names).Finds report where
  distinct := by
    rw [names_eq_of_content_eq (content_judgedAt form report names)]
    exact finds.distinct
  shared := by
    intro control member
    obtain ⟨before, present, rfl⟩ := List.mem_map.mp member
    have own := finds.shared before present
    split
    · exact own
    · exact own
  found := by
    have same := content_judgedAt form report names
    rw [validated, values_eq_of_content_eq same, rules_eq_of_content_eq same]
    exact finds.found

theorem outcome_blur (finds : form.Finds report) {control : Control}
    (member : control ∈ form.controls) :
    (control.blur form.registry form.values).traced.outcome =
      .ok (report.errorFor? control.name) := by
  obtain ⟨finding, judged, sameError⟩ :=
    (errors_of_validated finds.distinct finds.found).1 control member
  rw [outcome_blur_held finds.distinct form.registry member, finds.shared control member,
    Option.getD_none, judged, sameError]
  rfl

/-- A control that is left shows what the report has for it, and so does no other. -/
theorem blurOf (finds : form.Finds report) {control : Control}
    (member : control ∈ form.controls) :
    (form.perform (blurOf control.name)).after = form.judgedAt report [control.name] ∧
      (form.perform (Form.blurOf control.name)).drawings =
        (control.apply (report.errorFor? control.name)).drawings ∧
      (form.perform (Form.blurOf control.name)).traced.outcome =
        .ok (.error (report.errorFor? control.name)) := by
  obtain ⟨after, drawings, outcome⟩ := onControl_of_mem finds.distinct member .blur
  refine ⟨?_, ?_, ?_⟩
  · refine after.trans ?_
    rw [Form.judgedAt]
    congr 1
    refine List.map_congr_left fun other isOther => ?_
    by_cases named : other.name = control.name
    · rw [if_pos named, if_pos (List.mem_singleton.mpr named)]
      exact (Control.blur_of_outcome (finds.outcome_blur isOther)).1
    · rw [if_neg named, if_neg (fun member => named (List.mem_singleton.mp member))]
  · exact drawings.trans (Control.blur_of_outcome (finds.outcome_blur member)).2
  · rw [outcome_perform_blurOf, outcome]
    have left := finds.outcome_blur member
    rw [Control.perform, left]
    rfl

/-- Controls of distinct names draw what they would draw if only they were left. -/
theorem performAll (finds : form.Finds report) {names : List String} (once : names.Nodup)
    (known : ∀ name ∈ names, name ∈ form.controls.map Control.name) (told : List Drawing) :
    (⟨form, told⟩ : Stage).performAll (names.map Form.blurOf) =
      ⟨form.judgedAt report names, told ++ names.flatMap (form.drawingsAt report)⟩ := by
  induction names generalizing form told with
  | nil =>
      simp [Stage.performAll, judgedAt_nil]
  | cons name rest inductionHypothesis =>
      obtain ⟨notLater, onceLater⟩ := List.nodup_cons.mp once
      obtain ⟨isKnown, restKnown⟩ := List.forall_mem_cons.mp known
      obtain ⟨control, member, rfl⟩ := List.mem_map.mp isKnown
      have step : (⟨form, told⟩ : Stage).perform (Form.blurOf control.name) =
          ⟨form.judgedAt report [control.name],
            told ++ form.drawingsAt report control.name⟩ := by
        obtain ⟨after, drawings, -⟩ := finds.blurOf member
        rw [Stage.perform, after, drawings, drawingsAt, control?_of_mem finds.distinct member]
      have stillKnown : ∀ name ∈ rest,
          name ∈ (form.judgedAt report [control.name]).controls.map Control.name := by
        rw [names_eq_of_content_eq (content_judgedAt form report _)]
        exact restKnown
      have sameDrawings : ∀ name ∈ rest,
          (form.judgedAt report [control.name]).drawingsAt report name =
            form.drawingsAt report name := by
        intro name later
        have different : name ∉ [control.name] := by
          intro same
          exact notLater (List.mem_singleton.mp same ▸ later)
        rw [drawingsAt, control?_judgedAt different, drawingsAt]
      rw [List.map_cons, Stage.performAll, List.foldl_cons, step, ← Stage.performAll,
        inductionHypothesis (finds.judgedAt _) onceLater stillKnown, judgedAt_judgedAt,
        List.flatMap_congr sameDrawings, List.append_assoc, ← List.flatMap_cons,
        List.singleton_append]

/-- Leaving a control after others answers what the report has for it. -/
theorem blurOf_after (finds : form.Finds report) {before : List String} {name : String}
    (once : before.Nodup) (known : ∀ name ∈ before, name ∈ form.controls.map Control.name)
    (isKnown : name ∈ form.controls.map Control.name) :
    (((⟨form, []⟩ : Stage).performAll (before.map Form.blurOf)).form.perform
        (Form.blurOf name)).traced.outcome = .ok (.error (report.errorFor? name)) := by
  rw [finds.performAll once known]
  rw [← names_eq_of_content_eq (content_judgedAt form report before)] at isKnown
  obtain ⟨control, member, rfl⟩ := List.mem_map.mp isKnown
  exact ((finds.judgedAt before).blurOf member).2.2

theorem controls_judgedAt_all (finds : form.Finds report) {names : List String}
    (all : ∀ control ∈ form.controls, control.name ∈ names) :
    (form.judgedAt report names).controls = form.validateAll.after.controls := by
  rw [(validateAll_of_ok finds.found).1, Form.judgedAt]
  refine List.map_congr_left fun control member => ?_
  rw [if_pos (all control member)]

theorem drawings_in_order (finds : form.Finds report) :
    (form.controls.map Control.name).flatMap (form.drawingsAt report) =
      form.validateAll.drawings := by
  rw [(validateAll_of_ok finds.found).2.2, List.flatMap_map]
  refine List.flatMap_congr fun control member => ?_
  rw [drawingsAt, control?_of_mem finds.distinct member]

end Finds

theorem fails_iff_some_blur_fails (distinct : (form.controls.map Control.name).Nodup)
    (shared : ∀ control ∈ form.controls, control.own? = none) :
    (∃ failure, form.validated = .error failure) ↔
      ∃ control ∈ form.controls, ∃ failure,
        (form.perform (blurOf control.name)).traced.outcome = .error failure := by
  rw [validated_fails_iff distinct]
  refine exists_congr fun control => and_congr_right fun member => exists_congr fun failure => ?_
  rw [outcome_perform_blurOf, (onControl_of_mem distinct member .blur).2.2, Control.perform,
    outcome_blur_held distinct form.registry member, shared control member, Option.getD_none]
  cases judgement form.registry form.values control.held <;> simp [Except.map]

theorem outcome_perform_validateAll (form : Form) :
    (form.perform .validateAll).traced.outcome = form.validated.map .report := by
  simp only [perform, Step.withResult, Traced.outcome_andThen, outcome_validateAll]
  cases form.validated <;> rfl

theorem drawings_perform_validateAll (form : Form) :
    (form.perform .validateAll).drawings = form.validateAll.drawings := rfl

/-- Validating all controls of a form comes to the same as leaving each of them once, in
whatever order, when none has a validator for itself: both fail or neither does, each control
answers and shows what the report has for it, and in the order of the form the drawings are
the same.  In any case a control that is left changes no other one, and nothing that is
validated. -/
theorem validateAll_iff_blur_each {definition : FormDefinition}
    (reached : form.Reachable definition) :
    let atOnce := form.perform .validateAll
    let left (names : List String) : Stage :=
      (⟨form, []⟩ : Stage).performAll (names.map blurOf)
    ((∀ control ∈ form.controls, control.own? = none) →
      ((∃ failure, atOnce.traced.outcome = .error failure) ↔
        ∃ control ∈ form.controls, ∃ failure,
          (form.perform (blurOf control.name)).traced.outcome = .error failure) ∧
      ∀ report, atOnce.traced.outcome = .ok (.report report) →
        ∀ names : List String, names.Perm (form.controls.map Control.name) →
          (∀ before name after, names = before ++ name :: after →
            ((left before).form.perform (blurOf name)).traced.outcome =
              .ok (.error (report.errorFor? name))) ∧
          (left names).form.controls = atOnce.after.controls ∧
          (names = form.controls.map Control.name →
            (left names).told = atOnce.drawings)) ∧
    ∀ name, (form.perform (blurOf name)).after.content = form.content ∧
      ∀ other, other ≠ name →
        (form.perform (blurOf name)).after.control? other = form.control? other := by
  intro atOnce left
  have distinct := reached.distinct
  refine ⟨fun shared => ⟨?_, ?_⟩, blurOf_frame distinct⟩
  · rw [← fails_iff_some_blur_fails distinct shared, outcome_perform_validateAll]
    cases form.validated <;> simp [Except.map]
  · intro report ended names anyOrder
    have found : form.validated = .ok report := by
      rw [outcome_perform_validateAll] at ended
      cases validated : form.validated with
      | error failure =>
          simp [validated, Except.map] at ended
      | ok other =>
          simpa [validated, Except.map] using ended
    have finds : form.Finds report := ⟨distinct, shared, found⟩
    have once : names.Nodup := anyOrder.nodup_iff.mpr distinct
    have known : ∀ name ∈ names, name ∈ form.controls.map Control.name :=
      fun name => anyOrder.mem_iff.mp
    have reaches : left names =
        ⟨form.judgedAt report names, names.flatMap (form.drawingsAt report)⟩ :=
      finds.performAll once known []
    refine ⟨?_, ?_, ?_⟩
    · rintro before name after rfl
      have onceBefore : before.Nodup := (List.nodup_append.mp once).1
      exact finds.blurOf_after onceBefore
        (fun other member => known other (List.mem_append_left _ member)) (known name (by simp))
    · rw [reaches]
      refine finds.controls_judgedAt_all fun control member => ?_
      exact anyOrder.mem_iff.mpr (List.mem_map_of_mem member)
    · rintro rfl
      rw [reaches]
      exact finds.drawings_in_order

end Form

end

open scoped Host

namespace Form

/-- A confirmation that differs from the password is found in either order, and a hint that
was made before disappears. -/
theorem mismatch_found_in_either_order :
    let definition : FormDefinition := .static "signup"
      (.ofList [("password", .text "required"), ("confirm", .text "equals:password")])
    let unlike : Message := .composed fun _ _ => .ok (.text "not the same")
    let registry : Registry := ⟨.empty, .ofList [("equals", unlike)], .empty⟩
    let filled := ((Form.create definition registry true).perform
      (.setValues (.ofList [("password", .text "a"), ("confirm", .text "b")]))).after
    let form := (filled.perform (.onControl "password" (.makeHint (.text "old")))).after
    let left (names : List String) : Stage :=
      (⟨form, []⟩ : Stage).performAll (names.map blurOf)
    let report : Report := ⟨.ofList [("confirm", ⟨"equals", "not the same"⟩)], []⟩
    form.Reachable definition ∧ (∀ control ∈ form.controls, control.own? = none) ∧
      (form.perform .validateAll).traced.outcome = .ok (.report report) ∧
      ["confirm", "password"].Perm (form.controls.map Control.name) ∧
      (left ["confirm", "password"]).form.controls = (form.perform .validateAll).after.controls ∧
      (left ["password", "confirm"]).told =
        [.error "password" false, .noHint "password", .error "confirm" true,
          .hint "confirm" "not the same"] := by
  intro definition unlike registry filled form left report
  have reached : form.Reachable definition := .performed (.performed (.created registry true) _) _
  have listed : form.controls =
      [⟨"password", .text "required", .text "a", true, none, false, some "old"⟩,
        ⟨"confirm", .text "equals:password", .text "b", true, none, false, none⟩] := rfl
  have shared : ∀ control ∈ form.controls, control.own? = none := by
    simp [listed]
  have compared : Expression.read "equals:password" =
      .ok [⟨"equals", ["password"], by decide⟩] := rfl
  have required : Expression.read "required" = .ok [⟨"required", [], by decide⟩] := rfl
  let finding (held : HeldField) : Finding :=
    if held.field = "confirm" then ⟨some ⟨"equals", "not the same"⟩, []⟩ else ⟨none, []⟩
  have found : form.validated = .ok report := by
    refine validate_eq_ok_iff.mpr ?_
    rw [heldFields_values reached.distinct, listed]
    refine ⟨finding, ?_, rfl, rfl⟩
    rw [List.forall_mem_map]
    intro control member
    simp only [List.mem_cons, List.not_mem_nil, or_false] at member
    rcases member with rfl | rfl
    · rw [judgement, Control.held, judgeField_text required]
      rfl
    · rw [judgement, Control.held, judgeField_text compared]
      rfl
  have ended : (form.perform .validateAll).traced.outcome = .ok (.report report) := by
    rw [outcome_perform_validateAll, found]
    rfl
  have eitherOrder : ["confirm", "password"].Perm (form.controls.map Control.name) := by
    decide
  obtain ⟨agree, -⟩ := validateAll_iff_blur_each reached
  obtain ⟨-, same, -⟩ := (agree shared).2 report ended _ eitherOrder
  obtain ⟨-, -, told⟩ := (agree shared).2 report ended ["password", "confirm"] (List.Perm.refl _)
  refine ⟨reached, shared, ended, eitherOrder, same, ?_⟩
  rw [told rfl, drawings_perform_validateAll, (validateAll_of_ok found).2.2, listed]
  decide

end Form

end FormCheck
