import FormCheck.Form

/-!
# Runs of forms

A run does one thing after another with a form.  It goes on after an action that fails,
with the form as the failed action left it, and the recorder keeps all that it was told.

Whatever is done with a form comes to three kinds of moves: each control of the row moves
for itself, a control with a new name is bound, or the form is shown or hidden.  What
holds of a form when it is created and is kept by these moves holds throughout every run.
-/

namespace FormCheck

variable [Host]

/-- A form in the middle of a run, and what the recorder was told until then. -/
structure Stage where
  form : Form
  told : List Drawing

namespace Stage

def start (definition : FormDefinition) (registry : Registry) (recorded : Bool) : Stage :=
  ⟨.create definition registry recorded, []⟩

/-- Whether the action fails or not, the run goes on from what it leaves behind. -/
def perform (stage : Stage) (action : Form.Action) : Stage :=
  let performed := stage.form.perform action
  ⟨performed.after, stage.told ++ performed.drawings⟩

def performAll (stage : Stage) (actions : List Form.Action) : Stage :=
  actions.foldl perform stage

end Stage

/-! ## Moves of a control -/

/-- A control rests, or one thing is done with it. -/
inductive Control.Moves (asked : Action → Prop) (control : Control) :
    Control → List Drawing → Prop where
  | rests : Moves asked control control []
  | acts (registry : Registry) (siblings : Table Value) {action : Action}
      (isAsked : asked action) :
      Moves asked control (control.perform registry siblings action).after
        (control.perform registry siblings action).drawings

/-- Every control of a row moves for itself, and what they draw follows in their order. -/
inductive RowMoves (asked : Control.Action → Prop) :
    List Control → List Control → List Drawing → Prop where
  | none : RowMoves asked [] [] []
  | next {control after : Control} {drawn : List Drawing} {rest others : List Control}
      {drawings : List Drawing} (first : control.Moves asked after drawn)
      (later : RowMoves asked rest others drawings) :
      RowMoves asked (control :: rest) (after :: others) (drawn ++ drawings)

namespace RowMoves

variable {asked : Control.Action → Prop}

theorem rests (controls : List Control) : RowMoves asked controls controls [] := by
  induction controls with
  | nil =>
      exact .none
  | cons control rest inductionHypothesis =>
      exact .next .rests inductionHypothesis

/-- Only the first control of a name moves. -/
theorem changeFirst {controls : List Control} {name : String} {control after : Control}
    {drawings : List Drawing}
    (found : (controls.find? fun control => control.name == name) = some control)
    (moved : control.Moves asked after drawings) :
    RowMoves asked controls (Form.changeFirst name (fun _ => after) controls) drawings := by
  induction controls with
  | nil =>
      simp at found
  | cons first rest inductionHypothesis =>
      by_cases named : first.name = name
      · have same : first = control := by
          simpa [named] using found
        subst same
        have step : RowMoves asked (first :: rest) (after :: rest) (drawings ++ []) :=
          .next moved (rests rest)
        simpa [Form.changeFirst, named] using step
      · have later :
            (rest.find? fun control => control.name == name) = some control := by
          simpa [named] using found
        have step : RowMoves asked (first :: rest) (first :: _) ([] ++ drawings) :=
          .next .rests (inductionHypothesis later)
        simpa [Form.changeFirst, named] using step

theorem applyAll (errorsAsked : ∀ error?, asked (.apply error?)) (report : Report)
    (controls : List Control) :
    RowMoves asked controls (Form.applyAll report controls).after
      (Form.applyAll report controls).drawings := by
  induction controls with
  | nil =>
      exact .none
  | cons control rest inductionHypothesis =>
      exact .next (.acts .builtIn .empty (errorsAsked _)) inductionHypothesis

end RowMoves

/-! ## Moves of a form -/

/-- The moves of a form: what they leave behind, and what the recorder is told. -/
inductive Form.Moves (asked : Control.Action → Prop) (bindable : Control → Prop) :
    Form → Form → List Drawing → Prop where
  | row {form : Form} {controls : List Control} {drawings : List Drawing}
      (lastReport? : Option Report) (moved : RowMoves asked form.controls controls drawings) :
      Moves asked bindable form
        { form with controls := controls, lastReport? := lastReport? } drawings
  | bound {form : Form} {control : Control} (isBindable : bindable control)
      (absent : control.name ∉ form.controls.map Control.name) :
      Moves asked bindable form { form with controls := form.controls ++ [control] } []
  | turned (form : Form) (shown : Bool) :
      Moves asked bindable form { form with visible := shown }
        (if form.recorded then [.visible form.name shown] else [])
  | andThen {form middle after : Form} {drawings others : List Drawing}
      (first : Moves asked bindable form middle drawings)
      (later : Moves asked bindable middle after others) :
      Moves asked bindable form after (drawings ++ others)

namespace Form

variable {asked : Control.Action → Prop} {bindable : Control → Prop}

/-- No move reaches what a form has from its definition and its validator. -/
theorem Moves.frame {form after : Form} {drawings : List Drawing}
    (moved : Moves asked bindable form after drawings) :
    after.name = form.name ∧ after.accept = form.accept ∧ after.registry = form.registry ∧
      after.recorded = form.recorded := by
  induction moved with
  | row lastReport? moved =>
      exact ⟨rfl, rfl, rfl, rfl⟩
  | bound isBindable absent =>
      exact ⟨rfl, rfl, rfl, rfl⟩
  | turned form shown =>
      exact ⟨rfl, rfl, rfl, rfl⟩
  | andThen first later ofFirst ofLater =>
      obtain ⟨name, accept, registry, recorded⟩ := ofFirst
      obtain ⟨nameLater, acceptLater, registryLater, recordedLater⟩ := ofLater
      exact ⟨nameLater.trans name, acceptLater.trans accept, registryLater.trans registry,
        recordedLater.trans recorded⟩

theorem Moves.rests (form : Form) : Moves asked bindable form form [] :=
  .row form.lastReport? (.rests form.controls)

theorem setValues_moves (valuesAsked : ∀ value, asked (.setValue value))
    (entries : List (String × Value)) (form : Form) :
    Moves asked bindable form (form.setValues entries).after
      (form.setValues entries).drawings := by
  induction entries generalizing form with
  | nil =>
      exact .rests form
  | cons entry rest inductionHypothesis =>
      obtain ⟨name, value⟩ := entry
      cases found : form.control? name with
      | none =>
          simpa [setValues, found, Step.refused] using Moves.rests form
      | some control =>
          have set : control.Moves asked { control with value := value } [] :=
            .acts .builtIn .empty (valuesAsked value)
          have first : Moves asked bindable form
              (form.withControl name { control with value := value }) [] :=
            .row form.lastReport? (.changeFirst found set)
          simpa [setValues, found] using first.andThen (inductionHypothesis _)

theorem onControl_moves {action : Control.Action} (isAsked : asked action) (form : Form)
    (name : String) :
    Moves asked bindable form (form.onControl name action).after
      (form.onControl name action).drawings := by
  cases found : form.control? name with
  | none =>
      simpa [onControl, found, Step.refused] using Moves.rests form
  | some control =>
      have acted : control.Moves asked _ _ := .acts form.registry form.values isAsked
      have moved : Moves asked bindable form _ _ :=
        .row form.lastReport? (.changeFirst found acted)
      simpa [onControl, found, withControl] using moved

theorem validateAll_moves (errorsAsked : ∀ error?, asked (.apply error?)) (form : Form) :
    Moves asked bindable form form.validateAll.after form.validateAll.drawings := by
  cases validated : (Validation.validate form.registry form.values form.rules).outcome with
  | error failure =>
      simpa [validateAll, validated] using Moves.rests form
  | ok report =>
      have moved : Moves asked bindable form _ _ :=
        .row (some report) (.applyAll errorsAsked report form.controls)
      simpa [validateAll, validated] using moved

theorem bind_moves {control : Control} (isBindable : bindable control) (form : Form) :
    Moves asked bindable form (form.bind control).after (form.bind control).drawings := by
  cases found : form.control? control.name with
  | some other =>
      simpa [Form.bind, found, Step.refused] using Moves.rests form
  | none =>
      have absent : control.name ∉ form.controls.map Control.name := by
        intro member
        obtain ⟨other, present, named⟩ := List.mem_map.mp member
        have differs := List.find?_eq_none.mp found other present
        exact differs (by simpa using named)
      simpa [Form.bind, found, Step.idle] using Moves.bound isBindable absent

/-- What an action does is made of moves, also when it fails. -/
theorem perform_moves (form : Form) (action : Action)
    (valuesAsked : ∀ value, asked (.setValue value))
    (errorsAsked : ∀ error?, asked (.apply error?))
    (directAsked : ∀ name direct, action = .onControl name direct → asked direct)
    (boundBindable : ∀ control, action = .bind control → bindable control) :
    Moves asked bindable form (form.perform action).after (form.perform action).drawings := by
  cases action with
  | setValues values =>
      exact setValues_moves valuesAsked values.entries form
  | onControl name direct =>
      exact onControl_moves (directAsked name direct rfl) form name
  | validateAll =>
      exact validateAll_moves errorsAsked form
  | submit =>
      exact validateAll_moves errorsAsked form
  | bind control =>
      exact bind_moves (boundBindable control rfl) form
  | «show» =>
      exact .turned form true
  | hide =>
      exact .turned form false

end Form

theorem Stage.performAll_frame (stage : Stage) (actions : List Form.Action) :
    (stage.performAll actions).form.name = stage.form.name ∧
      (stage.performAll actions).form.accept = stage.form.accept ∧
      (stage.performAll actions).form.registry = stage.form.registry ∧
      (stage.performAll actions).form.recorded = stage.form.recorded := by
  induction actions generalizing stage with
  | nil =>
      exact ⟨rfl, rfl, rfl, rfl⟩
  | cons action rest inductionHypothesis =>
      have moved : Form.Moves (fun _ => True) (fun _ => True) stage.form _ _ :=
        stage.form.perform_moves action (fun _ => trivial) (fun _ => trivial)
          (fun _ _ _ => trivial) (fun _ _ => trivial)
      obtain ⟨name, accept, registry, recorded⟩ := moved.frame
      obtain ⟨nameRest, acceptRest, registryRest, recordedRest⟩ :=
        inductionHypothesis (stage.perform action)
      exact ⟨nameRest.trans name, acceptRest.trans accept, registryRest.trans registry,
        recordedRest.trans recorded⟩

end FormCheck
