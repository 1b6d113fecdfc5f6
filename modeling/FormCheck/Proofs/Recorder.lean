import FormCheck.Host.Plain
import FormCheck.Proofs.FormRun

/-!
# The recorder knows the form

Somebody who reads what the recorder was told, from the start, sees each control that has
the recorder as it is: the same error, the same hint.  The same holds of the visibility of
the form.  This is so throughout every run, whichever of its actions fail.

Reading stays right because a move of a control draws exactly what it changes and names
that control only, and because the names of controls stay distinct.  A control that is
bound must not have been touched before, since the recorder is not told of its past.

Hints that are made or removed directly are told too, but only without them do a control's
hint and its error come and go together.
-/

namespace FormCheck

/-! ## Reading what the recorder was told -/

/-- What is shown of a control. -/
structure Shown where
  error : Bool
  hint? : Option String
  deriving DecidableEq, Repr

namespace Shown

/-- Nothing is shown yet. -/
def blank : Shown :=
  ⟨false, none⟩

/-- A drawing changes what is shown of the control that it names. -/
def draw (name : String) (shown : Shown) : Drawing → Shown
  | .error control error => if control = name then { shown with error := error } else shown
  | .hint control message =>
      if control = name then { shown with hint? := some message } else shown
  | .noHint control => if control = name then { shown with hint? := none } else shown
  | .visible _ _ => shown

/-- What is shown of a control after all that the recorder was told. -/
def replay (name : String) (told : List Drawing) : Shown :=
  told.foldl (draw name) blank

end Shown

/-- Whether a form is seen after all that the recorder was told.  It is seen at first. -/
def replayVisible (name : String) (told : List Drawing) : Bool :=
  told.foldl
    (fun visible drawing =>
      match drawing with
      | .visible form shown => if form = name then shown else visible
      | _ => visible)
    true

namespace Drawing

/-- The control that a drawing names. -/
def control? : Drawing → Option String
  | .error control _ => some control
  | .hint control _ => some control
  | .noHint control => some control
  | .visible _ _ => none

end Drawing

theorem Shown.draw_of_other {name : String} {drawing : Drawing}
    (other : drawing.control? ≠ some name) (shown : Shown) : draw name shown drawing = shown := by
  cases drawing <;> simp_all [Drawing.control?, draw]

theorem Shown.replay_append_of_others {name : String} {drawings : List Drawing}
    (others : ∀ drawing ∈ drawings, drawing.control? ≠ some name) (told : List Drawing) :
    replay name (told ++ drawings) = replay name told := by
  rw [replay, List.foldl_append, ← replay]
  exact List.foldlRecOn drawings (draw name) (motive := fun shown => shown = replay name told)
    rfl fun shown same drawing member => (draw_of_other (others drawing member) shown).trans same

theorem replayVisible_append_of_controls {name : String} {drawings : List Drawing}
    (controls : ∀ drawing ∈ drawings, drawing.control? ≠ none) (told : List Drawing) :
    replayVisible name (told ++ drawings) = replayVisible name told := by
  rw [replayVisible, List.foldl_append, ← replayVisible]
  refine List.foldlRecOn drawings _ (motive := fun visible => visible = replayVisible name told)
    rfl ?_
  intro visible same drawing member
  have named := controls drawing member
  cases drawing <;> simp_all [Drawing.control?]

/-! ## What a move of a control draws -/

namespace Control

def shown (control : Control) : Shown :=
  ⟨control.error, control.hint?⟩

/-- Nothing has been shown of the control. -/
def Untouched (control : Control) : Prop :=
  control.error = false ∧ control.hint? = none

/-- A hint is made or removed, whether the control is valid or not. -/
def Action.Hints : Action → Prop
  | .makeHint _ => True
  | .removeHint => True
  | _ => False

/-- The control is invalid just when it shows a hint, even an empty one. -/
def Explained (control : Control) : Prop :=
  control.error = true ↔ control.hint? ≠ none

/-- A move draws what it changes, and names its control only. -/
structure DrawnBy (control after : Control) (drawings : List Drawing) : Prop where
  name : after.name = control.name
  recorded : after.recorded = control.recorded
  named : ∀ drawing ∈ drawings, drawing.control? = some control.name
  shown : control.recorded = true →
    drawings.foldl (Shown.draw control.name) control.shown = after.shown

theorem DrawnBy.rests (control : Control) : DrawnBy control control [] :=
  ⟨rfl, rfl, by simp, fun _ => rfl⟩

private theorem named_of_mem_drawn {control : Control} {drawing single : Drawing}
    (named : single.control? = some control.name) (member : drawing ∈ control.drawn [single]) :
    drawing.control? = some control.name := by
  unfold drawn at member
  split at member
  · rw [List.mem_singleton.mp member]
    exact named
  · simp at member

theorem showHint_drawnBy (control : Control) (message : String) :
    DrawnBy control (control.showHint message).after (control.showHint message).drawings where
  name := rfl
  recorded := rfl
  named := by
    intro drawing member
    exact named_of_mem_drawn rfl member
  shown := by
    intro recorded
    simp [showHint, drawn, recorded, Shown.draw, Control.shown]

theorem removeHint_drawnBy (control : Control) :
    DrawnBy control control.removeHint.after control.removeHint.drawings := by
  cases hinted : control.hint? with
  | none =>
      simpa [removeHint, hinted, Step.idle] using DrawnBy.rests control
  | some hint =>
      simp only [removeHint, hinted]
      refine ⟨rfl, rfl, ?_, ?_⟩
      · intro drawing member
        exact named_of_mem_drawn rfl member
      · intro recorded
        simp [drawn, recorded, Shown.draw, Control.shown]

/-- A flag that is drawn and set first is followed by what the other move draws. -/
theorem DrawnBy.after_error {control after : Control} {drawings : List Drawing} (error : Bool)
    (moved : DrawnBy { control with error := error } after drawings) :
    DrawnBy control after (control.drawn [.error control.name error] ++ drawings) where
  name := moved.name
  recorded := moved.recorded
  named := by
    intro drawing member
    rcases List.mem_append.mp member with first | later
    · exact named_of_mem_drawn rfl first
    · exact moved.named drawing later
  shown := by
    intro recorded
    have rest := moved.shown recorded
    simpa [drawn, recorded, Shown.draw, Control.shown] using rest

theorem apply_drawnBy (control : Control) (error? : Option FieldError) :
    DrawnBy control (control.apply error?).after (control.apply error?).drawings := by
  cases error? with
  | none =>
      exact (removeHint_drawnBy { control with error := false }).after_error false
  | some error =>
      exact (showHint_drawnBy { control with error := true } error.message).after_error true

theorem apply_explained (control : Control) (error? : Option FieldError) :
    (control.apply error?).after.Explained := by
  cases error? with
  | none =>
      cases hinted : control.hint? <;> simp [apply, removeHint, hinted, Step.idle, Explained]
  | some error =>
      simp [apply, showHint, Explained]

end Control

/-! ## Controls of a form -/

theorem Control.Untouched.shown {control : Control} (untouched : control.Untouched) :
    control.shown = .blank := by
  obtain ⟨noError, noHint⟩ := untouched
  simp [Control.shown, Shown.blank, noError, noHint]

theorem Control.Untouched.explained {control : Control} (untouched : control.Untouched) :
    control.Explained := by
  obtain ⟨noError, noHint⟩ := untouched
  simp [Control.Explained, noError, noHint]

theorem Form.nodup_names_bound {controls : List Control} {control : Control}
    (distinct : (controls.map Control.name).Nodup)
    (absent : control.name ∉ controls.map Control.name) :
    ((controls ++ [control]).map Control.name).Nodup := by
  rw [List.map_append]
  refine List.nodup_append.mpr ⟨distinct, by simp, ?_⟩
  intro name present new isNew same
  obtain rfl : new = control.name := by
    simpa using isNew
  exact absent (same ▸ present)

theorem Form.untouched_of_mem_create {definition : FormDefinition} {registry : Registry}
    {recorded : Bool} {control : Control}
    (member : control ∈ (Form.create definition registry recorded).controls) :
    control.Untouched := by
  obtain ⟨entry, -, rfl⟩ := List.mem_map.mp member
  exact ⟨rfl, rfl⟩

private theorem Form.control?_of_mem_turned {form : Form} {shown : Bool} {drawing : Drawing}
    (member : drawing ∈ if form.recorded then [.visible form.name shown] else []) :
    drawing.control? = none := by
  split at member
  · rw [List.mem_singleton.mp member]
    rfl
  · simp at member

section

variable [Host]

/-! ## Moves of a control -/

namespace Control

/-- A control that is blurred rests, when it cannot be validated, or applies what was
found. -/
theorem blur_cases (control : Control) (registry : Registry) (siblings : Table Value) :
    ((control.blur registry siblings).after = control ∧
        (control.blur registry siblings).drawings = []) ∨
      ∃ error?, (control.blur registry siblings).after = (control.apply error?).after ∧
        (control.blur registry siblings).drawings = (control.apply error?).drawings := by
  cases validated : (Validation.validateField (control.own?.getD registry) control.name
      control.value control.rules siblings).outcome with
  | error failure =>
      left
      simp [blur, validated]
  | ok report =>
      right
      refine ⟨report.errorFor? control.name, ?_, ?_⟩
      · simp [blur, validated]
      · simp [blur, validated]

theorem perform_drawnBy (control : Control) (registry : Registry) (siblings : Table Value)
    (action : Action) :
    DrawnBy control (control.perform registry siblings action).after
      (control.perform registry siblings action).drawings := by
  cases action with
  | setValue value =>
      exact ⟨rfl, rfl, by simp [perform, Step.idle], fun _ => rfl⟩
  | setRules rules =>
      exact ⟨rfl, rfl, by simp [perform, Step.idle], fun _ => rfl⟩
  | apply error? =>
      exact apply_drawnBy control error?
  | makeHint message =>
      cases message with
      | text message =>
          exact showHint_drawnBy control message
      | _ =>
          exact .rests control
  | removeHint =>
      exact removeHint_drawnBy control
  | blur =>
      rcases blur_cases control registry siblings with ⟨after, drawings⟩ | ⟨error?, after, drawings⟩
      · simpa only [perform, after, drawings] using DrawnBy.rests control
      · simpa only [perform, after, drawings] using apply_drawnBy control error?

theorem perform_explained {control : Control} (explained : control.Explained)
    (registry : Registry) (siblings : Table Value) {action : Action} (direct : ¬ action.Hints) :
    (control.perform registry siblings action).after.Explained := by
  cases action with
  | setValue value =>
      exact explained
  | setRules rules =>
      exact explained
  | apply error? =>
      exact apply_explained control error?
  | makeHint message =>
      exact absurd trivial direct
  | removeHint =>
      exact absurd trivial direct
  | blur =>
      rcases blur_cases control registry siblings with ⟨after, -⟩ | ⟨error?, after, -⟩
      · simpa only [perform, after] using explained
      · simpa only [perform, after] using apply_explained control error?

variable {asked : Action → Prop}

theorem Moves.drawnBy {control after : Control} {drawings : List Drawing}
    (moved : control.Moves asked after drawings) : DrawnBy control after drawings := by
  cases moved with
  | rests =>
      exact .rests control
  | acts registry siblings isAsked =>
      exact perform_drawnBy control registry siblings _

theorem Moves.explained {control after : Control} {drawings : List Drawing}
    (moved : control.Moves asked after drawings) (direct : ∀ action, asked action → ¬ action.Hints)
    (explained : control.Explained) : after.Explained := by
  cases moved with
  | rests =>
      exact explained
  | acts registry siblings isAsked =>
      exact perform_explained explained registry siblings (direct _ isAsked)

end Control

/-! ## A row of controls -/

namespace RowMoves

variable {asked : Control.Action → Prop} {controls others : List Control}
  {drawings : List Drawing}

theorem names (moved : RowMoves asked controls others drawings) :
    others.map Control.name = controls.map Control.name := by
  induction moved with
  | none =>
      rfl
  | next first later inductionHypothesis =>
      simp [first.drawnBy.name, inductionHypothesis]

theorem named (moved : RowMoves asked controls others drawings) {drawing : Drawing}
    (member : drawing ∈ drawings) : ∃ name ∈ controls.map Control.name,
      drawing.control? = some name := by
  induction moved with
  | none =>
      simp at member
  | next first later inductionHypothesis =>
      rcases List.mem_append.mp member with ofFirst | ofLater
      · exact ⟨_, by simp, first.drawnBy.named drawing ofFirst⟩
      · obtain ⟨name, present, same⟩ := inductionHypothesis ofLater
        exact ⟨name, by simp [List.mem_map.mp present], same⟩

/-- Controls with distinct names do not disturb what is read of one another. -/
theorem shown (moved : RowMoves asked controls others drawings)
    (distinct : (controls.map Control.name).Nodup) {told : List Drawing}
    (agrees : ∀ control ∈ controls, control.recorded = true →
      Shown.replay control.name told = control.shown) :
    ∀ control ∈ others, control.recorded = true →
      Shown.replay control.name (told ++ drawings) = control.shown := by
  induction moved generalizing told with
  | none =>
      simp
  | @next control after drawn rest others drawings first later inductionHypothesis =>
      obtain ⟨absent, distinctRest⟩ := List.nodup_cons.mp distinct
      have drawnBy := first.drawnBy
      rw [← List.append_assoc]
      intro moved member recorded
      rcases List.mem_cons.mp member with same | memberOthers
      · subst same
        have quiet : ∀ drawing ∈ drawings, drawing.control? ≠ some moved.name := by
          intro drawing memberDrawings isNamed
          obtain ⟨name, present, otherName⟩ := later.named memberDrawings
          rw [isNamed, drawnBy.name] at otherName
          exact absent (Option.some.inj otherName ▸ present)
        have before := agrees control List.mem_cons_self (drawnBy.recorded ▸ recorded)
        rw [Shown.replay_append_of_others quiet, drawnBy.name, Shown.replay, List.foldl_append,
          ← Shown.replay, before]
        exact drawnBy.shown (drawnBy.recorded ▸ recorded)
      · refine inductionHypothesis distinctRest ?_ moved memberOthers recorded
        intro other memberRest otherRecorded
        have quiet : ∀ drawing ∈ drawn, drawing.control? ≠ some other.name := by
          intro drawing memberDrawn isNamed
          rw [drawnBy.named drawing memberDrawn] at isNamed
          exact absent (List.mem_map.mpr ⟨other, memberRest, (Option.some.inj isNamed).symm⟩)
        rw [Shown.replay_append_of_others quiet]
        exact agrees other (List.mem_cons_of_mem _ memberRest) otherRecorded

theorem explained (moved : RowMoves asked controls others drawings)
    (direct : ∀ action, asked action → ¬ action.Hints)
    (explained : ∀ control ∈ controls, control.Explained) :
    ∀ control ∈ others, control.Explained := by
  induction moved with
  | none =>
      simp
  | next first later inductionHypothesis =>
      obtain ⟨ofFirst, ofLater⟩ := List.forall_mem_cons.mp explained
      exact List.forall_mem_cons.mpr
        ⟨first.explained direct ofFirst, inductionHypothesis ofLater⟩

end RowMoves

/-! ## A form and what was told of it -/

/-- What the recorder was told shows the form as it is.  Where `hintless` holds, no hint
was made or removed directly. -/
structure Form.ToldTruly (hintless : Prop) (form : Form) (told : List Drawing) : Prop where
  distinct : (form.controls.map Control.name).Nodup
  named : ∀ drawing ∈ told, ∀ name, drawing.control? = some name →
    name ∈ form.controls.map Control.name
  shown : ∀ control ∈ form.controls, control.recorded = true →
    Shown.replay control.name told = control.shown
  visible : form.recorded = true → replayVisible form.name told = form.visible
  explained : hintless → ∀ control ∈ form.controls, control.Explained

namespace Form.ToldTruly

variable {hintless : Prop} {form : Form} {told : List Drawing}

omit [Host] in
theorem create (hintless : Prop) (definition : FormDefinition) (registry : Registry)
    (recorded : Bool) : ToldTruly hintless (.create definition registry recorded) [] where
  distinct := by
    simpa [Form.create, Control.create, Function.comp_def] using definition.rules.keys_distinct
  named := by
    simp
  shown := by
    intro control member _
    exact (untouched_of_mem_create member).shown.symm
  visible := by
    intro _
    rfl
  explained := by
    intro _ control member
    exact (untouched_of_mem_create member).explained

variable {asked : Control.Action → Prop}

theorem row (truly : ToldTruly hintless form told) {controls : List Control}
    {drawings : List Drawing} (lastReport? : Option Report)
    (moved : RowMoves asked form.controls controls drawings)
    (direct : hintless → ∀ action, asked action → ¬ action.Hints) :
    ToldTruly hintless { form with controls := controls, lastReport? := lastReport? }
      (told ++ drawings) where
  distinct := moved.names ▸ truly.distinct
  named := by
    intro drawing member name isNamed
    rw [moved.names]
    rcases List.mem_append.mp member with before | now
    · exact truly.named drawing before name isNamed
    · obtain ⟨other, present, otherNamed⟩ := moved.named now
      rw [isNamed] at otherNamed
      exact Option.some.inj otherNamed ▸ present
  shown := moved.shown truly.distinct truly.shown
  visible := by
    intro recorded
    rw [replayVisible_append_of_controls]
    · exact truly.visible recorded
    · intro drawing member
      obtain ⟨name, -, isNamed⟩ := moved.named member
      simp [isNamed]
  explained := fun holds => moved.explained (direct holds) (truly.explained holds)

omit [Host] in
theorem bound (truly : ToldTruly hintless form told) {control : Control}
    (untouched : control.Untouched) (absent : control.name ∉ form.controls.map Control.name) :
    ToldTruly hintless { form with controls := form.controls ++ [control] } told where
  distinct := nodup_names_bound truly.distinct absent
  named := by
    intro drawing member name isNamed
    rw [List.map_append]
    exact List.mem_append_left _ (truly.named drawing member name isNamed)
  shown := by
    intro other member recorded
    rcases List.mem_append.mp member with present | new
    · exact truly.shown other present recorded
    · obtain rfl : other = control := by
        simpa using new
      -- Nothing was told of a control with this name, so its replay is still blank.
      have quiet : ∀ drawing ∈ told, drawing.control? ≠ some other.name :=
        fun drawing memberTold isNamed =>
          absent (truly.named drawing memberTold other.name isNamed)
      have blank := Shown.replay_append_of_others quiet []
      rw [List.nil_append] at blank
      exact blank.trans untouched.shown.symm
  visible := truly.visible
  explained := by
    intro holds other member
    rcases List.mem_append.mp member with present | new
    · exact truly.explained holds other present
    · obtain rfl : other = control := by
        simpa using new
      exact untouched.explained

omit [Host] in
theorem turned (truly : ToldTruly hintless form told) (shown : Bool) :
    ToldTruly hintless { form with visible := shown }
      (told ++ if form.recorded then [.visible form.name shown] else []) where
  distinct := truly.distinct
  named := by
    intro drawing member name isNamed
    rcases List.mem_append.mp member with before | now
    · exact truly.named drawing before name isNamed
    · rw [control?_of_mem_turned now] at isNamed
      cases isNamed
  shown := by
    intro control member recorded
    rw [Shown.replay_append_of_others]
    · exact truly.shown control member recorded
    · intro drawing now
      rw [control?_of_mem_turned now]
      exact (Option.some_ne_none control.name).symm
  visible := by
    intro recorded
    have isRecorded : form.recorded = true := recorded
    simp [isRecorded, replayVisible]
  explained := truly.explained

/-- What the recorder was told stays true in every move. -/
theorem moves (truly : ToldTruly hintless form told) {after : Form} {drawings : List Drawing}
    (moved : Form.Moves asked Control.Untouched form after drawings)
    (direct : hintless → ∀ action, asked action → ¬ action.Hints) :
    ToldTruly hintless after (told ++ drawings) := by
  induction moved generalizing told with
  | row lastReport? moved =>
      exact truly.row lastReport? moved direct
  | bound untouched absent =>
      rw [List.append_nil]
      exact truly.bound untouched absent
  | turned form shown =>
      exact truly.turned shown
  | andThen first later ofFirst ofLater =>
      rw [← List.append_assoc]
      exact ofLater (ofFirst truly)

end Form.ToldTruly

/-- What the recorder was told stays true throughout a run. -/
theorem Stage.performAll_toldTruly {hintless : Prop} {stage : Stage}
    (truly : stage.form.ToldTruly hintless stage.told) {actions : List Form.Action}
    (untouched : ∀ control, .bind control ∈ actions → control.Untouched)
    (direct : hintless → ∀ name action, .onControl name action ∈ actions → ¬ action.Hints) :
    (stage.performAll actions).form.ToldTruly hintless (stage.performAll actions).told := by
  refine List.foldlRecOn actions Stage.perform
    (motive := fun stage => stage.form.ToldTruly hintless stage.told) truly ?_
  intro stage truly action member
  have moved : Form.Moves (fun asked => hintless → ¬ asked.Hints) Control.Untouched stage.form
      (stage.perform action).form (stage.form.perform action).drawings := by
    refine stage.form.perform_moves action ?_ ?_ ?_ ?_
    · intro value _ hints
      exact hints
    · intro error? _ hints
      exact hints
    · intro name asked same holds
      exact direct holds name asked (same ▸ member)
    · intro control same
      exact untouched control (same ▸ member)
  exact truly.moves moved fun holds asked isAsked => isAsked holds

/-- Throughout every run the names of controls are distinct, and the recorder knows the
error and the hint of each control that has it, and whether the form is visible.  As long as
no hint is made or removed directly, a control is invalid just when it shows a hint. -/
theorem Stage.recorder_never_drifts (definition : FormDefinition) (registry : Registry)
    (recorded : Bool) (actions : List Form.Action)
    (untouched : ∀ control, .bind control ∈ actions → control.Untouched) :
    let stage := (Stage.start definition registry recorded).performAll actions
    (stage.form.controls.map Control.name).Nodup ∧
      (∀ control ∈ stage.form.controls, control.recorded = true →
        Shown.replay control.name stage.told = ⟨control.error, control.hint?⟩) ∧
      (recorded = true → replayVisible stage.form.name stage.told = stage.form.visible) ∧
      ((∀ name action, .onControl name action ∈ actions → ¬ action.Hints) →
        ∀ control ∈ stage.form.controls,
          (control.error = true ↔ control.hint? ≠ none)) := by
  intro stage
  have begins : (start definition registry recorded).form.ToldTruly
      (∀ name action, .onControl name action ∈ actions → ¬ action.Hints)
      (start definition registry recorded).told :=
    .create _ definition registry recorded
  have truly := performAll_toldTruly begins untouched id
  have sameRecorder := (performAll_frame (.start definition registry recorded) actions).2.2.2
  refine ⟨truly.distinct, truly.shown, ?_, truly.explained⟩
  intro isRecorded
  exact truly.visible (sameRecorder.trans isRecorded)

end

open scoped Host

/-- The second control of a name and the unknown control are refused, and the recorder is
not told of them; the empty hint is told. -/
theorem Stage.refused_actions_are_not_told :
    let email : Control := .create "email" (.text "required") .null true none
    let note : Control := .create "note" (.text "") .null true none
    let actions : List Form.Action :=
      [.bind email, .bind note, .onControl "email" (.apply (some ⟨"required", ""⟩)),
        .bind email, .onControl "phone" .blur, .hide]
    let stage := (Stage.start (.static "login" .empty) .builtIn true).performAll actions
    stage.told = [.error "email" true, .hint "email" "", .visible "login" false] ∧
      (stage.form.controls.map Control.name).Nodup ∧
      (∀ control ∈ stage.form.controls, control.recorded = true →
        Shown.replay control.name stage.told = ⟨control.error, control.hint?⟩) ∧
      replayVisible "login" stage.told = stage.form.visible ∧
      ∀ control ∈ stage.form.controls, (control.error = true ↔ control.hint? ≠ none) := by
  intro email note actions stage
  obtain ⟨distinct, shown, visible, explained⟩ :=
    recorder_never_drifts (.static "login" .empty) .builtIn true actions (by
      intro control member
      have listed : control = email ∨ control = note := by
        simpa [actions, or_comm, or_left_comm] using member
      rcases listed with rfl | rfl
      · exact ⟨rfl, rfl⟩
      · exact ⟨rfl, rfl⟩)
  refine ⟨rfl, distinct, shown, visible rfl, explained ?_⟩
  intro name action member
  have listed : (name = "email" ∧ action = .apply (some ⟨"required", ""⟩)) ∨
      (name = "phone" ∧ action = .blur) := by
    simpa [actions] using member
  rcases listed with ⟨-, rfl⟩ | ⟨-, rfl⟩
  · exact id
  · exact id

end FormCheck
