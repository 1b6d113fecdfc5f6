import FormCheck.Host.Plain
import FormCheck.Proofs.ControlByControl
import FormCheck.Proofs.Submission
import Mathlib.Data.List.TakeWhile

/-!
# Actions that fail

An action that fails leaves a form as it was, and tells the recorder nothing: all that can
fail is over before anything is changed.  Only values that are set one after another stay
set up to the first name that no control has.

So a run in which actions fail ends as one in which none does, without these actions, and
with only those of the values that could be set.
-/

namespace FormCheck

namespace Step

variable {State α β : Type} {before : State} {step : Step State α}

/-- If the step fails, it leaves the state as it was, and the recorder is told nothing. -/
def AllOrNothing (before : State) (step : Step State α) : Prop :=
  ∀ failure, step.traced.outcome = .error failure → step.after = before ∧ step.drawings = []

theorem AllOrNothing.of_ok {result : α} (ended : step.traced.outcome = .ok result) :
    AllOrNothing before step := by
  intro failure failed
  rw [ended] at failed
  cases failed

theorem AllOrNothing.of_rests (after : step.after = before) (drawings : step.drawings = []) :
    AllOrNothing before step :=
  fun _ _ => ⟨after, drawings⟩

theorem outcome_withResult (step : Step State α) (result : α → β) :
    (step.withResult result).traced.outcome = step.traced.outcome.map result := by
  rw [withResult, Traced.andThen_done_of]

theorem AllOrNothing.withResult (whole : AllOrNothing before step) (result : α → β) :
    AllOrNothing before (step.withResult result) := by
  intro failure failed
  rw [outcome_withResult, map_eq_error_iff] at failed
  exact whole failure failed

end Step

open Step (AllOrNothing)

/-! ## Controls in their places -/

theorem Control.outcome_removeHint (control : Control) :
    control.removeHint.traced.outcome = .ok () := by
  cases hinted : control.hint? <;> simp [removeHint, hinted, Step.idle, Traced.done]

namespace Form

variable {form : Form}

theorem changeFirst_self {name : String} {control : Control} {controls : List Control}
    (found : (controls.find? fun other => other.name == name) = some control) :
    changeFirst name (fun _ => control) controls = controls := by
  induction controls with
  | nil =>
      rfl
  | cons first rest inductionHypothesis =>
      by_cases named : first.name = name
      · have same : first = control := by
          simpa [named] using found
        rw [changeFirst, if_pos named, same]
      · have later : (rest.find? fun other => other.name == name) = some control := by
          simpa [named] using found
        rw [changeFirst, if_neg named, inductionHypothesis later]

theorem withControl_self {name : String} {control : Control}
    (found : form.control? name = some control) : form.withControl name control = form := by
  rw [withControl, changeFirst_self found]

theorem bind_allOrNothing (form : Form) (control : Control) :
    AllOrNothing form (form.bind control) := by
  cases found : form.control? control.name with
  | some other =>
      exact .of_rests (by simp [Form.bind, found, Step.refused])
        (by simp [Form.bind, found, Step.refused])
  | none =>
      have ended : (form.bind control).traced.outcome = .ok () := by
        simp [Form.bind, found, Step.idle, Traced.done]
      exact .of_ok ended

end Form

section

variable [Host]

/-! ## One control -/

namespace Control

theorem blur_allOrNothing (control : Control) (registry : Registry) (siblings : Table Value) :
    AllOrNothing control (control.blur registry siblings) := by
  cases validated : (Validation.validateField (control.own?.getD registry) control.name
      control.value control.rules siblings).outcome with
  | error failure =>
      refine .of_rests ?_ ?_
      · simp [blur, validated]
      · simp [blur, validated]
  | ok report =>
      have answers : (control.blur registry siblings).traced.outcome =
          .ok (report.errorFor? control.name) := by
        simp [blur, validated]
      exact .of_ok answers

theorem perform_allOrNothing (control : Control) (registry : Registry) (siblings : Table Value)
    (action : Action) : AllOrNothing control (control.perform registry siblings action) := by
  cases action with
  | setValue value =>
      exact .of_ok rfl
  | setRules rules =>
      exact .of_ok rfl
  | apply error? =>
      have applied : AllOrNothing control (control.apply error?) :=
        .of_ok (outcome_apply control error?)
      exact applied.withResult _
  | makeHint message =>
      cases message with
      | text characters =>
          exact .of_ok rfl
      | _ =>
          exact .of_rests rfl rfl
  | removeHint =>
      have removed : AllOrNothing control control.removeHint := .of_ok control.outcome_removeHint
      exact removed.withResult _
  | blur =>
      exact control.blur_allOrNothing registry siblings

end Control

/-! ## One action -/

namespace Form

variable {form : Form}

theorem onControl_allOrNothing (form : Form) (name : String) (action : Control.Action) :
    AllOrNothing form (form.onControl name action) := by
  cases found : form.control? name with
  | none =>
      rw [onControl_of_absent found]
      exact .of_rests rfl rfl
  | some control =>
      intro failure failed
      simp only [onControl, found] at failed ⊢
      obtain ⟨rests, drawings⟩ :=
        control.perform_allOrNothing form.registry form.values action failure failed
      rw [rests, withControl_self found]
      exact ⟨rfl, drawings⟩

theorem validateAll_allOrNothing (form : Form) : AllOrNothing form form.validateAll := by
  cases ended : form.validated with
  | error failure =>
      refine .of_rests (validateAll_of_error ended).1 ?_
      rw [validated] at ended
      simp [validateAll, ended]
  | ok report =>
      exact .of_ok (validateAll_of_ok ended).2.1

/-- Whatever is submitted is acknowledged, so only the validation before it fails. -/
theorem submit_allOrNothing {name : String}
    (acknowledges : form.accept = FormDefinition.acknowledge name)
    (distinct : (form.controls.map Control.name).Nodup) :
    AllOrNothing form (form.perform .submit) := by
  cases ended : form.validated with
  | error failure =>
      have failed : form.validateAll.traced.outcome = .error failure :=
        (validateAll_of_error ended).2
      obtain ⟨rests, drawings⟩ := form.validateAll_allOrNothing failure failed
      exact .of_rests rests drawings
  | ok report =>
      exact .of_ok (outcome_submit_of_ok acknowledges distinct ended)

/-- Only values that are set may stay behind an action that fails. -/
theorem perform_allOrNothing {title : String} {rules : Table Value}
    (reached : form.Reachable (.static title rules)) {action : Action}
    (whole : ∀ values, action ≠ .setValues values) :
    AllOrNothing form (form.perform action) := by
  cases action with
  | setValues values =>
      exact absurd rfl (whole values)
  | onControl name action =>
      exact (form.onControl_allOrNothing name action).withResult _
  | validateAll =>
      exact form.validateAll_allOrNothing.withResult _
  | submit =>
      exact submit_allOrNothing reached.fromDefinition.2 reached.distinct
  | bind control =>
      exact (form.bind_allOrNothing control).withResult _
  | «show» =>
      exact .of_ok rfl
  | hide =>
      exact .of_ok rfl

end Form

end

/-! ## Setting values -/

/-- The control with the value that the entries have for its name, if they have one. -/
def Control.given (control : Control) (entries : List (String × Value)) : Control :=
  { control with value := (Table.find? control.name entries).getD control.value }

namespace Form

variable {form : Form}

/-- Some control has the name. -/
def has (form : Form) (name : String) : Bool :=
  (form.control? name).isSome

/-- The form in which each control is given what the entries have for it. -/
def assigned (form : Form) (entries : List (String × Value)) : Form :=
  { form with controls := form.controls.map fun control => control.given entries }

theorem assigned_nil (form : Form) : form.assigned [] = form := by
  simp [assigned, Control.given, Table.find?]

theorem has_assigned (form : Form) (entries : List (String × Value)) (name : String) :
    (form.assigned entries).has name = form.has name := by
  have sameTest : ((fun control => control.name == name) ∘ fun control : Control =>
      control.given entries) = fun control => control.name == name := rfl
  rw [has, control?, assigned, List.find?_map, sameTest, Option.isSome_map, has, control?]

theorem names_assigned (form : Form) (entries : List (String × Value)) :
    (form.assigned entries).controls.map Control.name = form.controls.map Control.name := by
  rw [assigned, List.map_map]
  rfl

/-- A value that is set first stays when no later one is for the same name. -/
theorem assigned_assigned (form : Form) {name : String} (value : Value)
    {rest : List (String × Value)} (fresh : name ∉ rest.map (·.1)) :
    (form.assigned [(name, value)]).assigned rest = form.assigned ((name, value) :: rest) := by
  simp only [assigned, List.map_map]
  congr 1
  refine List.map_congr_left fun control _ => ?_
  by_cases same : name = control.name
  · have absent : Table.find? control.name rest = none :=
      Table.find?_eq_none_iff.mpr (same ▸ fresh)
    simp [Control.given, Table.find?, same, absent]
  · simp [Control.given, Table.find?, same]

theorem withControl_value (distinct : (form.controls.map Control.name).Nodup) {name : String}
    {control : Control} (found : form.control? name = some control) (value : Value) :
    form.withControl name { control with value := value } = form.assigned [(name, value)] := by
  have named : control.name = name := by
    simpa using List.find?_some found
  have member : control ∈ form.controls := List.mem_of_find?_eq_some found
  simp only [withControl, changeFirst_eq_map distinct, assigned]
  congr 1
  refine List.map_congr_left fun other isOther => ?_
  by_cases same : other.name = name
  · have isControl : other = control :=
      List.inj_on_of_nodup_map distinct isOther member (same.trans named.symm)
    simp [Control.given, Table.find?, isControl, named]
  · simp [Control.given, Table.find?, same, Ne.symm same]

/-- Entries for names of controls are set, and then the others. -/
theorem setValues_append (distinct : (form.controls.map Control.name).Nodup)
    {before : List (String × Value)} (keysDistinct : (before.map (·.1)).Nodup)
    (known : ∀ entry ∈ before, form.has entry.1 = true) (rest : List (String × Value)) :
    form.setValues (before ++ rest) = (form.assigned before).setValues rest := by
  induction before generalizing form with
  | nil =>
      rw [List.nil_append, assigned_nil]
  | cons entry others inductionHypothesis =>
      obtain ⟨name, value⟩ := entry
      obtain ⟨fresh, keysDistinctOthers⟩ := List.nodup_cons.mp keysDistinct
      obtain ⟨isKnown, knownOthers⟩ := List.forall_mem_cons.mp known
      obtain ⟨control, found⟩ := Option.isSome_iff_exists.mp isKnown
      -- The form with the first value set has the same names, so the others are known to it too.
      have distinctSet : ((form.assigned [(name, value)]).controls.map Control.name).Nodup := by
        rw [names_assigned]
        exact distinct
      have knownSet : ∀ entry ∈ others, (form.assigned [(name, value)]).has entry.1 = true := by
        simpa only [has_assigned] using knownOthers
      have first : form.setValues ((name, value) :: (others ++ rest)) =
          (form.assigned [(name, value)]).setValues (others ++ rest) := by
        simp only [setValues, found, withControl_value distinct found]
      rw [List.cons_append, first, inductionHypothesis distinctSet keysDistinctOthers knownSet,
        assigned_assigned form value fresh]

section

variable [Host]

/-- Either all values are set, or those before the first name that no control has. -/
theorem perform_setValues_cases (distinct : (form.controls.map Control.name).Nodup)
    (values : Table Value) :
    ((∀ entry ∈ values.entries, form.has entry.1 = true) ∧
        form.perform (.setValues values) = .idle (form.assigned values.entries) .nothing) ∨
      ∃ before name value after, values.entries = before ++ (name, value) :: after ∧
        (∀ entry ∈ before, form.has entry.1 = true) ∧ form.has name = false ∧
        form.perform (.setValues values) =
          .refused (form.assigned before) (.controlUnknown name) := by
  have keysDistinct : (values.entries.map (·.1)).Nodup := values.keys_distinct
  by_cases known : ∀ entry ∈ values.entries, form.has entry.1 = true
  · left
    have set := setValues_append distinct keysDistinct known []
    rw [List.append_nil] at set
    refine ⟨known, ?_⟩
    rw [perform, set]
    rfl
  · right
    have someUnknown : ∃ entry ∈ values.entries, form.has entry.1 = false := by
      simpa using known
    obtain ⟨before, ⟨name, value⟩, after, split, knownBefore, unknown⟩ :=
      exists_mem_iff_exists_first.mp someUnknown
    have isKnown : ∀ entry ∈ before, form.has entry.1 = true := by
      simpa using knownBefore
    have keysDistinctBefore : (before.map (·.1)).Nodup := by
      rw [split, List.map_append] at keysDistinct
      exact keysDistinct.of_append_left
    have absent : (form.assigned before).control? name = none := by
      rw [← Option.isNone_iff_eq_none, ← Option.not_isSome, ← has, has_assigned, unknown]
      rfl
    refine ⟨before, name, value, after, split, isKnown, unknown, ?_⟩
    rw [perform, split, setValues_append distinct keysDistinctBefore isKnown, setValues, absent]
    rfl

/-- An action that fails on a form leaves it as it was, and the recorder is told nothing.
Only setting values, which fails just when some name is that of no control, leaves those
before the first such name set; it blames the name, and changes nothing else. -/
theorem failed_action_changes_nothing {title : String} {rules : Table Value}
    (reached : form.Reachable (.static title rules)) :
    (∀ action failure, (∀ values, action ≠ .setValues values) →
      (form.perform action).traced.outcome = .error failure →
        (form.perform action).after = form ∧ (form.perform action).drawings = []) ∧
    ∀ values,
      let performed := form.perform (.setValues values)
      ((∃ failure, performed.traced.outcome = .error failure) ↔
        ∃ entry ∈ values.entries, form.has entry.1 = false) ∧
      ∀ failure, performed.traced.outcome = .error failure →
        ∃ before name value after, values.entries = before ++ (name, value) :: after ∧
          (∀ entry ∈ before, form.has entry.1 = true) ∧ form.has name = false ∧
          failure = .controlUnknown name ∧ performed.after = form.assigned before ∧
          performed.drawings = [] := by
  refine ⟨?_, ?_⟩
  · intro action failure whole failed
    exact perform_allOrNothing reached whole failure failed
  · intro values performed
    rcases perform_setValues_cases reached.distinct values with
      ⟨known, set⟩ | ⟨before, name, value, after, split, known, unknown, set⟩
    · have allSet : performed = .idle (form.assigned values.entries) .nothing := set
      rw [allSet]
      constructor
      · constructor
        · rintro ⟨failure, failed⟩
          cases failed
        · rintro ⟨entry, member, unknown⟩
          rw [known entry member] at unknown
          cases unknown
      · intro failure failed
        cases failed
    · have someSet : performed = .refused (form.assigned before) (.controlUnknown name) := set
      rw [someSet]
      constructor
      · constructor
        · rintro -
          exact ⟨(name, value), by simp [split], unknown⟩
        · rintro -
          exact ⟨.controlUnknown name, rfl⟩
      · intro failure failed
        cases failed
        exact ⟨before, name, value, after, split, known, unknown, rfl, rfl, rfl⟩

end

section

open scoped Host

/-- The last rule of a form is not known, and the form is not touched though its first
control would be invalid; the second of three values is for no control, and the first one
stays. -/
theorem unknown_rule_leaves_old_hint :
    let definition : FormDefinition := .static "login"
      (.ofList [("email", .text "required"), ("note", .text "unheard")])
    let hinted := Form.Action.onControl "email" (.makeHint (.text "old"))
    let form := ((Form.create definition .builtIn true).perform hinted).after
    let set := form.perform (.setValues (.ofList
      [("email", .text "a"), ("nick", .text "b"), ("note", .text "c")]))
    form.Reachable definition ∧
      (form.perform .submit).traced.outcome = .error (.mistake (.unknownRule "unheard")) ∧
      (form.perform .submit).after = form ∧ (form.perform .submit).drawings = [] ∧
      (∃ failure, set.traced.outcome = .error failure) ∧
      set.after = form.assigned [("email", .text "a")] ∧
      set.after.controls.map Control.value = [.text "a", .null] := by
  intro definition hinted form set
  have reached : form.Reachable definition := .performed (.created .builtIn true) _
  have listed : form.controls =
      [⟨"email", .text "required", .null, true, none, false, some "old"⟩,
        ⟨"note", .text "unheard", .null, true, none, false, none⟩] := rfl
  have required : Expression.read "required" = .ok [⟨"required", [], by decide⟩] := rfl
  have unheard : Expression.read "unheard" = .ok [⟨"unheard", [], by decide⟩] := rfl
  have invalid : form.validated = .error (.mistake (.unknownRule "unheard")) := by
    refine Validation.validate_eq_error_iff.mpr ?_
    rw [heldFields_values reached.distinct, listed]
    refine ⟨[_], _, [], rfl, ?_, ?_⟩
    · rw [List.forall_mem_singleton, Validation.judgement, Control.held,
        Validation.judgeField_text required]
      exact ⟨_, rfl⟩
    · rw [Validation.judgement, Control.held, Validation.judgeField_text unheard]
      rfl
  have failed : (form.perform .submit).traced.outcome =
      .error (.mistake (.unknownRule "unheard")) := outcome_submit_of_error invalid
  obtain ⟨whole, setting⟩ := failed_action_changes_nothing reached
  obtain ⟨rests, undrawn⟩ := whole .submit _ (by simp) failed
  have someUnknown : ∃ failure, set.traced.outcome = .error failure :=
    (setting _).1.mpr ⟨("nick", .text "b"), List.mem_cons_of_mem _ List.mem_cons_self, rfl⟩
  exact ⟨reached, failed, rests, undrawn, someUnknown, rfl, rfl⟩

end

section

variable [Host]

/-! ## Runs -/

/-- The entries before the first one whose name no control has. -/
def accepted (form : Form) (entries : List (String × Value)) : List (String × Value) :=
  entries.takeWhile fun entry => form.has entry.1

/-- What an action comes to when all that fails is left out of it. -/
def settled? (form : Form) (action : Action) : Option Action :=
  match (form.perform action).traced.outcome with
  | .ok _ => some action
  | .error _ =>
      match action with
      | .setValues values => some (.setValues (.ofList (form.accepted values.entries)))
      | _ => none

/-- What a run comes to when all that fails is left out of it. -/
def settledAll (form : Form) : List Action → List Action
  | [] => []
  | action :: rest => (form.settled? action).toList ++ (form.perform action).after.settledAll rest

/-- No action of the run fails. -/
def Succeeds (form : Form) : List Action → Prop
  | [] => True
  | action :: rest => (∃ answer, (form.perform action).traced.outcome = .ok answer) ∧
      (form.perform action).after.Succeeds rest

/-- Whether it fails or not, setting values leaves set what is accepted. -/
theorem after_perform_setValues (distinct : (form.controls.map Control.name).Nodup)
    (values : Table Value) :
    (form.perform (.setValues values)).after = form.assigned (form.accepted values.entries) ∧
      (form.perform (.setValues values)).drawings = [] := by
  rcases perform_setValues_cases distinct values with
    ⟨known, set⟩ | ⟨before, name, value, after, split, known, unknown, set⟩
  · have all : form.accepted values.entries = values.entries :=
      List.takeWhile_eq_self_iff.mpr known
    rw [set, all]
    exact ⟨rfl, rfl⟩
  · have first : form.accepted values.entries = before := by
      rw [accepted, split, List.takeWhile_append_of_pos known,
        List.takeWhile_cons_of_neg (by simp [unknown]), List.append_nil]
    rw [set, first]
    exact ⟨rfl, rfl⟩

/-- Setting only the values that are accepted does not fail, and leaves the same. -/
theorem perform_accepted (distinct : (form.controls.map Control.name).Nodup)
    (values : Table Value) :
    form.perform (.setValues (.ofList (form.accepted values.entries))) =
      .idle (form.perform (.setValues values)).after .nothing := by
  have keysDistinct : ((form.accepted values.entries).map (·.1)).Nodup :=
    ((List.takeWhile_sublist _).map _).nodup values.keys_distinct
  have taken : (Table.ofList (form.accepted values.entries)).entries =
      form.accepted values.entries := Table.entries_ofList keysDistinct
  have allKnown : ∀ entry ∈ form.accepted values.entries, form.has entry.1 = true :=
    fun _ => List.mem_takeWhile_imp
  rcases perform_setValues_cases distinct (.ofList (form.accepted values.entries)) with
    ⟨-, set⟩ | ⟨before, name, value, after, split, -, unknown, -⟩
  · rw [set, taken, (after_perform_setValues distinct values).1]
  · rw [taken] at split
    have known : form.has name = true := allKnown (name, value) (by simp [split])
    rw [known] at unknown
    cases unknown

/-- An action that comes to nothing changes nothing, and any other comes to one that does
the same and does not fail. -/
theorem settled?_cases {title : String} {rules : Table Value}
    (reached : form.Reachable (.static title rules)) (action : Action) :
    (form.settled? action = none ∧ (form.perform action).after = form ∧
        (form.perform action).drawings = []) ∨
      ∃ other answer, form.settled? action = some other ∧
        (form.perform other).traced.outcome = .ok answer ∧
        (form.perform other).after = (form.perform action).after ∧
        (form.perform other).drawings = (form.perform action).drawings := by
  cases ended : (form.perform action).traced.outcome with
  | ok answer =>
      right
      exact ⟨action, answer, by simp [settled?, ended], ended, rfl, rfl⟩
  | error failure =>
      by_cases whole : ∀ values, action ≠ .setValues values
      · left
        refine ⟨?_, perform_allOrNothing reached whole failure ended⟩
        cases action with
        | setValues values =>
            exact absurd rfl (whole values)
        | _ =>
            simp [settled?, ended]
      · right
        obtain ⟨values, rfl⟩ : ∃ values, action = .setValues values := by
          simpa using whole
        have undrawn := (after_perform_setValues reached.distinct values).2
        have comesTo : form.settled? (.setValues values) =
            some (.setValues (.ofList (form.accepted values.entries))) := by
          simp only [settled?, ended]
        refine ⟨_, .nothing, comesTo, ?_⟩
        rw [perform_accepted reached.distinct values, undrawn]
        exact ⟨rfl, rfl, rfl⟩

end

end Form

/-- A run in which actions fail ends as one in which none does, and the recorder is told the
same. -/
theorem Stage.performAll_settled [Host] {title : String} {rules : Table Value} {form : Form}
    (reached : form.Reachable (.static title rules)) (told : List Drawing)
    (actions : List Form.Action) :
    form.Succeeds (form.settledAll actions) ∧
      (⟨form, told⟩ : Stage).performAll (form.settledAll actions) =
        (⟨form, told⟩ : Stage).performAll actions := by
  induction actions generalizing form told with
  | nil =>
      exact ⟨trivial, rfl⟩
  | cons action rest inductionHypothesis =>
      -- A failed action also leads on to a form that is reached.
      have onwards := inductionHypothesis (.performed reached action)
        (told ++ (form.perform action).drawings)
      have step : (⟨form, told⟩ : Stage).performAll (action :: rest) =
          (⟨(form.perform action).after, told ++ (form.perform action).drawings⟩ :
            Stage).performAll rest := rfl
      rw [step]
      rcases form.settled?_cases reached action with
        ⟨comesTo, rests, undrawn⟩ | ⟨other, answer, comesTo, succeeds, after, drawings⟩
      · rw [Form.settledAll, comesTo, Option.toList_none, List.nil_append]
        rw [rests, undrawn, List.append_nil] at onwards ⊢
        exact onwards
      · rw [Form.settledAll, comesTo, Option.toList_some, List.singleton_append]
        have stepOther : (⟨form, told⟩ : Stage).perform other =
            ⟨(form.perform action).after, told ++ (form.perform action).drawings⟩ := by
          rw [Stage.perform, after, drawings]
        refine ⟨⟨⟨answer, succeeds⟩, ?_⟩, ?_⟩
        · rw [after]
          exact onwards.1
        · rw [Stage.performAll, List.foldl_cons, stepOther]
          exact onwards.2

end FormCheck
