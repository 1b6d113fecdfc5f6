import FormCheck.Host.Plain
import FormCheck.Proofs.SessionRun
import FormCheck.Proofs.WellFormed
import FormCheck.RulesFile

/-!
# Forms that were loaded

The forms of a rules file are loaded when all of their expressions can be read and name
only rules that are known.  A registry never forgets a rule, whatever is added to it or to
copies of it.  So a validation against a form that was loaded never fails because an
expression cannot be read or because a rule is unknown; if it fails, then for another
reason.

What callers supply, predicates and functions that compose messages, may itself fail in that
way; a registry where it does not is called blameless.
-/

namespace FormCheck

/-- A failure that says that an expression cannot be read or names an unknown rule. -/
def Failure.BlamesExpression (failure : Failure) : Prop :=
  ∃ mistake, failure = .mistake mistake ∧
    (mistake.kind = .unknownRule ∨ mistake.kind = .ruleSyntax)

/-- No failure of a predicate blames an expression. -/
def Predicate.Blameless (predicate : Predicate) : Prop :=
  ∀ value arguments surroundings? failure,
    (predicate.judge value arguments surroundings?).outcome = .error failure →
      ¬ failure.BlamesExpression

/-- A message that is composed never fails by blaming an expression. -/
def Message.Blameless (message : Message) : Prop :=
  ∀ compose value arguments failure, message = .composed compose →
    compose value arguments = .error failure → ¬ failure.BlamesExpression

/-- What was added to a registry never blames an expression. -/
structure Registry.Blameless (registry : Registry) : Prop where
  predicates : registry.rules.All fun rule => rule.predicate.Blameless
  messages : registry.messages.All Message.Blameless
  rule_messages : registry.rules.All fun rule =>
    ∀ message, rule.message? = some message → message.Blameless

/-! ## Loading -/

namespace RulesFile

variable {registry : Registry} {form field : Yaml.Scalar} {entries : Entries}

/-- An expression can be read, and the registry knows the rules that it names. -/
def Understood (registry : Registry) (expression : String) : Prop :=
  ∃ clauses, Expression.read expression = .ok clauses ∧
    ∀ clause ∈ clauses, registry.contains clause.name = true

/-- What may stand for a field in a rules file: nothing, or an expression that is
understood. -/
def Usable (registry : Registry) (datum : Yaml.Datum) : Prop :=
  datum = .scalar (.value .null) ∨
    ∃ expression, datum = .scalar (.value (.text expression)) ∧ Understood registry expression

theorem understood_empty (registry : Registry) : Understood registry "" :=
  ⟨[], rfl, by simp⟩

theorem checkNames_eq_ok_iff {clauses : List Clause} :
    checkNames registry clauses = .ok () ↔
      ∀ clause ∈ clauses, registry.contains clause.name = true := by
  induction clauses with
  | nil =>
      simp [checkNames]
  | cons clause rest inductionHypothesis =>
      rw [List.forall_mem_cons, ← inductionHypothesis, ← Registry.exists_lookup_iff, checkNames]
      cases registry.lookup clause.name with
      | error mistake =>
          simp [bind, Except.bind]
      | ok rule =>
          simp [bind, Except.bind]

theorem expressionOf_text_eq_ok_iff {written expression : String} :
    expressionOf registry form field (.scalar (.value (.text written))) = .ok expression ↔
      written = expression ∧ Understood registry written := by
  rw [expressionOf, Understood]
  cases Expression.read written with
  | error mistake =>
      simp [bind, Except.bind]
  | ok clauses =>
      have known : checkNames registry clauses = .ok () ↔ _ := checkNames_eq_ok_iff
      cases checked : checkNames registry clauses with
      | error mistake =>
          simp only [checked, reduceCtorEq, false_iff] at known
          simp [bind, Except.bind, checked, known]
      | ok _ =>
          simp only [checked, true_iff] at known
          simpa [bind, Except.bind, pure, Except.pure, checked] using
            fun _ => known

theorem expressionOf_eq_ok_iff {datum : Yaml.Datum} {expression : String} :
    expressionOf registry form field datum = .ok expression ↔
      datum = .scalar (.value .null) ∧ expression = "" ∨
        datum = .scalar (.value (.text expression)) ∧ Understood registry expression := by
  constructor
  · intro taken
    unfold expressionOf at taken
    split at taken
    · cases taken
      exact .inl ⟨rfl, rfl⟩
    · next written =>
        change expressionOf registry form field (.scalar (.value (.text written))) = _ at taken
        obtain ⟨rfl, understood⟩ := expressionOf_text_eq_ok_iff.mp taken
        exact .inr ⟨rfl, understood⟩
    · obtain ⟨name, -, later⟩ := exists_of_bind_eq_ok taken
      obtain ⟨name, -, impossible⟩ := exists_of_bind_eq_ok later
      cases impossible
  · rintro (⟨rfl, rfl⟩ | ⟨rfl, understood⟩)
    · rfl
    · exact expressionOf_text_eq_ok_iff.mpr ⟨rfl, understood⟩

/-- What stands for a field is taken exactly when it is usable. -/
theorem exists_expressionOf_iff (form field : Yaml.Scalar) {datum : Yaml.Datum} :
    (∃ expression, expressionOf registry form field datum = .ok expression) ↔
      Usable registry datum := by
  simp only [expressionOf_eq_ok_iff, exists_or, exists_eq_right, Usable]

theorem understood_of_expressionOf {datum : Yaml.Datum} {expression : String}
    (taken : expressionOf registry form field datum = .ok expression) :
    Understood registry expression := by
  rcases expressionOf_eq_ok_iff.mp taken with ⟨-, rfl⟩ | ⟨-, understood⟩
  · exact understood_empty registry
  · exact understood

theorem fieldsOf_cons_eq_ok_iff {sofar fields : Table String} {key : Yaml.Scalar}
    {datum : Yaml.Datum} {rest : Entries} :
    fieldsOf registry form sofar ((key, datum) :: rest) = .ok fields ↔
      ∃ name expression, keyText key = .ok name ∧
        expressionOf registry form key datum = .ok expression ∧
        fieldsOf registry form (sofar.insert name expression) rest = .ok fields := by
  rw [fieldsOf]
  cases keyText key with
  | error failure =>
      simp [bind, Except.bind]
  | ok name =>
      cases expressionOf registry form key datum <;> simp [bind, Except.bind]

/-- The key of an entry has a text, by which the entry is named. -/
def Named (entry : Yaml.Scalar × Yaml.Datum) : Prop :=
  ∃ name, keyText entry.1 = .ok name

theorem exists_fieldsOf_iff (form : Yaml.Scalar) (sofar : Table String) :
    (∃ fields, fieldsOf registry form sofar entries = .ok fields) ↔
      ∀ entry ∈ entries, Named entry ∧ Usable registry entry.2 := by
  induction entries generalizing sofar with
  | nil =>
      simp [fieldsOf]
  | cons entry rest inductionHypothesis =>
      obtain ⟨key, datum⟩ := entry
      rw [List.forall_mem_cons, ← exists_expressionOf_iff form key]
      constructor
      · rintro ⟨fields, taken⟩
        obtain ⟨name, expression, named, first, later⟩ := fieldsOf_cons_eq_ok_iff.mp taken
        exact ⟨⟨⟨name, named⟩, expression, first⟩, (inductionHypothesis _).mp ⟨fields, later⟩⟩
      · rintro ⟨⟨⟨name, named⟩, expression, first⟩, usable⟩
        obtain ⟨fields, later⟩ := (inductionHypothesis (sofar.insert name expression)).mpr usable
        exact ⟨fields, fieldsOf_cons_eq_ok_iff.mpr ⟨name, expression, named, first, later⟩⟩

theorem understood_of_fieldsOf {sofar fields : Table String}
    (all : sofar.All (Understood registry))
    (taken : fieldsOf registry form sofar entries = .ok fields) :
    fields.All (Understood registry) := by
  induction entries generalizing sofar with
  | nil =>
      cases taken
      exact all
  | cons entry rest inductionHypothesis =>
      obtain ⟨name, expression, -, first, later⟩ := fieldsOf_cons_eq_ok_iff.mp taken
      exact inductionHypothesis (all.insert _ (understood_of_expressionOf first)) later

theorem formsOf_cons_eq_ok_iff {sofar forms : Table (Table String)} {key : Yaml.Scalar}
    {datum : Yaml.Datum} {rest : Entries} :
    formsOf registry sofar ((key, datum) :: rest) = .ok forms ↔
      ∃ name written fields, datum = .mapping written ∧
        fieldsOf registry key .empty written = .ok fields ∧ keyText key = .ok name ∧
        formsOf registry (sofar.insert name fields) rest = .ok forms := by
  cases datum with
  | mapping written =>
      rw [formsOf]
      cases fields? : fieldsOf registry key .empty written with
      | error failure =>
          simp [bind, Except.bind, fields?]
      | ok fields =>
          cases keyText key <;> simp [bind, Except.bind, fields?]
  | scalar written =>
      cases named : keyText key <;> simp [formsOf, bind, Except.bind, named]
  | collection isEmpty =>
      cases named : keyText key <;> simp [formsOf, bind, Except.bind, named]

/-- Every field of every form is usable. -/
def AllUsable (registry : Registry) (entries : Entries) : Prop :=
  ∀ entry ∈ entries, ∀ fields, entry.2 = .mapping fields →
    ∀ field ∈ fields, Usable registry field.2

/-- Every form has a name, and so has every field of every form. -/
def AllNamed (entries : Entries) : Prop :=
  ∀ entry ∈ entries, Named entry ∧
    ∀ fields, entry.2 = .mapping fields → ∀ field ∈ fields, Named field

theorem exists_formsOf_iff (sofar : Table (Table String))
    (mappings : ∀ entry ∈ entries, ∃ fields, entry.2 = .mapping fields) :
    (∃ forms, formsOf registry sofar entries = .ok forms) ↔
      AllNamed entries ∧ AllUsable registry entries := by
  induction entries generalizing sofar with
  | nil =>
      simp [formsOf, AllUsable, AllNamed]
  | cons entry rest inductionHypothesis =>
      obtain ⟨key, datum⟩ := entry
      obtain ⟨⟨written, isMapping⟩, restMappings⟩ := List.forall_mem_cons.mp mappings
      subst isMapping
      have onFirst : (∃ fields, fieldsOf registry key .empty written = .ok fields) ↔
          ∀ field ∈ written, Named field ∧ Usable registry field.2 :=
        exists_fieldsOf_iff key .empty
      rw [AllUsable, AllNamed, List.forall_mem_cons, List.forall_mem_cons]
      constructor
      · rintro ⟨forms, taken⟩
        obtain ⟨name, _, fields, same, first, named, later⟩ := formsOf_cons_eq_ok_iff.mp taken
        cases same
        obtain ⟨namedLater, usableLater⟩ := (inductionHypothesis _ restMappings).mp ⟨forms, later⟩
        have here := onFirst.mp ⟨fields, first⟩
        refine ⟨⟨⟨⟨name, named⟩, ?_⟩, namedLater⟩, ?_, usableLater⟩
        · rintro _ ⟨⟩ field member
          exact (here field member).1
        · rintro _ ⟨⟩ field member
          exact (here field member).2
      · rintro ⟨⟨⟨⟨name, named⟩, fieldsNamed⟩, namedLater⟩, usable, usableLater⟩
        obtain ⟨fields, taken⟩ := onFirst.mpr fun field member =>
          ⟨fieldsNamed written rfl field member, usable written rfl field member⟩
        obtain ⟨forms, later⟩ :=
          (inductionHypothesis (sofar.insert name fields) restMappings).mpr
            ⟨namedLater, usableLater⟩
        exact ⟨forms, formsOf_cons_eq_ok_iff.mpr
          ⟨name, written, fields, rfl, taken, named, later⟩⟩

theorem understood_of_formsOf {sofar forms : Table (Table String)}
    (all : sofar.All (Table.All (Understood registry)))
    (taken : formsOf registry sofar entries = .ok forms) :
    forms.All (Table.All (Understood registry)) := by
  induction entries generalizing sofar with
  | nil =>
      cases taken
      exact all
  | cons entry rest inductionHypothesis =>
      obtain ⟨name, written, fields, -, first, -, later⟩ := formsOf_cons_eq_ok_iff.mp taken
      have understood := understood_of_fieldsOf (Table.all_empty _) first
      exact inductionHypothesis (all.insert _ understood) later

theorem forms_eq {file : RulesFile} {sections : Entries} (read : file.sections = .ok sections)
    (given : valueAt? sections "forms" = some (.mapping entries)) :
    file.forms registry = formsOf registry .empty entries := by
  simp [forms, read, given, bind, Except.bind]

/-- An expression that is understood stays so when a registry grows. -/
theorem Understood.after {expression : String} (understood : Understood registry expression)
    (history : List Registry.Addition) : Understood (registry.after history) expression := by
  obtain ⟨clauses, read, known⟩ := understood
  exact ⟨clauses, read, fun clause member =>
    Registry.contains_after history (known clause member)⟩

end RulesFile

/-! ## Validating -/

section Blame

variable {value : Value} {arguments : List String} {surroundings : Table Value}
  {failure : Failure}

theorem Failure.not_blamesExpression_callUnfit (explanation : String) :
    ¬ (Failure.callUnfit explanation).BlamesExpression := by
  rintro ⟨mistake, same, -⟩
  cases same

/-- A mistake of a third kind blames no expression. -/
theorem Mistake.not_blamesExpression {mistake : Mistake} (known : mistake.kind ≠ .unknownRule)
    (readable : mistake.kind ≠ .ruleSyntax) : ¬ (Failure.mistake mistake).BlamesExpression := by
  rintro ⟨other, same, unknown | unreadable⟩
  · cases same
    exact known unknown
  · cases same
    exact readable unreadable

/-- Comparing with a bound blames no expression, nor does a call with other arguments than
a built-in rule takes. -/
theorem BuiltIn.check_blameless {rule : BuiltIn}
    (failed : ((Rule.ofBuiltIn rule).check value arguments surroundings).outcome =
      .error failure) : ¬ failure.BlamesExpression := by
  by_cases taken : rule.Takes arguments
  · obtain ⟨passed, judged⟩ := exists_verdict_of_takes taken value surroundings
    rw [judged] at failed
    cases failed
  · obtain ⟨mistake, blamed, kind, -⟩ := blames_of_not_takes taken value surroundings
    rw [blamed] at failed
    cases failed
    exact Mistake.not_blamesExpression (by simp [kind]) (by simp [kind])

theorem Rule.check_blameless {rule : Rule} (blameless : rule.predicate.Blameless)
    (failed : (rule.check value arguments surroundings).outcome = .error failure) :
    ¬ failure.BlamesExpression := by
  simp only [Rule.check] at failed
  generalize (if rule.looksAtRecord then some surroundings else none) = given? at failed
  split at failed
  · cases failed
    exact Mistake.not_blamesExpression (by simp [Mistake.kind]) (by simp [Mistake.kind])
  · exact blameless value arguments given? failure failed

namespace Message

theorem blameless_template (text : String) : (template text).Blameless := by
  rintro compose value arguments failure ⟨⟩

theorem blameless_withArgument {compose : Value → String → Except Failure String}
    (blameless : ∀ value argument failure, compose value argument = .error failure →
      ¬ failure.BlamesExpression) : (withArgument compose).Blameless := by
  rintro composed value arguments failure ⟨⟩ failed
  match arguments, failed with
  | [], failed =>
      exact blameless value "" failure (map_eq_error_iff.mp failed)
  | [argument], failed =>
      exact blameless value argument failure (map_eq_error_iff.mp failed)
  | _ :: _ :: _, failed =>
      cases failed
      exact Failure.not_blamesExpression_callUnfit _

theorem blameless_ofBuiltIn (label : String → Value) (rule : BuiltIn) :
    (ofBuiltIn label rule).Blameless := by
  cases rule with
  | min | max =>
      rw [ofBuiltIn, aboutSize]
      refine blameless_withArgument fun value argument failure failed => ?_
      split at failed <;> cases failed
  | equals =>
      rw [ofBuiltIn, aboutField]
      refine blameless_withArgument fun value argument failure failed => ?_
      split at failed
      · cases failed
      · cases failed
        rintro ⟨mistake, same, -⟩
        cases same
  | required | string | number | numeric | alpha | email =>
      exact blameless_template _

/-- Rendering a blameless message fails for other reasons only. -/
theorem Blameless.render [Host] {message : Message} (blameless : message.Blameless)
    {rule : String} (failed : message.render rule value arguments = .error failure) :
    ¬ failure.BlamesExpression := by
  cases message with
  | template text =>
      obtain ⟨fault, -, rfl⟩ := render_template_error_cases failed
      split
      · exact Mistake.not_blamesExpression (by simp [Mistake.kind]) (by simp [Mistake.kind])
      · rintro ⟨mistake, same, -⟩
        cases same
  | composed compose =>
      rw [Message.render] at failed
      split at failed
      · cases failed
      · cases failed
        exact Mistake.not_blamesExpression (by simp [Mistake.kind]) (by simp [Mistake.kind])
      · next reason ended =>
        cases failed
        exact blameless _ value arguments _ rfl ended

end Message

end Blame

namespace Registry

variable {registry : Registry}

theorem Blameless.messageFor (blameless : registry.Blameless) (name : String) :
    (registry.messageFor name).Blameless := by
  unfold Registry.messageFor
  split
  · next message set =>
      exact blameless.messages name message set
  · split
    · next message came =>
        obtain ⟨rule, added, message?⟩ := Option.bind_eq_some_iff.mp came
        exact blameless.rule_messages name rule added message message?
    · split
      · exact Message.blameless_ofBuiltIn _ _
      · exact Message.blameless_template _

end Registry

namespace Validation

variable [Host] {registry : Registry} {field : String} {value : Value} {surroundings : Table Value}

/-- A clause whose rule is known is judged, or it fails for other reasons. -/
theorem judgeClause_blameless (blameless : registry.Blameless) {clause : Clause}
    (known : registry.contains clause.name = true) {failure : Failure}
    (failed : (judgeClause registry field value surroundings clause).outcome = .error failure) :
    ¬ failure.BlamesExpression := by
  rcases judgeClause_error_cases failed with ⟨mistake, unknown, -⟩ | ⟨rule, found, judged⟩
  · obtain ⟨rule, found⟩ := Registry.exists_lookup_iff.mpr known
    rw [found] at unknown
    cases unknown
  · rcases judged with unjudged | ⟨-, unrendered⟩
    · rcases Registry.lookup_eq_ok_cases found with added | ⟨builtIn, -, rfl⟩
      · exact Rule.check_blameless (blameless.predicates _ rule added) unjudged
      · exact BuiltIn.check_blameless unjudged
    · exact (blameless.messageFor clause.name).render unrendered

/-- A validation against expressions that are understood fails for other reasons only. -/
theorem validate_blameless (blameless : registry.Blameless) {fields : Table String}
    (understood : fields.All (RulesFile.Understood registry)) {record : Table Value}
    {failure : Failure}
    (failed : (validate registry record (fields.map Value.text)).outcome = .error failure) :
    ¬ failure.BlamesExpression := by
  obtain ⟨field, expression, written, reason⟩ := exists_clause_of_validate_error failed
  -- The field that fails stands in the form, so its expression is understood.
  obtain ⟨clauses, read, known⟩ := understood field expression written
  simp only [read] at reason
  obtain ⟨clause, member, value, surroundings, stopped⟩ := reason
  exact judgeClause_blameless blameless (known clause member) stopped

end Validation

namespace RulesFile

/-- The forms of a rules file are loaded exactly when they and their fields have names and
every expression can be read and names known rules only.  Then a validation against one of
them never fails for want of a rule or of a readable expression, with no registry that arises
from that one and blames no expression itself. -/
theorem forms_load_iff_and_stay_understood [Host] {file : RulesFile} {sections entries : Entries}
    (read : file.sections = .ok sections)
    (given : valueAt? sections "forms" = some (.mapping entries))
    (mappings : ∀ entry ∈ entries, ∃ fields, entry.2 = .mapping fields) (registry : Registry) :
    ((∃ forms, file.forms registry = .ok forms) ↔
        AllNamed entries ∧ AllUsable registry entries) ∧
      ∀ forms, file.forms registry = .ok forms →
        ∀ changes, Session.SelectsPresent 1 changes →
          ∀ grown ∈ ((Session.start registry).performAll changes).registries, grown.Blameless →
            ∀ name fields, forms.get? name = some fields →
              ∀ record failure,
                (Validation.validate grown record (fields.map Value.text)).outcome =
                    .error failure →
                  ¬ failure.BlamesExpression := by
  rw [forms_eq read given]
  refine ⟨exists_formsOf_iff .empty mappings, ?_⟩
  intro forms loaded changes present grown member blameless name fields held record failure failed
  have understood : fields.All (Understood registry) :=
    understood_of_formsOf (Table.all_empty _) loaded name fields held
  have opened : (Chronicle.opening registry []).Faithful registry :=
    .opening (Registry.keepsBuiltIn_messageAdditions [])
  have sameSession := Chronicle.session_noteAll (Chronicle.opening registry []) changes
  have noted : grown ∈
      ((Chronicle.opening registry []).noteAll changes).session.registries := by
    rw [sameSession]
    exact member
  obtain ⟨history, -, rfl⟩ := (opened.noteAll present).exists_history noted
  exact Validation.validate_blameless blameless
    (fun field expression written => (understood field expression written).after history) failed

open scoped Host

/-- With the built-in rules alone the form is refused, because it names an added rule.  With
that rule it is loaded, and a validation with a grown copy fails on the bound that cannot
be read. -/
theorem unreadable_bound_blames_no_expression :
    let key (text : String) : Yaml.Scalar := .value (.text text)
    let entries : Entries :=
      [(key "f",
        .mapping [(key "a", .scalar (key "even|min:x")), (key "b", .scalar (.value .null))])]
    let file : RulesFile := ⟨"rules.yaml", .ok (.mapping [(key "forms", .mapping entries)])⟩
    let registry := Registry.builtIn.add (.rule ⟨"even", .constant true, none, false⟩)
    let changes : List Session.Change :=
      [.copy, .register "even" (some (.constant true)) (.value (.text "odd")) false,
        .register "min" (some (.constant true)) (.value .null) false]
    let grown := registry.add (.rule ⟨"even", .constant true, some (.template "odd"), false⟩)
    let fields : Table String := .ofList [("a", "even|min:x"), ("b", "")]
    (∃ sections, file.sections = .ok sections ∧
        valueAt? sections "forms" = some (.mapping entries)) ∧
      (∀ entry ∈ entries, ∃ fields, entry.2 = .mapping fields) ∧
      AllNamed entries ∧ AllUsable registry entries ∧ ¬ AllUsable .builtIn entries ∧
      Session.SelectsPresent 1 changes ∧
      grown ∈ ((Session.start registry).performAll changes).registries ∧ grown.Blameless ∧
      ∃ forms failure, file.forms registry = .ok forms ∧ forms.get? "f" = some fields ∧
        (Validation.validate grown (.ofList [("a", .integer 5)])
          (fields.map Value.text)).outcome = .error failure ∧
        ¬ failure.BlamesExpression := by
  intro key entries file registry changes grown fields
  have read : file.sections = .ok [(key "forms", .mapping entries)] := rfl
  have given : valueAt? [(key "forms", .mapping entries)] "forms" = some (.mapping entries) := rfl
  have mappings : ∀ entry ∈ entries, ∃ fields, entry.2 = .mapping fields := by
    intro entry member
    rw [List.mem_singleton.mp member]
    exact ⟨_, rfl⟩
  have loaded : file.forms registry = .ok (.ofList [("f", fields)]) := rfl
  have refused : file.forms .builtIn = .error (.mistake (.unknownRule "even")) := rfl
  have present : Session.SelectsPresent 1 changes := by
    simp [changes, Session.SelectsPresent, Session.Change.SelectsPresent]
  have member : grown ∈ ((Session.start registry).performAll changes).registries :=
    List.mem_cons_of_mem _ List.mem_cons_self
  have only : ∀ name rule, grown.rules.get? name = some rule →
      rule = ⟨"even", .constant true, some (.template "odd"), false⟩ := by
    intro name rule added
    have listed : (name, rule) ∈ grown.rules.entries := Table.get?_eq_some_iff.mp added
    exact (Prod.mk.inj (List.mem_singleton.mp listed)).2
  have blameless : grown.Blameless := by
    refine ⟨?_, ?_, ?_⟩
    · rintro name rule added value arguments surroundings? failure judged
      cases only name rule added
      cases judged
    · intro name message set
      cases set
    · rintro name rule added message came
      cases only name rule added
      cases came
      exact Message.blameless_template "odd"
  have failed : (Validation.validate grown (.ofList [("a", .integer 5)])
      (fields.map Value.text)).outcome = .error (.mistake (.boundNotNumeric "min" "x")) := by
    rw [Validation.validate_outcome]
    rfl
  obtain ⟨usable, stays⟩ := forms_load_iff_and_stay_understood read given mappings registry
  obtain ⟨usableBuiltIn, -⟩ := forms_load_iff_and_stay_understood read given mappings .builtIn
  obtain ⟨named, understood⟩ := usable.mp ⟨_, loaded⟩
  refine ⟨⟨_, read, given⟩, mappings, named, understood, ?_, present, member, blameless, _, _,
    loaded, rfl, failed,
    stays _ loaded changes present grown member blameless "f" fields rfl _ _ failed⟩
  intro allKnown
  obtain ⟨forms, loadedBuiltIn⟩ := usableBuiltIn.mpr ⟨named, allKnown⟩
  rw [refused] at loadedBuiltIn
  cases loadedBuiltIn

/-- A form that is named by a number of too many digits is not loaded, although its expression
is understood.  A form that is loaded fails for want of a rule when the function that composes
a message fails in this way. -/
theorem unnamed_form_and_blaming_message :
    let key (text : String) : Yaml.Scalar := .value (.text text)
    let fields : Yaml.Datum := .mapping [(key "a", .scalar (key "required"))]
    let ofForm (form : Yaml.Scalar) : RulesFile :=
      ⟨"rules.yaml", .ok (.mapping [(key "forms", .mapping [(form, fields)])])⟩
    let blaming : MessageOffer := .composed fun _ _ => .error (.mistake (.unknownRule "lost"))
    let grown := (Registry.builtIn.setMessage "required" blaming).1
    Understood .builtIn "required" ∧
      (ofForm (.value (.integer (Int.pow 10 4300)))).forms .builtIn = .error .integerTooLong ∧
      grown ∈ ((Session.start .builtIn).perform (.setMessage "required" blaming)).registries ∧
      ∃ forms expressions failure, (ofForm (key "f")).forms .builtIn = .ok forms ∧
        forms.get? "f" = some expressions ∧
        (Validation.validate grown (.ofList [("a", .text "")])
          (expressions.map Value.text)).outcome = .error failure ∧
        failure.BlamesExpression := by
  intro key fields ofForm blaming grown
  have unloaded (form : Yaml.Scalar) (unnamed : keyText form = .error .integerTooLong) :
      (ofForm form).forms .builtIn = .error .integerTooLong := by
    have taken : fieldsOf .builtIn form .empty [(key "a", .scalar (key "required"))] =
        .ok (.ofList [("a", "required")]) := rfl
    rw [forms_eq rfl rfl, formsOf, taken, unnamed]
    rfl
  refine ⟨⟨[⟨"required", [], by decide⟩], rfl, ?_⟩, ?_, List.mem_singleton.mpr rfl,
    .ofList [("f", .ofList [("a", "required")])], .ofList [("a", "required")],
    .mistake (.unknownRule "lost"), rfl, rfl, ?_, ⟨_, rfl, .inl rfl⟩⟩
  · intro clause member
    rw [List.mem_singleton.mp member]
    rfl
  · have unwritable : (Value.integer (Int.pow 10 4300)).isWritable = false := by
      decide +kernel
    refine unloaded _ ?_
    simp only [keyText, Yaml.Scalar.text?, unwritable, Bool.false_eq_true, ↓reduceIte]
  · rw [Validation.validate_outcome]
    rfl

end RulesFile

end FormCheck
