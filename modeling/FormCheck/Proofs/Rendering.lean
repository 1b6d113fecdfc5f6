import FormCheck.Host.Plain
import FormCheck.Predicate.Stock
import FormCheck.Proofs.Defects
import FormCheck.Proofs.FirstFailure
import FormCheck.Proofs.Message
import FormCheck.Proofs.RegistryHistory

/-!
# Rendering the message of a rule

A simple template that is the message of a rule is rendered in one pass, and a field that
fails the rule is reported with the text that comes of it: what users typed is shown as it
is and never read as a template.

Rendering a message ends with a text, or it blames the message, or a failure escapes that
says nothing about the rule.  A template is blamed if its first defect is a missing part, and
any other first defect escapes.  Simple templates have no defects but missing arguments.
-/

namespace FormCheck

open Validation

namespace Registry

variable {registry : Registry} {name text : String}

/-! ## Templates that are messages -/

/-- A text is the template of a rule: it was set for the name of the rule, or the rule came
with it and none was set. -/
inductive Installed (registry : Registry) (name text : String) : Prop where
  | set (found : registry.messages.get? name = some (.template text))
  | own {rule : Rule} (unset : registry.messages.get? name = none)
      (added : registry.rules.get? name = some rule)
      (came : rule.message? = some (.template text))

theorem Installed.messageFor (installed : registry.Installed name text) :
    registry.messageFor name = .template text := by
  cases installed with
  | set found =>
      rw [Registry.messageFor, found]
  | own unset added came =>
      simp only [Registry.messageFor, unset, added, Option.bind_some, came]

theorem installed_of_setMessage (registry : Registry) (name text : String) :
    (registry.setMessage name (.value (.text text))).1.Installed name text := by
  have offered : Addition.ofMessage? name (.value (.text text)) =
      some (.message name (.template text)) := rfl
  rw [setMessage_of_offered offered]
  exact .set (by simp [add, Table.get?_insert])

theorem installed_of_register {predicate : Predicate} {looksAtRecord : Bool}
    (unset : registry.messages.get? name = none) (free : BuiltIn.ofName? name = none) :
    (registry.register name (some predicate) (.value (.text text)) looksAtRecord).1.Installed
      name text := by
  let definition : Rule := ⟨name, predicate, some (.template text), looksAtRecord⟩
  have offered : Addition.ofRule? name (some predicate) (.value (.text text)) looksAtRecord =
      some (.rule definition) := by
    simp [Addition.ofRule?, free, MessageOffer.accept, definition]
  have known : (registry.add (.rule definition)).rules.get? name = some definition := by
    simp [add, definition, Table.get?_insert]
  rw [register_of_offered offered]
  exact .own unset known rfl

section Host

variable [Host]

theorem renderMessage_of_template {rendered : List Char} {value : Value}
    {arguments : List String} (message : registry.messageFor name = .template text)
    (renders : Template.render text.toList ⟨arguments, value⟩ = .ok rendered) :
    registry.renderMessage name value arguments = .ok (String.ofList rendered) := by
  simp only [renderMessage, message, Message.render, renders]

/-! ## One pass -/

/-- A simple template is rendered to its literal texts with the value and the arguments
between them, as they are, and a field that fails the rule first is reported with this
text. -/
theorem simple_message_rendered_in_one_pass (parts : List Template.Part)
    (installed : registry.Installed name (String.ofList (Template.written parts))) :
    (∀ value arguments, Template.Fits parts ⟨arguments, value⟩ →
      registry.renderMessage name value arguments =
        .ok (String.ofList (parts.flatMap (Template.Part.shown ⟨arguments, value⟩)))) ∧
    ∀ (record rules : Table Value), ∀ held ∈ heldFields record rules.entries,
      ∀ clause, FailsFirst registry record held clause → clause.name = name →
      Template.Fits parts ⟨clause.arguments, held.value⟩ →
        match (validate registry record rules).outcome with
        | .ok report => report.errorFor? held.field = some ⟨name,
            String.ofList (parts.flatMap (Template.Part.shown ⟨clause.arguments, held.value⟩))⟩
        | .error failure => ∃ other ∈ heldFields record rules.entries,
            other.field ≠ held.field ∧ judgement registry record other = .error failure := by
  have renders : ∀ value arguments, Template.Fits parts ⟨arguments, value⟩ →
      registry.renderMessage name value arguments =
        .ok (String.ofList (parts.flatMap (Template.Part.shown ⟨arguments, value⟩))) := by
    intro value arguments fits
    refine renderMessage_of_template installed.messageFor ?_
    rw [String.toList_ofList]
    exact Template.render_written_of_fits fits
  refine ⟨renders, ?_⟩
  intro record rules held member clause fails named fits
  have rendered := renders held.value clause.arguments fits
  rw [← named] at rendered ⊢
  exact validate_of_failsFirst member fails rendered

/-! ## Blame and escape -/

/-- Rendering ends with a text or blames the message of the rule. -/
def GivesTextOrBlame (rule : String) (outcome : Except Failure String) : Prop :=
  ∀ failure, outcome = .error failure → failure.BlamesMessageOf rule

/-- A simple template that asks for an argument that there is none of is blamed for it. -/
theorem renderMessage_simple (parts : List Template.Part)
    (message : registry.messageFor name = .template (String.ofList (Template.written parts)))
    (numbered : ∀ index, .argument index ∈ parts → index ≤ Layout.greatestNumber)
    {value : Value} (writable : value.isWritable = true) (arguments : List String) :
    (∃ text, Template.filled ⟨arguments, value⟩ parts = .ok text ∧
      registry.renderMessage name value arguments = .ok (String.ofList text)) ∨
    ∃ index, .argument index ∈ parts ∧ arguments.length ≤ index ∧
      registry.renderMessage name value arguments = .error (.mistake
        (.messageUnrendered name (String.ofList (Template.written parts))
          (.positionMissing index))) := by
  have rendered := Template.render_written parts ⟨arguments, value⟩ numbered
  cases filled : Template.filled ⟨arguments, value⟩ parts with
  | ok text =>
      rw [filled] at rendered
      exact .inl ⟨text, rfl, renderMessage_of_template message (by rwa [String.toList_ofList])⟩
  | error fault =>
      obtain ⟨index, member, beyond, rfl⟩ := Template.filled_eq_error writable filled
      rw [filled, ← String.toList_ofList (l := Template.written parts)] at rendered
      refine .inr ⟨index, member, beyond, ?_⟩
      rw [renderMessage, message, Message.render_template_eq_error rendered]
      rfl

/-- A template fails to render exactly for its first defect. -/
theorem renderMessage_template_eq_error_iff (message : registry.messageFor name = .template text)
    (value : Value) (arguments : List String) (failure : Failure) :
    registry.renderMessage name value arguments = .error failure ↔
      ∃ fault, Template.FirstDefect ⟨arguments, value⟩ 2 .open text.toList fault ∧
        failure = if fault.isMissingPart then .mistake (.messageUnrendered name text fault)
          else .template fault := by
  rw [renderMessage, message]
  constructor
  · intro failed
    obtain ⟨fault, unrendered, same⟩ := Message.render_template_error_cases failed
    exact ⟨fault, (Template.render_eq_error_iff _ _ _).mp unrendered, same⟩
  · rintro ⟨fault, defect, rfl⟩
    exact Message.render_template_eq_error ((Template.render_eq_error_iff _ _ _).mpr defect)

/-- A function that gives no text is blamed, and what it fails with is passed on. -/
theorem renderMessage_composed_blames_iff
    {compose : Value → List String → Except Failure Value}
    (message : registry.messageFor name = .composed compose) (value : Value)
    (arguments : List String) :
    GivesTextOrBlame name (registry.renderMessage name value arguments) ↔
      ∀ failure, compose value arguments = .error failure → failure.BlamesMessageOf name := by
  rw [renderMessage, message]
  cases composed : compose value arguments with
  | error failure =>
      simp [GivesTextOrBlame, Message.render, composed]
  | ok shown =>
      constructor
      · intro blames failure impossible
        cases impossible
      · intro passedOn failure failed
        cases shown <;> simp only [Message.render, composed] at failed <;> cases failed <;>
          exact ⟨_, rfl, rfl, rfl⟩

end Host

/-! ## Templates shown and templates that are not -/

open scoped Host

/-- A value and arguments that look like fields are shown as they are. -/
theorem braces_of_users_are_shown :
    let registry := (builtIn.register "one_of" (some .oneOf)
      (.value (.text "\x7b\x7b\x7bvalue\x7d\x7d\x7d is neither \x7b0\x7d nor \x7b1\x7d"))
      false).1
    ∃ report, (validate registry (.ofList [("size", .text "\x7b1\x7d")])
        (.ofList [("size", .text "required|one_of:\x7bvalue\x7d,\x7b0\x7d|email")])).outcome =
          .ok report ∧
      report.errorFor? "size" = some ⟨"one_of",
        "\x7b\x7b1\x7d\x7d is neither \x7bvalue\x7d nor \x7b0\x7d"⟩ := by
  let parts : List Template.Part :=
    [.literal ['\x7b'], .value, .literal "\x7d is neither ".toList, .argument 0,
      .literal " nor ".toList, .argument 1]
  have template : "\x7b\x7b\x7bvalue\x7d\x7d\x7d is neither \x7b0\x7d nor \x7b1\x7d" =
      String.ofList (Template.written parts) := by
    decide +kernel
  have shown : "\x7b\x7b1\x7d\x7d is neither \x7bvalue\x7d nor \x7b0\x7d" =
      String.ofList (parts.flatMap (Template.Part.shown
        ⟨["\x7bvalue\x7d", "\x7b0\x7d"], .text "\x7b1\x7d"⟩)) := by
    decide +kernel
  have fits : Template.Fits parts ⟨["\x7bvalue\x7d", "\x7b0\x7d"], .text "\x7b1\x7d"⟩ := by
    refine ⟨?_, by decide, fun _ => rfl⟩
    intro index member
    simp only [parts, List.mem_cons, reduceCtorEq, Template.Part.argument.injEq, List.not_mem_nil,
      or_false, false_or] at member
    simp only [List.length_cons, List.length_nil]
    omega
  rw [template, shown]
  clear_value parts
  intro registry
  have installed : registry.Installed "one_of" (String.ofList (Template.written parts)) :=
    installed_of_register rfl rfl
  let held : HeldField :=
    ⟨"size", .text "\x7b1\x7d", .text "required|one_of:\x7bvalue\x7d,\x7b0\x7d|email"⟩
  let clause : Clause := ⟨"one_of", ["\x7bvalue\x7d", "\x7b0\x7d"], by decide⟩
  have fails : FailsFirst registry (.ofList [("size", held.value)]) held clause := by
    refine ⟨[⟨"required", [], by decide⟩], [⟨"email", [], by decide⟩], rfl, ?_, ⟨_, rfl, rfl⟩⟩
    exact List.forall_mem_singleton.mpr ⟨_, rfl, rfl⟩
  clear_value registry
  have reported := (simple_message_rendered_in_one_pass parts installed).2
    (.ofList [("size", held.value)]) (.ofList [("size", held.expression)]) held
    List.mem_cons_self clause fails rfl fits
  cases ended : (validate registry (.ofList [("size", held.value)])
      (.ofList [("size", held.expression)])).outcome with
  | ok report =>
      rw [ended] at reported
      exact ⟨report, rfl, reported⟩
  | error failure =>
      rw [ended] at reported
      obtain ⟨other, member, different, -⟩ := reported
      have same : other = held := List.mem_singleton.mp member
      exact absurd (congrArg HeldField.field same) different

end Registry

end FormCheck
