import FormCheck.Proofs.Template
import FormCheck.Registry

/-!
# How rendering a message ends

Rendering a message gives a text or fails.  A template that fails for a missing part blames
the message; any other fault of a template says nothing about the rule.

A template without braces has one piece, its own text, and renders as that text
whatever the value and the arguments are.  The templates of the built-in rules
have no braces, and the messages that are composed take up to one argument, so
the message of a built-in rule renders for every value and at most one argument.  Only the
message that names another field needs a label that is writable.
-/

namespace FormCheck

/-! ## How rendering fails -/

/-- The failure blames the message of a rule. -/
def Failure.BlamesMessageOf (rule : String) (failure : Failure) : Prop :=
  ∃ mistake : Mistake, failure = .mistake mistake ∧ mistake.kind = .invalidMessage ∧
    mistake.concerns = rule

theorem Failure.not_blamesMessageOf_template (rule : String) (fault : TemplateFault) :
    ¬ (Failure.template fault).BlamesMessageOf rule := by
  rintro ⟨mistake, impossible, -⟩
  cases impossible

/-- A defect of a template is blamed on its rule exactly when it is a missing part. -/
theorem Failure.blamesMessageOf_ite_iff (rule text : String) (fault : TemplateFault) :
    (if fault.isMissingPart then .mistake (.messageUnrendered rule text fault)
      else .template fault : Failure).BlamesMessageOf rule ↔ fault.isMissingPart = true := by
  cases missing : fault.isMissingPart with
  | true =>
      exact iff_of_true ⟨_, rfl, rfl, rfl⟩ rfl
  | false =>
      exact iff_of_false (Failure.not_blamesMessageOf_template rule fault) Bool.false_ne_true

namespace Message

variable [Host] {rule text : String} {value : Value} {arguments : List String}

/-- A template blames the message for a missing part, and fails with any other fault. -/
theorem render_template_eq_error {fault : TemplateFault}
    (failed : Template.render text.toList ⟨arguments, value⟩ = .error fault) :
    (template text).render rule value arguments = .error
      (if fault.isMissingPart then .mistake (.messageUnrendered rule text fault)
        else .template fault) := by
  cases missing : fault.isMissingPart <;> simp [render, failed, missing]

theorem render_template_error_cases {failure : Failure}
    (failed : (template text).render rule value arguments = .error failure) :
    ∃ fault, Template.render text.toList ⟨arguments, value⟩ = .error fault ∧
      failure = if fault.isMissingPart then .mistake (.messageUnrendered rule text fault)
        else .template fault := by
  cases rendered : Template.render text.toList ⟨arguments, value⟩ with
  | ok characters =>
      rw [render, rendered] at failed
      cases failed
  | error fault =>
      rw [render_template_eq_error rendered] at failed
      exact ⟨fault, rfl, (Except.error.inj failed).symm⟩

end Message

/-! ## Messages that always render -/

namespace Template

/-- A text without braces. -/
def Plain (text : List Char) : Prop :=
  ∀ c ∈ text, c ≠ '\x7b' ∧ c ≠ '\x7d'

instance (text : List Char) : Decidable (Plain text) :=
  List.decidableBAll _ text

theorem doubled_of_plain {text : List Char} (plain : Plain text) : doubled text = text := by
  induction text with
  | nil =>
      rfl
  | cons c rest inductionHypothesis =>
      obtain ⟨noBrace, later⟩ := List.forall_mem_cons.mp plain
      rw [doubled, List.flatMap_cons, if_neg (not_or.mpr noBrace), ← doubled,
        inductionHypothesis later, List.singleton_append]

theorem render_of_plain [Host] {text : List Char} (plain : Plain text) (arguments : Arguments) :
    render text arguments = .ok text := by
  have single : written [.literal text] = text := by
    rw [written_cons, Part.written, doubled_of_plain plain]
    exact List.append_nil text
  have rendered := render_written [.literal text] arguments (by simp)
  rw [single] at rendered
  rw [rendered]
  exact congrArg Except.ok (List.append_nil text)

end Template

namespace Message

variable [Host]

private theorem exists_render_of_plain {text : String} (plain : Template.Plain text.toList)
    (rule : String) (value : Value) (arguments : List String) :
    ∃ rendered, (template text).render rule value arguments = .ok rendered := by
  refine ⟨text, ?_⟩
  rw [render, Template.render_of_plain plain]
  simp only [String.ofList_toList]

/-- A message that is composed of at most one argument renders when it gets no more. -/
private theorem exists_render_withArgument {compose : Value → String → Except Failure String}
    {value : Value} (composes : ∀ argument, ∃ text, compose value argument = .ok text)
    {arguments : List String} (few : arguments.length ≤ 1) (rule : String) :
    ∃ rendered, (withArgument compose).render rule value arguments = .ok rendered := by
  match arguments, few with
  | [], _ =>
      obtain ⟨text, composed⟩ := composes ""
      exact ⟨text, by simp [withArgument, render, composed, Except.map]⟩
  | [argument], _ =>
      obtain ⟨text, composed⟩ := composes argument
      exact ⟨text, by simp [withArgument, render, composed, Except.map]⟩

/-- The message of a built-in rule renders for every value and at most one argument, if labels
are writable. -/
theorem exists_render_ofBuiltIn {label : String → Value}
    (writable : ∀ field, (label field).isWritable = true) (rule : BuiltIn)
    {arguments : List String} (few : arguments.length ≤ 1) (name : String) (value : Value) :
    ∃ rendered, (ofBuiltIn label rule).render name value arguments = .ok rendered := by
  cases rule with
  | min | max =>
      rw [ofBuiltIn, aboutSize]
      refine exists_render_withArgument (fun argument => ?_) few name
      split <;> exact ⟨_, rfl⟩
  | equals =>
      rw [ofBuiltIn, aboutField]
      refine exists_render_withArgument (fun argument => ?_) few name
      exact ⟨_, if_pos (writable argument)⟩
  | required | string | number | numeric | alpha | email =>
      exact exists_render_of_plain (by decide +kernel) name value arguments

end Message

end FormCheck
