import FormCheck.Proofs.LoadedForms

/-!
# How rules files and validations fail

A rules file fails to be used because there is no document to be read at its path, or
because something is wrong with what the document says.  With the messages and labels of
a rules file, a validation fails with a mistake, or with a template that does not suit the
type of a value.
-/

namespace FormCheck

/-- Something is wrong with the set-up of rules: with what a document says, with the form
that is asked for, or with a rule. -/
def Failure.OfSetUp : Failure → Prop
  | .mistake _ | .rulesFile _ | .formUnknown _ _ | .integerTooLong => True
  | _ => False

private theorem ofSetUp_of_mapError {α : Type} {outcome : Except Mistake α} {failure : Failure}
    (failed : outcome.mapError Failure.mistake = .error failure) : failure.OfSetUp := by
  cases outcome with
  | error mistake =>
      cases failed
      trivial
  | ok result =>
      cases failed

/-! ## Files -/

namespace Folder

/-- A path leads to a file that holds a text; in the text a line feed ends every line. -/
def Holds (folder : Folder) (path : String) (text : List Char) : Prop :=
  ∃ content characters, folder.find path = .file content ∧
    Utf8.decode content = .ok characters ∧ withLineFeeds characters = text

/-- A path leads to a file that holds no text. -/
def HoldsNoText (folder : Folder) (path : String) (fault : Utf8.Fault) : Prop :=
  ∃ content, folder.find path = .file content ∧ Utf8.decode content = .error fault

theorem Holds.unique {folder : Folder} {path : String} {text other : List Char}
    (holds : folder.Holds path text) (holdsOther : folder.Holds path other) : text = other := by
  obtain ⟨content, characters, leads, decoded, rfl⟩ := holds
  obtain ⟨again, same, leadsAgain, decodedAgain, rfl⟩ := holdsOther
  cases leads.symm.trans leadsAgain
  cases decoded.symm.trans decodedAgain
  rfl

/-- A path leads to something that one cannot look at, or to a file that must not be read. -/
def Bars (folder : Folder) (path : String) (fault : HostFault) : Prop :=
  folder.find path = .hidden fault ∨ folder.find path = .locked fault

theorem find_cases (folder : Folder) (path : String) :
    folder.find path = .missing ∨ folder.find path = .folder ∨
      (∃ fault, folder.Bars path fault) ∨ (∃ fault, folder.HoldsNoText path fault) ∨
      ∃ text, folder.Holds path text := by
  cases leads : folder.find path with
  | missing =>
      exact .inl rfl
  | folder =>
      exact .inr (.inl rfl)
  | hidden fault =>
      exact .inr (.inr (.inl ⟨fault, .inl leads⟩))
  | locked fault =>
      exact .inr (.inr (.inl ⟨fault, .inr leads⟩))
  | file content =>
      cases decoded : Utf8.decode content with
      | error fault =>
          exact .inr (.inr (.inr (.inl ⟨fault, content, leads, decoded⟩)))
      | ok characters =>
          exact .inr (.inr (.inr (.inr ⟨_, content, characters, leads, decoded, rfl⟩)))

end Folder

/-! ## Rules files -/

namespace RulesFile

variable {file : RulesFile} {registry : Registry} {form field : Yaml.Scalar}
  {entries : Entries} {failure : Failure}

/-! ## What a document says -/

theorem ofSetUp_of_keyText {key : Yaml.Scalar} (failed : keyText key = .error failure) :
    failure.OfSetUp := by
  unfold keyText at failed
  split at failed
  · cases failed
  · cases failed
    trivial

/-- What is said of an entry names its keys, which may fail too. -/
theorem ofSetUp_of_named {α : Type} {key : Yaml.Scalar} {fault : String → RulesFileFault}
    (failed : (keyText key >>= fun name => (.error (.rulesFile (fault name)) : Except Failure α)) =
      .error failure) : failure.OfSetUp := by
  rcases bind_error_cases failed with unnamed | ⟨name, -, told⟩
  · exact ofSetUp_of_keyText unnamed
  · cases told
    trivial

theorem ofSetUp_of_expressionOf {datum : Yaml.Datum}
    (failed : expressionOf registry form field datum = .error failure) : failure.OfSetUp := by
  unfold expressionOf at failed
  split at failed
  · cases failed
  · rcases bind_error_cases failed with unread | ⟨clauses, -, later⟩
    · exact ofSetUp_of_mapError unread
    · rcases bind_error_cases later with unknown | ⟨_, -, done⟩
      · exact ofSetUp_of_mapError unknown
      · cases done
  · rcases bind_error_cases failed with unnamed | ⟨name, -, later⟩
    · exact ofSetUp_of_keyText unnamed
    · exact ofSetUp_of_named later

theorem ofSetUp_of_fieldsOf {sofar : Table String}
    (failed : fieldsOf registry form sofar entries = .error failure) : failure.OfSetUp := by
  induction entries generalizing sofar with
  | nil =>
      cases failed
  | cons entry rest inductionHypothesis =>
      rcases bind_error_cases failed with unnamed | ⟨name, -, taken⟩
      · exact ofSetUp_of_keyText unnamed
      · rcases bind_error_cases taken with unusable | ⟨expression, -, later⟩
        · exact ofSetUp_of_expressionOf unusable
        · exact inductionHypothesis later

theorem ofSetUp_of_formsOf {sofar : Table (Table String)}
    (failed : formsOf registry sofar entries = .error failure) : failure.OfSetUp := by
  induction entries generalizing sofar with
  | nil =>
      cases failed
  | cons entry rest inductionHypothesis =>
      obtain ⟨key, datum⟩ := entry
      cases datum with
      | mapping fields =>
          rcases bind_error_cases failed with unusable | ⟨fields, -, taken⟩
          · exact ofSetUp_of_fieldsOf unusable
          · rcases bind_error_cases taken with unnamed | ⟨name, -, later⟩
            · exact ofSetUp_of_keyText unnamed
            · exact inductionHypothesis later
      | scalar | collection =>
          exact ofSetUp_of_named failed

theorem form_error_cases {name : String} (failed : file.form name registry = .error failure) :
    file.sections = .error failure ∨ failure.OfSetUp := by
  rcases bind_error_cases failed with unloaded | ⟨forms, -, undefined⟩
  · rcases bind_error_cases unloaded with unread | ⟨sections, -, later⟩
    · exact .inl unread
    · split at later
      · exact .inr (ofSetUp_of_formsOf later)
      · cases later
        exact .inr trivial
  · split at undefined
    · cases undefined
    · cases undefined
      exact .inr trivial

theorem ofSetUp_of_textEntries {name : String}
    (failed : textEntries name entries = .error failure) : failure.OfSetUp := by
  induction entries with
  | nil =>
      cases failed
  | cons entry rest inductionHypothesis =>
      unfold textEntries at failed
      split at failed
      · cases failed
      · next same =>
          cases same
          rcases bind_error_cases failed with later | ⟨texts, -, done⟩
          · exact inductionHypothesis later
          · cases done
      · exact ofSetUp_of_named failed

theorem ofSetUp_of_textsOf {sofar : Table String} {texts : List (Yaml.Scalar × String)}
    (failed : textsOf sofar texts = .error failure) : failure.OfSetUp := by
  induction texts generalizing sofar with
  | nil =>
      cases failed
  | cons entry rest inductionHypothesis =>
      rcases bind_error_cases failed with unnamed | ⟨key, -, later⟩
      · exact ofSetUp_of_keyText unnamed
      · exact inductionHypothesis later

theorem ofSetUp_of_sectionEntries {name : String} {section? : Option Yaml.Datum}
    (failed : sectionEntries name section? = .error failure) : failure.OfSetUp := by
  unfold sectionEntries at failed
  split at failed
  · cases failed
  · cases failed
  · cases failed
  · cases failed
    trivial
  · split at failed
    · cases failed
      trivial
    · cases failed

theorem textSection_error_cases {name : String}
    (failed : file.textSection name = .error failure) :
    file.sections = .error failure ∨ failure.OfSetUp := by
  rcases bind_error_cases failed with unread | ⟨sections, -, later⟩
  · exact .inl unread
  · rcases bind_error_cases later with strange | ⟨entries, -, taken⟩
    · exact .inr (ofSetUp_of_sectionEntries strange)
    · rcases bind_error_cases taken with untaken | ⟨texts, -, last⟩
      · exact .inr (ofSetUp_of_textEntries untaken)
      · exact .inr (ofSetUp_of_textsOf last)

theorem applyTo_of_sections (unread : file.sections = .error failure) :
    (file.applyTo registry).2 = .error failure := by
  simp only [applyTo, messages, textSection, unread, bind, Except.bind]

theorem applyTo_error_cases (failed : (file.applyTo registry).2 = .error failure) :
    file.sections = .error failure ∨ failure.OfSetUp := by
  rw [applyTo] at failed
  cases messages? : file.messages with
  | error reason =>
      simp only [messages?] at failed
      cases failed
      exact textSection_error_cases messages?
  | ok messages =>
      cases labels? : file.labels with
      | error reason =>
          simp only [messages?, labels?] at failed
          cases failed
          exact textSection_error_cases labels?
      | ok labels =>
          simp only [messages?, labels?] at failed
          cases failed

/-! ## Documents at a path -/

section Unread

variable [Host] {folder : Folder} {path : String}

/-- Why there is no document to be read at a path that leads somewhere. -/
inductive Unread (folder : Folder) (path : String) : Failure → Prop
  | folder (leads : folder.find path = .folder) :
      Unread folder path (.file (.directory (Path.normalised path)))
  | barred {fault : HostFault} (bars : folder.Bars path fault) :
      Unread folder path (.file (.barred fault))
  | document {content : List UInt8} {fault : HostFault}
      (leads : folder.find path = .file content) (read : Host.readYaml content = .error fault) :
      Unread folder path (.document fault)

theorem document_of_leads {found : Folder.Found} (leads : folder.find path = found)
    (present : found ≠ .missing) (open? : ∀ fault, found ≠ .hidden fault) :
    ofPath folder path = .ok (.ofContent path (Folder.contentOf (Path.normalised path) found)) := by
  rw [ofPath, leads]
  split
  · exact absurd rfl present
  · exact absurd rfl (open? _)
  · rfl

/-- Without a document the rules file is not there at all, or it has no sections. -/
theorem unopened_or_sectionless (unread : Unread folder path failure) :
    ofPath folder path = .error failure ∨
      ∃ file, ofPath folder path = .ok file ∧ file.sections = .error failure := by
  cases unread with
  | folder leads =>
      exact .inr ⟨_, document_of_leads leads nofun nofun, rfl⟩
  | barred bars =>
      rcases bars with hidden | locked
      · left
        rw [ofPath, hidden]
      · exact .inr ⟨_, document_of_leads locked nofun nofun, rfl⟩
  | document leads read =>
      refine .inr ⟨_, document_of_leads leads nofun nofun, ?_⟩
      simp only [sections, ofContent, Folder.contentOf, bind, Except.bind, read, mapError_error]

theorem ofPath_error_cases (unopened : ofPath folder path = .error failure) :
    Unread folder path failure ∨ failure.OfSetUp := by
  unfold ofPath at unopened
  split at unopened
  · cases unopened
    exact .inr trivial
  · next fault leads =>
      cases unopened
      exact .inl (.barred (.inl leads))
  · cases unopened

theorem sections_error_cases (opened : ofPath folder path = .ok file)
    (failed : file.sections = .error failure) :
    Unread folder path failure ∨ failure.OfSetUp := by
  have same : ∀ {reason}, Unread folder path reason → Unread folder path failure := by
    intro reason unread
    rcases unopened_or_sectionless unread with unopened | ⟨other, sameFile, stopped⟩
    · cases opened.symm.trans unopened
    · cases opened.symm.trans sameFile
      cases failed.symm.trans stopped
      exact unread
  cases leads : folder.find path with
  | missing =>
      simp [ofPath, leads] at opened
  | folder =>
      exact .inl (same (.folder leads))
  | hidden fault =>
      exact .inl (same (.barred (.inl leads)))
  | locked fault =>
      exact .inl (same (.barred (.inr leads)))
  | file content =>
      cases read : Host.readYaml content with
      | error fault =>
          exact .inl (same (.document leads read))
      | ok datum =>
          rw [document_of_leads leads nofun nofun, Except.ok.injEq] at opened
          subst opened
          simp only [sections, ofContent, Folder.contentOf, bind, Except.bind, read,
            mapError_ok] at failed
          split at failed
          · split at failed
            · cases failed
            · cases failed
              exact .inr trivial
          · cases failed
            exact .inr trivial

end Unread

end RulesFile

/-! ## Registries with templates -/

namespace Registry

/-- Only templates and writable labels were added to the registry. -/
structure Templated (registry : Registry) : Prop where
  no_rules : registry.rules = .empty
  templates : registry.messages.All fun message => ∃ text, message = .template text
  labels_writable : registry.labels.All fun label => label.isWritable = true

theorem templated_builtIn : builtIn.Templated :=
  ⟨rfl, Table.all_empty _, Table.all_empty _⟩

theorem Templated.applyTo {registry : Registry} (templated : registry.Templated)
    (file : RulesFile) : (file.applyTo registry).1.Templated := by
  have changed : ∀ messages, (RulesFile.setMessages registry messages).Templated := by
    intro messages
    refine ⟨templated.no_rules, templated.templates.insertAll ?_, templated.labels_writable⟩
    intro entry member
    obtain ⟨⟨rule, text⟩, -, rfl⟩ := List.mem_map.mp member
    exact ⟨text, rfl⟩
  rw [RulesFile.applyTo]
  cases file.messages with
  | error failure =>
      exact templated
  | ok messages =>
      cases file.labels with
      | error failure =>
          exact changed messages
      | ok labels =>
          refine ⟨(changed messages).no_rules, (changed messages).templates,
            (changed messages).labels_writable.insertAll ?_⟩
          intro entry member
          obtain ⟨⟨field, text⟩, -, rfl⟩ := List.mem_map.mp member
          rfl

end Registry

/-! ## Validations -/

/-- A rule is at fault, or a template does not suit the type of a value. -/
def Failure.OfJudging : Failure → Prop
  | .mistake _ => True
  | .template fault => fault.isMissingPart = false
  | _ => False

section Judging

variable [Host] {registry : Registry} {field : String} {value : Value} {surroundings : Table Value}
  {arguments : List String} {failure : Failure}

theorem Message.ofJudging_of_render_template {text rule : String}
    (failed : (Message.template text).render rule value arguments = .error failure) :
    failure.OfJudging := by
  obtain ⟨fault, -, rfl⟩ := render_template_error_cases failed
  split
  · trivial
  · next present =>
      exact Bool.eq_false_iff.mpr present

namespace Registry.Templated

/-- A message of a built-in rule fails to be rendered only when it is a template that was
set for the rule. -/
theorem ofJudging_of_renderMessage (templated : registry.Templated) {rule : BuiltIn}
    (few : arguments.length ≤ 1)
    (failed : registry.renderMessage rule.name value arguments = .error failure) :
    failure.OfJudging := by
  cases set : registry.messages.get? rule.name with
  | some message =>
      obtain ⟨text, rfl⟩ := templated.templates rule.name message set
      simp only [renderMessage, messageFor, set] at failed
      exact Message.ofJudging_of_render_template failed
  | none =>
      have message : registry.messageFor rule.name = .ofBuiltIn registry.label rule := by
        simp [messageFor, set, templated.no_rules]
      obtain ⟨rendered, fine⟩ :=
        Message.exists_render_ofBuiltIn (isWritable_label templated.labels_writable) rule few
          rule.name value
      rw [renderMessage, message, fine] at failed
      cases failed

theorem ofJudging_of_judgeClause (templated : registry.Templated) {clause : Clause}
    (failed : (Validation.judgeClause registry field value surroundings clause).outcome =
      .error failure) : failure.OfJudging := by
  rcases Validation.judgeClause_error_cases failed with
    ⟨mistake, -, rfl⟩ | ⟨known, found, judged⟩
  · trivial
  obtain ⟨rule, named, rfl⟩ : ∃ rule : BuiltIn,
      clause.name = rule.name ∧ known = .ofBuiltIn rule := by
    rcases lookup_eq_ok_cases found with added | builtIn
    · rw [templated.no_rules] at added
      cases added
    · exact builtIn
  by_cases taken : rule.Takes clause.arguments
  · rcases judged with unjudged | ⟨-, unrendered⟩
    · obtain ⟨passed, verdict⟩ := BuiltIn.exists_verdict_of_takes taken value surroundings
      rw [verdict] at unjudged
      cases unjudged
    · rw [named] at unrendered
      exact templated.ofJudging_of_renderMessage (BuiltIn.length_le_one_of_takes taken) unrendered
  · -- The rule refuses the arguments before a message is asked for.
    obtain ⟨mistake, blamed, -⟩ := BuiltIn.blames_of_not_takes taken value surroundings
    rw [blamed] at judged
    rcases judged with unjudged | ⟨verdict, -⟩
    · cases unjudged
      trivial
    · cases verdict

/-- A validation against texts fails with a mistake, or with a template that does not suit
the type of a value. -/
theorem ofJudging_of_validate (templated : registry.Templated) {fields : Table String}
    {record : Table Value}
    (failed : (Validation.validate registry record (fields.map Value.text)).outcome =
      .error failure) : failure.OfJudging := by
  obtain ⟨field, expression, -, reason⟩ := Validation.exists_clause_of_validate_error failed
  cases read : Expression.read expression with
  | error mistake =>
      simp only [read] at reason
      subst reason
      trivial
  | ok clauses =>
      simp only [read] at reason
      obtain ⟨clause, -, value, surroundings, stopped⟩ := reason
      exact templated.ofJudging_of_judgeClause stopped

end Registry.Templated

end Judging

end FormCheck
