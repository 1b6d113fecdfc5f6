import FormCheck.CommandLine.Answer
import FormCheck.Host.Plain
import FormCheck.Proofs.Failures
import FormCheck.Proofs.FieldByField
import Mathlib.Algebra.Group.Nat.Defs

/-!
# How a validation ends

The command that validates a record goes through stages, each of which may fail: it reads
the data file, reads the rules file, puts messages and labels into a registry, selects a
form and validates the record.  It answers for most failures with exit code 2, but not for
all.  A data file that is a folder, is barred, is not text or writes too long a number, a
rules file that is a folder, is barred or is no document, and a template at odds with the type
of a value end the command otherwise.

How deep a document may be nested is up to the host, and texts are made of characters.  So
nothing is said here of data files that are nested more deeply than the host has room for, or
that write one half of a pair of surrogates.
-/

namespace FormCheck

/-- A failure that choosing rules, or validating against them, can end with. -/
def Failure.Foreseen : Failure → Prop
  | .mistake _ | .file _ | .rulesFile _ | .document _ | .formUnknown _ _ | .integerTooLong => True
  | .template fault => fault.isMissingPart = false
  | _ => False

namespace CommandLine.Answer

/-- The command does not answer for folders in the place of files, nor for templates that ask
for a part, or for a layout, that values of this type do not have.  It answers for what the host
fails with only if it is of some kinds. -/
inductive Unanswered : Failure → Prop where
  | directory (path : String) : Unanswered (.file (.directory path))
  | barred {fault : HostFault} (strange : fault.kind ∉ answeredKinds) :
      Unanswered (.file (.barred fault))
  | document {fault : HostFault} (strange : fault.kind ∉ answeredKinds) :
      Unanswered (.document fault)
  | attributeMissing (holder : Value) (name : List Char) :
      Unanswered (.template (.attributeMissing holder name))
  | notIndexed (holder : Value) : Unanswered (.template (.notIndexed holder))
  | indexedByText (holder : Value) : Unanswered (.template (.indexedByText holder))
  | characterOutOfRange : Unanswered (.template (.layout .characterOutOfRange))
  | integerTooLarge : Unanswered (.template (.layout .integerTooLarge))
  | tooWide : Unanswered (.template (.layout .tooWide))
  | unsupported (typeName : String) : Unanswered (.template (.layout (.unsupported typeName)))
  | foreign {fault : HostFault} (strange : fault.kind ∉ answeredKinds) :
      Unanswered (.template (.foreign fault))

theorem not_concernsConfiguration_of_unanswered {failure : Failure}
    (unanswered : Unanswered failure) : concernsConfiguration failure = false := by
  have unlisted {fault : HostFault} (strange : fault.kind ∉ answeredKinds) :
      answeredKinds.contains fault.kind = false :=
    Bool.eq_false_iff.mpr fun listed => strange (List.contains_iff_mem.mp listed)
  cases unanswered with
  | barred strange | document strange | foreign strange =>
      exact unlisted strange
  | _ =>
      rfl

theorem concernsConfiguration_of_answered {failure : Failure} (foreseen : failure.Foreseen)
    (answered : ¬ Unanswered failure) : concernsConfiguration failure = true := by
  have listed {fault : HostFault} (ordinary : ¬ fault.kind ∉ answeredKinds) :
      answeredKinds.contains fault.kind = true :=
    List.contains_iff_mem.mpr (not_not.mp ordinary)
  cases failure with
  | mistake | formUnknown | integerTooLong =>
      rfl
  | rulesFile fault =>
      cases fault <;> rfl
  | file fault =>
      cases fault with
      | directory path =>
          exact absurd (.directory path) answered
      | barred fault =>
          exact listed fun strange => answered (.barred strange)
      | notText fault =>
          rfl
  | document fault =>
      exact listed fun strange => answered (.document strange)
  | template fault =>
      cases fault with
      | positionMissing | nameMissing | keyMissing | indexMissing =>
          cases foreseen
      | attributeMissing holder name =>
          exact absurd (.attributeMissing holder name) answered
      | notIndexed holder =>
          exact absurd (.notIndexed holder) answered
      | indexedByText holder =>
          exact absurd (.indexedByText holder) answered
      | foreign fault =>
          exact listed fun strange => answered (.foreign strange)
      | layout fault =>
          cases fault with
          | characterOutOfRange =>
              exact absurd .characterOutOfRange answered
          | integerTooLarge =>
              exact absurd .integerTooLarge answered
          | tooWide =>
              exact absurd .tooWide answered
          | unsupported typeName =>
              exact absurd (.unsupported typeName) answered
          | _ =>
              rfl
      | _ =>
          rfl
  | _ =>
      exact foreseen.elim

theorem reporting_outcome (body : Traced Event Answer) :
    (reporting body).outcome =
      match body.outcome with
      | .ok answer => .ok answer
      | .error failure =>
          if concernsConfiguration failure then .ok ⟨refusedCode, ""⟩ else .error failure := by
  cases ended : body.outcome with
  | ok answer =>
      simp only [reporting, ended]
  | error failure =>
      cases concerns : concernsConfiguration failure with
      | true =>
          simp only [reporting, ended, concerns, ↓reduceIte]
          rfl
      | false =>
          simp only [reporting, ended, concerns, Bool.false_eq_true, ↓reduceIte]

theorem exists_texts_of_builtIn? {form : String} {definition : FormDefinition}
    (found : FormDefinition.builtIn? form = some definition) :
    ∃ fields : Table String, definition.rules = fields.map Value.text := by
  have member : definition ∈ FormDefinition.builtIn := List.mem_of_find?_eq_some found
  simp only [FormDefinition.builtIn, List.mem_cons, List.not_mem_nil, or_false] at member
  rcases member with rfl | rfl | rfl
  · exact ⟨_, rfl⟩
  · exact ⟨_, rfl⟩
  · exact ⟨_, rfl⟩

section

variable [Host]

/-- The registry and the rule expressions that a record is validated with. -/
def selection (folder : Folder) (form : String) (rules? : Option String) :
    Except Failure (Registry × Table Value) := do
  let file? ← rulesFile? folder rules?
  let known ← registry file?
  let rules ← formRules form known file?
  return (known, rules)

/-- What choosing rules and validating a record against them comes to. -/
def evaluation (folder : Folder) (form : String) (rules? : Option String)
    (record : Table Value) : Except Failure Report := do
  let (known, rules) ← selection folder form rules?
  (Validation.validate known record rules).outcome

theorem validate_outcome (folder : Folder) (form : String) (rules? : Option String)
    (record : Table Value) :
    (validate folder form rules? record).outcome =
      match evaluation folder form rules? record with
      | .ok report => .ok (ofReport report)
      | .error failure =>
          if concernsConfiguration failure then .ok ⟨refusedCode, ""⟩ else .error failure := by
  have lifted : ∀ {α β : Type} (first : Except Failure α) (next : α → Traced Event β),
      ((liftM first : Traced Event α).andThen next).outcome =
        first >>= fun result => (next result).outcome :=
    Traced.outcome_liftM_andThen
  have chained : ∀ {α β : Type} (first : Traced Event α) (next : α → Traced Event β),
      (first.andThen next).outcome = first.outcome >>= fun result => (next result).outcome :=
    Traced.outcome_andThen
  suffices ended : (do
      let file? ← rulesFile? folder rules?
      let known ← registry file?
      let rules ← formRules form known file?
      let report ← Validation.validate known record rules
      return ofReport report : Traced Event Answer).outcome =
        evaluation folder form rules? record >>= fun report => pure (ofReport report) by
    rw [validate, reporting_outcome, ended]
    cases evaluation folder form rules? record <;> rfl
  simp only [Traced.bind_eq, Traced.pure_eq, lifted, chained, evaluation, selection, bind_assoc,
    pure_bind]
  rfl

theorem validateData_outcome (folder : Folder) (form data : String) (rules? : Option String) :
    (validateData folder form data rules?).outcome =
      match record folder data with
      | .error failure => .error failure
      | .ok (.error _) => .ok ⟨refusedCode, ""⟩
      | .ok (.ok found) => (validate folder form rules? found).outcome := by
  rw [validateData, Traced.bind_eq, Traced.outcome_liftM_andThen]
  cases record folder data with
  | error failure =>
      rfl
  | ok result =>
      cases result <;> rfl

/-! ## The data file -/

variable {folder : Folder} {form data path : String} {rules? : Option String}
  {failure : Failure}

/-- The host has room for what the data file writes: it is not nested too deep, and no pair of
surrogates is incomplete. -/
def Fits (folder : Folder) (path : String) : Prop :=
  ∀ text, folder.Holds path text →
    JsonDocument.read Host.nesting text ≠ .error .nestedTooDeep ∧
      JsonDocument.read Host.nesting text ≠ .error .surrogateUnpaired

/-- What reading a data file that fits comes to. -/
inductive Reading (folder : Folder) (path : String) :
    Except Failure (Except DataFault (Table Value)) → Prop
  | missing (leads : folder.find path = .missing) : Reading folder path (.ok (.error .missing))
  | folder (leads : folder.find path = .folder) :
      Reading folder path (.error (.file (.directory (Path.normalised path))))
  | barred {fault : HostFault} (bars : folder.Bars path fault) :
      Reading folder path (.error (.file (.barred fault)))
  | notText {fault : Utf8.Fault} (holds : folder.HoldsNoText path fault) :
      Reading folder path (.error (.file (.notText fault)))
  | malformed {text : List Char} {reason : JsonDocument.Reason} {place : Nat}
      (holds : folder.Holds path text)
      (read : JsonDocument.read Host.nesting text = .error (.malformed reason place)) :
      Reading folder path
        (.ok (.error (.malformed (JsonDocument.malformedText text reason place))))
  | numberTooLong {text : List Char} {digits : Nat} (holds : folder.Holds path text)
      (read : JsonDocument.read Host.nesting text = .error (.numberTooLong digits)) :
      Reading folder path (.error (.notWhole "" (.tooLong digits)))
  | notRecord {text : List Char} {value : Value} (holds : folder.Holds path text)
      (read : JsonDocument.read Host.nesting text = .ok value)
      (other : ∀ entries, value ≠ .record entries) : Reading folder path (.ok (.error .notRecord))
  | record {text : List Char} {entries : List (Value × Value)} (holds : folder.Holds path text)
      (read : JsonDocument.read Host.nesting text = .ok (.record entries)) :
      Reading folder path (.ok (.ok (textEntries entries)))

theorem record_of_holds {text : List Char} (holds : folder.Holds path text) :
    record folder path = recordOf text := by
  obtain ⟨content, characters, leads, decoded, rfl⟩ := holds
  simp only [record, leads, Folder.contentOf, Folder.textOf, bind, Except.bind, decoded, Except.map,
    mapError_ok]

theorem record_eq_of_reading {result : Except Failure (Except DataFault (Table Value))}
    (reading : Reading folder path result) : record folder path = result := by
  cases reading with
  | missing leads =>
      simp only [record, leads]
      rfl
  | folder leads =>
      simp only [record, leads]
      rfl
  | barred bars =>
      rcases bars with leads | leads
      · simp only [record, leads]
        rfl
      · simp only [record, leads]
        rfl
  | notText holds =>
      obtain ⟨content, leads, decoded⟩ := holds
      simp only [record, leads, Folder.contentOf, Folder.textOf, bind, Except.bind, decoded,
        Except.map, mapError_error]
  | malformed holds read =>
      simp only [record_of_holds holds, recordOf, read]
  | numberTooLong holds read =>
      simp only [record_of_holds holds, recordOf, read]
  | notRecord holds read other =>
      simp only [record_of_holds holds, recordOf, read]
  | record holds read =>
      simp only [record_of_holds holds, recordOf, read]

theorem exists_reading (fits : Fits folder path) : ∃ result, Reading folder path result := by
  rcases folder.find_cases path with leads | leads | ⟨fault, bars⟩ | ⟨fault, holds⟩ | ⟨text, holds⟩
  · exact ⟨_, .missing leads⟩
  · exact ⟨_, .folder leads⟩
  · exact ⟨_, .barred bars⟩
  · exact ⟨_, .notText holds⟩
  cases read : JsonDocument.read Host.nesting text with
  | error fault =>
      cases fault with
      | malformed reason place =>
          exact ⟨_, .malformed holds read⟩
      | numberTooLong digits =>
          exact ⟨_, .numberTooLong holds read⟩
      | nestedTooDeep =>
          exact absurd read (fits text holds).1
      | surrogateUnpaired =>
          exact absurd read (fits text holds).2
  | ok value =>
      by_cases isRecord : ∃ entries, value = .record entries
      · obtain ⟨entries, rfl⟩ := isRecord
        exact ⟨_, .record holds read⟩
      · exact ⟨_, .notRecord holds read (not_exists.mp isRecord)⟩

/-! ## Choosing rules -/

theorem rulesFile?_of_named (folder : Folder) (named : path ≠ "") :
    rulesFile? folder (some path) = (RulesFile.ofPath folder path).map some := by
  unfold rulesFile?
  split
  · next none => cases none
  · next empty => exact absurd (Option.some.inj empty) named
  · next same =>
      cases same
      rfl

theorem exists_path_of_rulesFile? {file : RulesFile}
    (opened : rulesFile? folder rules? = .ok (some file)) :
    ∃ path, rules? = some path ∧ path ≠ "" ∧ RulesFile.ofPath folder path = .ok file := by
  match rules? with
  | none =>
      cases opened
  | some path =>
      by_cases named : path = ""
      · subst named
        cases opened
      · rw [rulesFile?_of_named folder named] at opened
        refine ⟨path, rfl, named, ?_⟩
        cases found : RulesFile.ofPath folder path with
        | error failure =>
            simp [found, Except.map] at opened
        | ok other =>
            simpa [found, Except.map] using opened

theorem selection_of_unread (form : String) (named : path ≠ "")
    (unread : RulesFile.Unread folder path failure) :
    selection folder form (some path) = .error failure := by
  rcases RulesFile.unopened_or_sectionless unread with unopened | ⟨file, opened, stopped⟩
  · simp only [selection, rulesFile?_of_named folder named, unopened, Except.map, bind, Except.bind]
  · have unset : (file.applyTo .builtIn).2 = .error failure :=
      RulesFile.applyTo_of_sections stopped
    simp only [selection, rulesFile?_of_named folder named, opened, Except.map, bind, Except.bind,
      registry, unset]

/-- A rules file is named, and there is no document at its path. -/
def RulesUnread (folder : Folder) (rules? : Option String) (failure : Failure) : Prop :=
  ∃ path, rules? = some path ∧ path ≠ "" ∧ RulesFile.Unread folder path failure

theorem rulesFile?_error_cases (failed : rulesFile? folder rules? = .error failure) :
    RulesUnread folder rules? failure ∨ failure.OfSetUp := by
  match rules? with
  | none =>
      cases failed
  | some path =>
      by_cases named : path = ""
      · subst named
        cases failed
      · rw [rulesFile?_of_named folder named] at failed
        rcases RulesFile.ofPath_error_cases (map_eq_error_iff.mp failed) with unread | ofSetUp
        · exact .inl ⟨path, rfl, named, unread⟩
        · exact .inr ofSetUp

theorem selection_error_cases (failed : selection folder form rules? = .error failure) :
    RulesUnread folder rules? failure ∨ failure.OfSetUp := by
  rcases bind_error_cases failed with unopened | ⟨file?, opened, later⟩
  · exact rulesFile?_error_cases unopened
  -- Whatever is made of a rules file fails with its sections or for what they say.
  have judged : ∀ file, file? = some file → file.sections = .error failure ∨ failure.OfSetUp →
      RulesUnread folder rules? failure ∨ failure.OfSetUp := by
    rintro file rfl (stopped | ofSetUp)
    · obtain ⟨path, given, named, found⟩ := exists_path_of_rulesFile? opened
      rcases RulesFile.sections_error_cases found stopped with unread | ofSetUp
      · exact .inl ⟨path, given, named, unread⟩
      · exact .inr ofSetUp
    · exact .inr ofSetUp
  rcases bind_error_cases later with unset | ⟨known, -, last⟩
  · cases file? with
    | none =>
        cases unset
    | some file =>
        exact judged file rfl
          (RulesFile.applyTo_error_cases (map_eq_error_iff.mp unset))
  rcases bind_error_cases last with unformed | ⟨rules, -, done⟩
  · cases file? with
    | none =>
        simp only [formRules] at unformed
        split at unformed
        · cases unformed
        · cases unformed
          exact .inr trivial
    | some file =>
        exact judged file rfl
          (RulesFile.form_error_cases (map_eq_error_iff.mp unformed))
  · cases done

/-- Rules are chosen with nothing but templates and labels added to the registry, and they
are texts. -/
theorem templated_of_selection {known : Registry} {rules : Table Value}
    (selected : selection folder form rules? = .ok (known, rules)) :
    known.Templated ∧ ∃ fields : Table String, rules = fields.map Value.text := by
  obtain ⟨file?, -, chosen⟩ := exists_of_bind_eq_ok selected
  obtain ⟨changed, set, formed⟩ := exists_of_bind_eq_ok chosen
  obtain ⟨expressions, found, done⟩ := exists_of_bind_eq_ok formed
  cases done
  cases file? with
  | none =>
      cases set
      refine ⟨Registry.templated_builtIn, ?_⟩
      simp only [formRules] at found
      split at found
      · next builtIn =>
          cases found
          exact exists_texts_of_builtIn? builtIn
      · cases found
  | some file =>
      obtain ⟨_, -, rfl⟩ := map_eq_ok_iff.mp set
      obtain ⟨fields, -, rfl⟩ := map_eq_ok_iff.mp found
      exact ⟨Registry.templated_builtIn.applyTo file, fields, rfl⟩

/-! ## How the command ends -/

/-- The command is refused: the data file gives no record, or rules cannot be chosen, or
the record cannot be validated, for a reason that the command answers for. -/
inductive Refused (folder : Folder) (form data : String) (rules? : Option String) : Prop
  | data {fault : DataFault} (unread : Reading folder data (.ok (.error fault)))
  | rules {record : Table Value} {failure : Failure}
      (read : Reading folder data (.ok (.ok record)))
      (unselected : selection folder form rules? = .error failure)
      (answered : ¬ Unanswered failure)
  | validation {record rules : Table Value} {known : Registry} {failure : Failure}
      (read : Reading folder data (.ok (.ok record)))
      (selected : selection folder form rules? = .ok (known, rules))
      (failed : (Validation.validate known record rules).outcome = .error failure)
      (answered : ¬ Unanswered failure)

/-- The record in the data file is validated against the form, with a report. -/
def Finds (folder : Folder) (form data : String) (rules? : Option String) (report : Report) :
    Prop :=
  ∃ record known rules, Reading folder data (.ok (.ok record)) ∧
    selection folder form rules? = .ok (known, rules) ∧
    (Validation.validate known record rules).outcome = .ok report

/-- A failure ends the command: of the data file, of the rules file or of a template. -/
inductive Escapes (folder : Folder) (form data : String) (rules? : Option String) :
    Failure → Prop
  | data {failure : Failure} (unread : Reading folder data (.error failure)) :
      Escapes folder form data rules? failure
  | rules {record : Table Value} {failure : Failure}
      (read : Reading folder data (.ok (.ok record)))
      (unread : RulesUnread folder rules? failure) (unanswered : Unanswered failure) :
      Escapes folder form data rules? failure
  | template {record rules : Table Value} {known : Registry} {fault : TemplateFault}
      (read : Reading folder data (.ok (.ok record)))
      (selected : selection folder form rules? = .ok (known, rules))
      (failed : (Validation.validate known record rules).outcome = .error (.template fault))
      (unanswered : Unanswered (.template fault)) :
      Escapes folder form data rules? (.template fault)

theorem evaluation_of_selected {known : Registry} {rules : Table Value}
    (selected : selection folder form rules? = .ok (known, rules)) (record : Table Value) :
    evaluation folder form rules? record = (Validation.validate known record rules).outcome := by
  simp only [evaluation, selected, bind, Except.bind]

theorem evaluation_of_unselected (unselected : selection folder form rules? = .error failure)
    (record : Table Value) : evaluation folder form rules? record = .error failure := by
  simp only [evaluation, unselected, bind, Except.bind]

theorem ofJudging_of_selected {known : Registry} {rules record : Table Value}
    (selected : selection folder form rules? = .ok (known, rules))
    (failed : (Validation.validate known record rules).outcome = .error failure) :
    failure.OfJudging := by
  obtain ⟨templated, fields, rfl⟩ := templated_of_selection selected
  exact templated.ofJudging_of_validate failed

theorem foreseen_of_evaluation {record : Table Value}
    (failed : evaluation folder form rules? record = .error failure) : failure.Foreseen := by
  rcases bind_error_cases failed with unselected | ⟨⟨known, rules⟩, selected, stopped⟩
  · rcases selection_error_cases unselected with ⟨path, -, -, unread⟩ | ofSetUp
    · cases unread <;> trivial
    · cases failure <;> trivial
  · have judging := ofJudging_of_selected selected stopped
    cases failure <;> trivial

theorem validateData_of_answered {record : Table Value}
    (read : Reading folder data (.ok (.ok record)))
    (failed : evaluation folder form rules? record = .error failure)
    (answered : ¬ Unanswered failure) :
    (validateData folder form data rules?).outcome = .ok ⟨refusedCode, ""⟩ := by
  rw [validateData_outcome, record_eq_of_reading read]
  simp only [validate_outcome, failed,
    concernsConfiguration_of_answered (foreseen_of_evaluation failed) answered, ↓reduceIte]

theorem validateData_of_unanswered {record : Table Value}
    (read : Reading folder data (.ok (.ok record)))
    (failed : evaluation folder form rules? record = .error failure)
    (unanswered : Unanswered failure) :
    (validateData folder form data rules?).outcome = .error failure := by
  rw [validateData_outcome, record_eq_of_reading read]
  simp only [validate_outcome, failed, not_concernsConfiguration_of_unanswered unanswered,
    Bool.false_eq_true, ↓reduceIte]

theorem validateData_of_refused (refused : Refused folder form data rules?) :
    (validateData folder form data rules?).outcome = .ok ⟨refusedCode, ""⟩ := by
  cases refused with
  | data unread =>
      rw [validateData_outcome, record_eq_of_reading unread]
  | rules read unselected answered =>
      exact validateData_of_answered read (evaluation_of_unselected unselected _) answered
  | validation read selected failed answered =>
      exact validateData_of_answered read ((evaluation_of_selected selected _).trans failed)
        answered

theorem validateData_of_finds {report : Report} (finds : Finds folder form data rules? report) :
    (validateData folder form data rules?).outcome = .ok (ofReport report) := by
  obtain ⟨record, known, rules, read, selected, found⟩ := finds
  rw [validateData_outcome, record_eq_of_reading read]
  simp only [validate_outcome, evaluation_of_selected selected, found]

theorem validateData_of_escapes (escapes : Escapes folder form data rules? failure) :
    (validateData folder form data rules?).outcome = .error failure := by
  cases escapes with
  | data unread =>
      rw [validateData_outcome, record_eq_of_reading unread]
  | rules read unread unanswered =>
      obtain ⟨path, rfl, named, unread⟩ := unread
      exact validateData_of_unanswered read
        (evaluation_of_unselected (selection_of_unread form named unread) _) unanswered
  | template read selected failed unanswered =>
      exact validateData_of_unanswered read ((evaluation_of_selected selected _).trans failed)
        unanswered

theorem validateData_cases (form : String) (rules? : Option String) (fits : Fits folder data) :
    Refused folder form data rules? ∨ (∃ report, Finds folder form data rules? report) ∨
      ∃ failure, Escapes folder form data rules? failure := by
  obtain ⟨result, read⟩ := exists_reading fits
  match result with
  | .error failure =>
      exact .inr (.inr ⟨failure, .data read⟩)
  | .ok (.error fault) =>
      exact .inl (.data read)
  | .ok (.ok record) =>
      cases selected : selection folder form rules? with
      | error failure =>
          by_cases unanswered : Unanswered failure
          · -- What is wrong with the set-up is answered for, so the rules file was not read.
            rcases selection_error_cases selected with unread | ofSetUp
            · exact .inr (.inr ⟨failure, .rules read unread unanswered⟩)
            · cases unanswered <;> cases ofSetUp
          · exact .inl (.rules read selected unanswered)
      | ok choice =>
          obtain ⟨known, rules⟩ := choice
          cases validated : (Validation.validate known record rules).outcome with
          | ok report =>
              exact .inr (.inl ⟨report, record, known, rules, read, selected, validated⟩)
          | error failure =>
              by_cases unanswered : Unanswered failure
              · have judging := ofJudging_of_selected selected validated
                cases failure with
                | template fault =>
                    exact .inr (.inr ⟨_, .template read selected validated unanswered⟩)
                | _ =>
                    cases judging <;> cases unanswered
              · exact .inl (.validation read selected validated unanswered)

end

open scoped Host

end CommandLine.Answer

end FormCheck
