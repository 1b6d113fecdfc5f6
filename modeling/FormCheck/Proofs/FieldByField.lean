import FormCheck.Host.Plain
import FormCheck.Proofs.RecordOrder
import Mathlib.Data.List.Nodup

/-!
# A record, field by field

Validating a record comes to the same as validating each of its fields alone, in the
order of the expressions.  For each field the other fields must be there as they are in
the record; what the field itself holds in them does not matter.  The first field that
cannot be validated decides how the whole validation fails, and otherwise the errors and
the warnings of the fields are put one after another.

The records beside a field may list their fields in another order unless a rule that was
added reads them in order.
-/

namespace FormCheck.Validation

section

variable {registry : Registry} {record rules : Table Value}

private theorem exists_split_of_imp {α : Type} {items : List α} {good bad good' bad' : α → Prop}
    (goodImplies : ∀ item ∈ items, good item → good' item)
    (badImplies : ∀ item ∈ items, bad item → bad' item)
    (found : ∃ before item after, items = before ++ item :: after ∧
      (∀ earlier ∈ before, good earlier) ∧ bad item) :
    ∃ before item after, items = before ++ item :: after ∧
      (∀ earlier ∈ before, good' earlier) ∧ bad' item := by
  obtain ⟨before, item, after, rfl, allGood, isBad⟩ := found
  refine ⟨before, item, after, rfl, ?_, badImplies item (by simp) isBad⟩
  intro earlier member
  exact goodImplies earlier (by simp [member]) (allGood earlier member)

/-! ## What is found, put together -/

theorem warnings_addAll (report : Report) (found : List (String × Finding)) :
    (addAll report found).warnings =
      report.warnings ++ found.flatMap fun entry => entry.2.warnings := by
  induction found generalizing report with
  | nil =>
      simp [addAll]
  | cons entry rest inductionHypothesis =>
      have step : addAll report (entry :: rest) = addAll (add report entry.1 entry.2) rest := rfl
      rw [step, inductionHypothesis]
      simp [add]

/-- Distinct fields that had no error before get their errors in order. -/
theorem errors_addAll {report : Report} {found : List (String × Finding)}
    (distinct : (found.map (·.1)).Nodup)
    (fresh : ∀ entry ∈ found, entry.1 ∉ report.errors.keys) :
    (addAll report found).errors.entries =
      report.errors.entries ++
        found.filterMap fun entry => entry.2.error?.map fun error => (entry.1, error) := by
  induction found generalizing report with
  | nil =>
      simp [addAll]
  | cons entry rest inductionHypothesis =>
      obtain ⟨field, finding⟩ := entry
      obtain ⟨notLater, distinctRest⟩ := List.nodup_cons.mp distinct
      have step : addAll report ((field, finding) :: rest) =
          addAll (add report field finding) rest := rfl
      have freshRest : ∀ entry ∈ rest, entry.1 ∉ (add report field finding).errors.keys := by
        intro other member
        have notSame : other.1 ≠ field := by
          intro same
          exact notLater (List.mem_map.mpr ⟨other, member, same⟩)
        have before := fresh other (List.mem_cons_of_mem _ member)
        cases error : finding.error? with
        | none =>
            simpa [add, error] using before
        | some found =>
            have absent : field ∉ report.errors.keys := fresh _ List.mem_cons_self
            simp [add, error, Table.keys_insert, absent, before, notSame]
      rw [step, inductionHypothesis distinctRest freshRest]
      cases error : finding.error? with
      | none =>
          simp [add, error]
      | some found =>
          have absent : field ∉ report.errors.keys := fresh _ List.mem_cons_self
          simp [add, error, Table.entries_insert_of_not_mem absent]

/-! ## Fields that the record has -/

theorem heldFields_sublist (record : Table Value) (expressions : List (String × Value)) :
    ((heldFields record expressions).map HeldField.field).Sublist (expressions.map (·.1)) := by
  induction expressions with
  | nil =>
      exact List.Sublist.slnil
  | cons entry rest inductionHypothesis =>
      cases held : record.get? entry.1 with
      | none =>
          simpa [heldFields, held] using inductionHypothesis.cons entry.1
      | some value =>
          simpa [heldFields, held] using inductionHypothesis.cons_cons entry.1

theorem heldFields_nodup (record rules : Table Value) :
    ((heldFields record rules.entries).map HeldField.field).Nodup :=
  (heldFields_sublist record rules.entries).nodup rules.keys_distinct

theorem get?_of_mem_heldFields {expressions : List (String × Value)} {held : HeldField}
    (member : held ∈ heldFields record expressions) :
    record.get? held.field = some held.value := by
  obtain ⟨entry, -, value, present, rfl⟩ := mem_heldFields.mp member
  exact present

/-- Expressions of fields that the record does not have are not looked at. -/
theorem heldFields_filter (record : Table Value) (expressions : List (String × Value)) :
    heldFields record (expressions.filter fun entry => record.contains entry.1) =
      heldFields record expressions := by
  induction expressions with
  | nil =>
      rfl
  | cons entry rest inductionHypothesis =>
      cases held : record.get? entry.1 with
      | none =>
          simpa [heldFields, Table.contains, held] using inductionHypothesis
      | some value =>
          simpa [heldFields, Table.contains, held] using inductionHypothesis

/-! ## Reports put together -/

/-- The errors of fields that were validated alone, in order. -/
def errorsOf (fields : List HeldField) (alone : HeldField → Report) :
    List (String × FieldError) :=
  fields.filterMap fun held =>
    ((alone held).errorFor? held.field).map fun error => (held.field, error)

/-- A report whose errors are those of distinct fields has the error of each. -/
theorem errorFor?_of_errors {report : Report} {fields : List HeldField}
    {alone : HeldField → Report} (distinct : (fields.map HeldField.field).Nodup)
    (errors : report.errors.entries = errorsOf fields alone) {held : HeldField}
    (member : held ∈ fields) :
    report.errorFor? held.field = (alone held).errorFor? held.field := by
  cases found : (alone held).errorFor? held.field with
  | some error =>
      rw [Report.errorFor?, Table.get?_eq_some_iff, errors]
      exact List.mem_filterMap.mpr ⟨held, member, by simp [found]⟩
  | none =>
      rw [Report.errorFor?, Table.get?_eq_none_iff, Table.keys, errors]
      intro present
      obtain ⟨⟨_, error⟩, isError, named⟩ := List.mem_map.mp present
      obtain ⟨other, isOther, ofOther⟩ := List.mem_filterMap.mp isError
      obtain ⟨_, otherFound, same⟩ := Option.map_eq_some_iff.mp ofOther
      have sameField : other.field = held.field := (Prod.mk.inj same).1.trans named
      have sameHeld : other = held := List.inj_on_of_nodup_map distinct isOther member sameField
      rw [sameHeld, found] at otherFound
      cases otherFound

/-- The report on a record puts together what is found for its fields. -/
theorem report_eq_of_findings {fields : List HeldField}
    (distinct : (fields.map HeldField.field).Nodup) (finding : HeldField → Finding) :
    let report := addAll ⟨.empty, []⟩ (fields.map fun held => (held.field, finding held))
    report.errors.entries =
        errorsOf fields (fun held => reportOf held.field (finding held)) ∧
      report.warnings = fields.flatMap fun held => (finding held).warnings := by
  intro report
  have distinctFound :
      ((fields.map fun held => (held.field, finding held)).map (·.1)).Nodup := by
    simpa [Function.comp_def] using distinct
  constructor
  · rw [errors_addAll distinctFound (fun entry _ => List.not_mem_nil)]
    simp [errorsOf, Table.empty, List.filterMap_map]
  · rw [warnings_addAll]
    simp [List.flatMap_map]

/-! ## One field at a time -/

variable [Host]

/-- Records beside a field show its rules the same fields: the rules do not look at the
order of a record, or each record lists its fields in the same order. -/
def ShowsSameOrder (registry : Registry) (record : Table Value) (fields : List HeldField)
    (beside : String → Table Value) : Prop :=
  registry.IgnoresOrder ∨
    ∀ held ∈ fields, ((beside held.field).insert held.field held.value).keys = record.keys

/-- A field alone is judged as in the whole record when the other fields agree. -/
theorem validateField_outcome_beside {expressions : List (String × Value)}
    {beside : String → Table Value}
    (agree : ∀ held ∈ heldFields record expressions, ∀ other, other ≠ held.field →
      (beside held.field).get? other = record.get? other)
    (order : ShowsSameOrder registry record (heldFields record expressions) beside)
    {held : HeldField} (member : held ∈ heldFields record expressions) :
    (validateField registry held.field held.value held.expression
        (beside held.field)).outcome =
      (judgement registry record held).map (reportOf held.field) := by
  have same : ∀ other,
      ((beside held.field).insert held.field held.value).get? other = record.get? other := by
    intro other
    rw [Table.get?_insert]
    by_cases own : held.field = other
    · rw [if_pos own, ← own, get?_of_mem_heldFields member]
    · rw [if_neg own, agree held member other (Ne.symm own)]
  rw [validateField_outcome, judgement]
  rcases order with ignores | sameKeys
  · rw [judgeField_eq_of_sameFields ignores same]
  · rw [Table.eq_of_get?_eq (sameKeys held member) same]

/-- The outcome for one field alone, with a record of the other fields beside it. -/
def aloneOutcome (registry : Registry) (beside : String → Table Value) (held : HeldField) :
    Except Failure Report :=
  (validateField registry held.field held.value held.expression (beside held.field)).outcome

/-- A record fails as the first of its fields does that cannot be judged. -/
theorem validate_eq_error_iff {failure : Failure} :
    (validate registry record rules).outcome = .error failure ↔
      ∃ before held after, heldFields record rules.entries = before ++ held :: after ∧
        (∀ earlier ∈ before, ∃ finding, judgement registry record earlier = .ok finding) ∧
        judgement registry record held = .error failure := by
  rw [validate_outcome, map_eq_error_iff, findings_eq_error_iff]

/-- A record whose fields can all be judged has their errors and warnings in order. -/
theorem validate_eq_ok_iff {report : Report} :
    (validate registry record rules).outcome = .ok report ↔
      ∃ finding : HeldField → Finding,
        (∀ held ∈ heldFields record rules.entries,
          judgement registry record held = .ok (finding held)) ∧
        report.errors.entries = errorsOf (heldFields record rules.entries)
          (fun held => reportOf held.field (finding held)) ∧
        report.warnings =
          (heldFields record rules.entries).flatMap fun held => (finding held).warnings := by
  have distinct := heldFields_nodup record rules
  rw [validate_outcome, map_eq_ok_iff]
  constructor
  · rintro ⟨found, judged, rfl⟩
    obtain ⟨finding, each, rfl⟩ := exists_finding_of_findings_eq_ok judged
    exact ⟨finding, each, report_eq_of_findings distinct finding⟩
  · rintro ⟨finding, each, errors, warnings⟩
    obtain ⟨sameErrors, sameWarnings⟩ := report_eq_of_findings distinct finding
    refine ⟨_, findings_eq_ok each, ?_⟩
    rw [Report.mk.injEq]
    exact ⟨Table.eq_of_entries_eq (sameErrors.trans errors.symm), sameWarnings.trans warnings.symm⟩

section Alike

variable {beside : String → Table Value}
  (alike : ∀ held ∈ heldFields record rules.entries,
    aloneOutcome registry beside held = (judgement registry record held).map (reportOf held.field))

include alike

private theorem alone_eq_error_iff {held : HeldField}
    (member : held ∈ heldFields record rules.entries) {failure : Failure} :
    aloneOutcome registry beside held = .error failure ↔
      judgement registry record held = .error failure := by
  rw [alike held member, map_eq_error_iff]

private theorem alone_succeeds_iff {held : HeldField}
    (member : held ∈ heldFields record rules.entries) :
    (∃ report, aloneOutcome registry beside held = .ok report) ↔
      ∃ finding, judgement registry record held = .ok finding := by
  cases judged : judgement registry record held <;>
    simp [alike held member, judged, Except.map]

/-- A record fails as the first of its fields does that fails alone. -/
private theorem validate_fails_first {failure : Failure} :
    (validate registry record rules).outcome = .error failure ↔
      ∃ before held after, heldFields record rules.entries = before ++ held :: after ∧
        (∀ earlier ∈ before, ∃ report, aloneOutcome registry beside earlier = .ok report) ∧
        aloneOutcome registry beside held = .error failure := by
  rw [validate_eq_error_iff]
  constructor
  · exact exists_split_of_imp
      (fun held member => (alone_succeeds_iff alike member).mpr)
      (fun held member => (alone_eq_error_iff alike member).mpr)
  · exact exists_split_of_imp
      (fun held member => (alone_succeeds_iff alike member).mp)
      (fun held member => (alone_eq_error_iff alike member).mp)

/-- A record reports what its fields report alone. -/
private theorem validate_reports {report : Report} :
    (validate registry record rules).outcome = .ok report ↔
      ∃ single : HeldField → Report,
        (∀ held ∈ heldFields record rules.entries,
          aloneOutcome registry beside held = .ok (single held)) ∧
        report.errors.entries = errorsOf (heldFields record rules.entries) single ∧
        report.warnings =
          (heldFields record rules.entries).flatMap fun held => (single held).warnings := by
  rw [validate_eq_ok_iff]
  constructor
  · rintro ⟨finding, each, errors, warnings⟩
    refine ⟨fun held => reportOf held.field (finding held), ?_, errors, by simpa using warnings⟩
    intro held member
    rw [alike held member, each held member]
    rfl
  · rintro ⟨single, each, errors, warnings⟩
    -- The finding can be read off the report of the field.
    refine ⟨fun held => ⟨(single held).errorFor? held.field, (single held).warnings⟩, ?_,
      by simpa [errorsOf] using errors, warnings⟩
    intro held member
    have ended := each held member
    rw [alike held member, map_eq_ok_iff] at ended
    obtain ⟨finding, judged, reported⟩ := ended
    simp only [judged, ← reported, errorFor?_reportOf, warnings_reportOf]

private theorem validate_fails_iff :
    (∃ failure, (validate registry record rules).outcome = .error failure) ↔
      ∃ held ∈ heldFields record rules.entries,
        ∃ failure, aloneOutcome registry beside held = .error failure := by
  constructor
  · rintro ⟨failure, failed⟩
    obtain ⟨before, held, after, split, -, bad⟩ := (validate_fails_first alike).mp failed
    exact ⟨held, by simp [split], failure, bad⟩
  · rintro ⟨held, member, failure, failed⟩
    cases ended : (validate registry record rules).outcome with
    | error reason =>
        exact ⟨reason, rfl⟩
    | ok report =>
        obtain ⟨single, each, -⟩ := (validate_reports alike).mp ended
        rw [each held member] at failed
        cases failed

end Alike

/-- Expressions of fields that the record does not have make no difference. -/
theorem validate_eq_of_filter_eq {others : Table Value}
    (same : (others.entries.filter fun entry => record.contains entry.1) =
      rules.entries.filter fun entry => record.contains entry.1) :
    (validate registry record others).outcome = (validate registry record rules).outcome := by
  rw [validate_outcome, validate_outcome, ← heldFields_filter record others.entries, same,
    heldFields_filter]

/-- A record is validated field by field: its validation fails as the first field does that
cannot be validated alone, and otherwise it reports the errors and the warnings of the
fields in order.  Expressions of fields that the record does not have make no difference. -/
theorem validate_iff_field_by_field {beside : String → Table Value}
    (agree : ∀ held ∈ heldFields record rules.entries, ∀ other, other ≠ held.field →
      (beside held.field).get? other = record.get? other)
    (order : ShowsSameOrder registry record (heldFields record rules.entries) beside) :
    let fields := heldFields record rules.entries
    let alone := aloneOutcome registry beside
    let whole := (validate registry record rules).outcome
    ((∃ failure, whole = .error failure) ↔
        ∃ held ∈ fields, ∃ failure, alone held = .error failure) ∧
      (∀ failure, whole = .error failure ↔
        ∃ before held after, fields = before ++ held :: after ∧
          (∀ earlier ∈ before, ∃ report, alone earlier = .ok report) ∧
          alone held = .error failure) ∧
      (∀ report, whole = .ok report ↔
        ∃ single : HeldField → Report, (∀ held ∈ fields, alone held = .ok (single held)) ∧
          report.errors.entries = errorsOf fields single ∧
          report.warnings = fields.flatMap fun held => (single held).warnings) ∧
      ∀ others : Table Value,
        (others.entries.filter fun entry => record.contains entry.1) =
            (rules.entries.filter fun entry => record.contains entry.1) →
          (validate registry record others).outcome = whole := by
  intro fields alone whole
  have alike : ∀ held ∈ fields,
      alone held = (judgement registry record held).map (reportOf held.field) := by
    intro held member
    exact validateField_outcome_beside agree order member
  refine ⟨validate_fails_iff alike, fun failure => validate_fails_first alike,
    fun report => validate_reports alike, ?_⟩
  intro others same
  exact validate_eq_of_filter_eq same

end

open scoped Host

/-- A field that is compared with another one in a record that lists them the other way
round, and an expression that cannot be read for a field that is not there. -/
theorem compared_field_alone :
    let rule : Rule :=
      ⟨"differs", .differs, some (.composed fun _ _ => .ok (.text "same as a")), true⟩
    let registry : Registry := ⟨.ofList [("differs", rule)], .empty, .empty⟩
    let record : Table Value := .ofList [("a", .text "x"), ("b", .text "x")]
    let rules : Table Value :=
      .ofList [("b", .text "differs:a"), ("c", .text ":"), ("a", .text "required")]
    let beside (field : String) : Table Value :=
      if field = "a" then .ofList [("b", .text "x")] else .ofList [("b", .null), ("a", .text "x")]
    let fields := heldFields record rules.entries
    (∀ held ∈ fields, ∀ other, other ≠ held.field →
        (beside held.field).get? other = record.get? other) ∧
      ShowsSameOrder registry record fields beside ∧
      ∃ single : HeldField → Report,
        (∀ held ∈ fields, aloneOutcome registry beside held = .ok (single held)) ∧
          errorsOf fields single = [("b", ⟨"differs", "same as a"⟩)] := by
  intro rule registry record rules beside fields
  have twoFields : fields = [⟨"b", .text "x", .text "differs:a"⟩,
      ⟨"a", .text "x", .text "required"⟩] := rfl
  have agree : ∀ held ∈ fields, ∀ other, other ≠ held.field →
      (beside held.field).get? other = record.get? other := by
    rw [twoFields]
    intro held member other different
    simp only [List.mem_cons, List.not_mem_nil, or_false] at member
    rcases member with rfl | rfl
    · simp [beside, record, Table.ofList, Table.insertAll, Table.get?_insert, Ne.symm different]
    · simp [beside, record, Table.ofList, Table.insertAll, Table.get?_insert, Ne.symm different]
  have order : ShowsSameOrder registry record fields beside := by
    left
    intro name found known _
    have only : "differs" = name ∧ rule = found := by
      simpa [registry, Table.ofList, Table.insertAll, Table.get?_insert] using known
    rw [← only.2]
    exact Predicate.differs_ignoresOrder
  have compared : Expression.read "differs:a" = .ok [⟨"differs", ["a"], by decide⟩] := rfl
  have required : Expression.read "required" = .ok [⟨"required", [], by decide⟩] := rfl
  let finding (held : HeldField) : Finding :=
    if held.field = "b" then ⟨some ⟨"differs", "same as a"⟩, []⟩ else ⟨none, []⟩
  have ended : (validate registry record rules).outcome =
      .ok ⟨.ofList [("b", ⟨"differs", "same as a"⟩)], []⟩ := by
    refine validate_eq_ok_iff.mpr ⟨finding, ?_, rfl, rfl⟩
    show ∀ held ∈ fields, _
    rw [twoFields]
    intro held member
    simp only [List.mem_cons, List.not_mem_nil, or_false] at member
    rcases member with rfl | rfl
    · rw [judgement, judgeField_text compared]
      rfl
    · rw [judgement, judgeField_text required]
      rfl
  obtain ⟨single, each, errors, -⟩ :=
    ((validate_iff_field_by_field agree order).2.2.1 _).mp ended
  exact ⟨agree, order, single, each, errors.symm⟩

/-- Whether a record begins with a field. -/
private def beginsWith (field : String) : Predicate where
  parameters? := some ⟨[], [], false, true⟩
  judge _ _ surroundings? := .done ((surroundings?.bind (·.keys.head?)) == some field)

/-- A record that holds the same beside a field is judged otherwise if a rule reads the order of
fields: a field that is missing there is put in behind the others.  And a record that holds
something equal is judged otherwise if the kinds differ. -/
theorem record_beside_in_another_order_or_kind :
    let ordered : Registry :=
      ⟨.ofList [("first", ⟨"first", beginsWith "a", none, true⟩)], .empty, .empty⟩
    let letters : Table Value := .ofList [("a", .text "x"), ("b", .text "y")]
    let without : Table Value := .ofList [("b", .text "y")]
    let numbers : Table Value := .ofList [("a", .integer 1), ("b", .integer 1)]
    let truths : Table Value := .ofList [("b", .boolean true)]
    let errors (traced : Traced Event Report) : Option (List (String × FieldError)) :=
      traced.outcome.toOption.map (·.errors.entries)
    ((∀ other, other ≠ "a" → without.get? other = letters.get? other) ∧
      errors (validate ordered letters (.ofList [("a", .text "first")])) = some [] ∧
      errors (validateField ordered "a" (.text "x") (.text "first") without) =
        some [("a", ⟨"first", "The field is invalid"⟩)]) ∧
    (∀ other, other ≠ "a" →
        Option.Rel (·.equal · = true) (truths.get? other) (numbers.get? other)) ∧
      errors (validate .builtIn numbers (.ofList [("a", .text "equals:b")])) = some [] ∧
      errors (validateField .builtIn "a" (.integer 1) (.text "equals:b") truths) =
        some [("a", ⟨"equals", "This field must match b"⟩)] := by
  intro ordered letters without numbers truths errors
  refine ⟨⟨?_, by decide +kernel, by decide +kernel⟩, ?_, by decide +kernel, by decide +kernel⟩
  · intro other different
    simp [without, letters, Table.ofList, Table.insertAll, Table.get?_insert, Ne.symm different]
  · intro other different
    have one : (Value.boolean true).equal (.integer 1) = true := by
      decide +kernel
    by_cases compared : "b" = other
    · subst compared
      exact .some one
    · simp [truths, numbers, Table.ofList, Table.insertAll, Table.get?_insert, compared,
        Ne.symm different]

end FormCheck.Validation
