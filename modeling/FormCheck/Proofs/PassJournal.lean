import FormCheck.Proofs.Channels

/-!
# The journal of a validation

The journal begins with an entry that counts the fields with an expression, and ends with one
that tells how the validation ended.  In between, field by field and in order, stands an entry
for a field that the record does not have, and for any other field an entry for each notice
that was collected about its value.  A validation that fails comes no further than the field
that could not be judged; what had been noted about this field before stays.

So the journal of a validation that returns has the warnings of the report, in order, and the
fields that were passed over.
-/

namespace FormCheck.Validation

variable {registry : Registry} {record rules : Table Value}

/-! ## Entries -/

/-- The entry at the beginning, with the number of fields that have an expression. -/
def openingEntry (count : Nat) : Entry :=
  ⟨.debug, .validation, "Starting: validate",
    .ofList [("operation", .text "validate"), ("field_count", .integer count)]⟩

/-- The entry for a field that the record does not have. -/
def skippedEntry (field : String) : Entry :=
  ⟨.debug, .validation, "Skipping field without a value: " ++ field,
    .ofList [("field", .text field)]⟩

/-- The entry for a notice that was collected. -/
def warningEntry (warning : RuleWarning) : Entry :=
  ⟨.warning, .validation, warning.message,
    .ofList [("field", .text warning.field), ("rule", .text warning.rule)]⟩

/-- The entry at the end of a validation that returns. -/
def completedEntry (count : Nat) : Entry :=
  ⟨.debug, .validation, "Completed: validate",
    .ofList [("operation", .text "validate"), ("status", .text "success"),
      ("field_count", .integer count)]⟩

/-- The entry at the end of a validation that fails. -/
def failedEntry (count : Nat) (failure : Failure) : Entry :=
  ⟨.error, .validation, "Failed: validate",
    .ofList [("operation", .text "validate"), ("status", .text "error"),
      ("error_type", .text failure.kindName), ("error_message", .text failure.text),
      ("field_count", .integer count)]⟩

/-- The entry at the end of a validation. -/
def closingEntry (count : Nat) : Except Failure Report → Entry
  | .ok _ => completedEntry count
  | .error failure => failedEntry count failure

/-- The entries for a field with an expression. -/
def entriesOf (registry : Registry) (record : Table Value) (entry : String × Value) :
    List Entry :=
  match record.get? entry.1 with
  | none => [skippedEntry entry.1]
  | some value =>
      (collected (emissions registry record ⟨entry.1, value, entry.2⟩)).map warningEntry

theorem entriesOf_of_none {field : String} (absent : record.get? field = none)
    (expression : Value) :
    entriesOf registry record (field, expression) = [skippedEntry field] := by
  simp only [entriesOf, absent]

theorem entriesOf_of_some (held : HeldField) (present : record.get? held.field = some held.value) :
    entriesOf registry record (held.field, held.expression) =
      (collected (emissions registry record held)).map warningEntry := by
  simp only [entriesOf, present]

/-! ## What the trace holds -/

/-- A notice that is collected is entered. -/
theorem entries_event (emissions : List Emission) :
    Event.entries (emissions.map Emission.event) = (collected emissions).map warningEntry := by
  induction emissions with
  | nil =>
      rfl
  | cons emission rest inductionHypothesis =>
      rw [Event.entries] at inductionHypothesis
      cases kept : emission.notice.isUnsupportedValue <;>
        simp [Event.entries, collected, Emission.event, Emission.isCollected, Emission.warning,
          warningEntry, eventOf, kept, inductionHypothesis]

theorem entries_events (entry : String × Value) :
    Event.entries (events registry record entry) = entriesOf registry record entry := by
  rw [events, entriesOf]
  cases record.get? entry.1 with
  | none =>
      rfl
  | some value =>
      exact entries_event _

theorem entries_flatMap (expressions : List (String × Value)) :
    Event.entries (expressions.flatMap (events registry record)) =
      expressions.flatMap (entriesOf registry record) := by
  rw [Event.entries, List.filterMap_flatMap]
  exact List.flatMap_congr fun entry _ => entries_events entry

/-- The entries of an operation stand between the one at its beginning and the one at its
end. -/
theorem entries_enclosed (opening closing : Entry) (events : List Event) :
    Event.entries (.entry opening :: (events ++ [.entry closing])) =
      opening :: (Event.entries events ++ [closing]) := by
  simp [Event.entries]

/-! ## Views of the journal -/

theorem warnings_entriesOf (expressions : List (String × Value)) :
    (expressions.flatMap (entriesOf registry record)).filter
        (fun entry => entry.level = .warning) =
      (collected ((heldFields record expressions).flatMap (emissions registry record))).map
        warningEntry := by
  induction expressions with
  | nil =>
      rfl
  | cons entry rest inductionHypothesis =>
      obtain ⟨name, expression⟩ := entry
      rw [List.flatMap_cons, List.filter_append, inductionHypothesis]
      cases present : record.get? name with
      | none =>
          rw [entriesOf_of_none present, heldFields_cons_of_none present]
          rfl
      | some content =>
          rw [entriesOf_of_some ⟨name, content, expression⟩ present,
            heldFields_cons_of_some present, List.flatMap_cons, collected_append, List.map_append]
          simp [warningEntry]

theorem skips_entriesOf (expressions : List (String × Value)) :
    (expressions.flatMap (entriesOf registry record)).filter
        (fun entry => entry.level = .debug) =
      ((expressions.map (·.1)).filter fun field => !record.contains field).map skippedEntry := by
  induction expressions with
  | nil =>
      rfl
  | cons entry rest inductionHypothesis =>
      obtain ⟨name, expression⟩ := entry
      rw [List.flatMap_cons, List.filter_append, inductionHypothesis]
      cases present : record.get? name with
      | none =>
          rw [entriesOf_of_none present]
          simp [Table.contains, present, skippedEntry]
      | some content =>
          rw [entriesOf_of_some ⟨name, content, expression⟩ present]
          simp [Table.contains, present, warningEntry]

/-! ## The journal of a validation -/

variable [Host]

theorem entries_validate (registry : Registry) (record rules : Table Value) :
    Event.entries (validate registry record rules).trace =
      openingEntry rules.size ::
        ((met registry record rules.entries).flatMap (entriesOf registry record) ++
          [closingEntry rules.size (validate registry record rules).outcome]) := by
  let body := judgeFields registry record ⟨.empty, []⟩ rules.entries
  have traced : (validate registry record rules).trace =
      .entry (openingEntry rules.size) ::
        (body.trace ++ [.entry (closingEntry rules.size body.outcome)]) := by
    simp only [validate, Journal.around]
    cases body.outcome <;> rfl
  have inside : body.trace =
      (met registry record rules.entries).flatMap (events registry record) :=
    judgeFields_trace rules.entries ⟨.empty, []⟩
  rw [traced, entries_enclosed, inside, entries_flatMap]
  rfl

/-! ## Where a validation stops -/

/-- The record has the field, and its value cannot be judged. -/
def StopsAt (registry : Registry) (record : Table Value) (failure : Failure)
    (entry : String × Value) : Prop :=
  ∃ value, record.get? entry.1 = some value ∧
    judgement registry record ⟨entry.1, value, entry.2⟩ = .error failure

/-- A validation fails as the first field does at which it stops. -/
theorem validate_fails_iff_stops {failure : Failure} :
    (validate registry record rules).outcome = .error failure ↔
      ∃ before entry after, rules.entries = before ++ entry :: after ∧
        (∀ earlier ∈ before, goesOn registry record earlier = true) ∧
        StopsAt registry record failure entry := by
  rw [validate_outcome, map_eq_error_iff]
  refine stops_iff_exists_split
    (fun expressions => findings registry record (heldFields record expressions) = .error failure)
    (fun entry => goesOn registry record entry = true) (StopsAt registry record failure) ?_ ?_
  · intro failed
    cases failed
  · rintro ⟨name, expression⟩ rest
    cases present : record.get? name with
    | none =>
        rw [heldFields_cons_of_none present, goesOn_of_none present]
        simp [StopsAt, present]
    | some content =>
        rw [heldFields_cons_of_some present, findings,
          goesOn_of_some ⟨name, content, expression⟩ present]
        cases judged : judgement registry record ⟨name, content, expression⟩ with
        | error reason =>
            simp [StopsAt, present, judged, Except.isOk, Except.toBool]
        | ok finding =>
            cases findings registry record (heldFields record rest) <;>
              simp [StopsAt, present, judged, Except.isOk, Except.toBool, Except.map]

/-- The journal of a validation agrees with its outcome.  It tells of every field when the
validation returns, and then has the warnings of the report and the fields that the record does
not have; when the validation fails, it tells of the fields up to the first one that cannot be
judged, and ends with the failure of this one. -/
theorem journal_agrees_with_outcome (registry : Registry) (record rules : Table Value) :
    let validated := validate registry record rules
    let journal := Event.entries validated.trace
    match validated.outcome with
    | .ok report =>
        journal = openingEntry rules.size ::
            (rules.entries.flatMap (entriesOf registry record) ++ [completedEntry rules.size]) ∧
          journal.filter (fun entry => entry.level = .warning) =
            report.warnings.map warningEntry ∧
          journal.filter (fun entry => entry.level = .debug) =
            openingEntry rules.size ::
              ((rules.keys.filter fun field => !record.contains field).map skippedEntry ++
                [completedEntry rules.size])
    | .error failure =>
        ∃ before entry after, rules.entries = before ++ entry :: after ∧
          (∀ earlier ∈ before, goesOn registry record earlier = true) ∧
          StopsAt registry record failure entry ∧
          journal = openingEntry rules.size ::
            ((before ++ [entry]).flatMap (entriesOf registry record) ++
              [failedEntry rules.size failure]) := by
  intro validated journal
  have whole : journal = openingEntry rules.size ::
      ((met registry record rules.entries).flatMap (entriesOf registry record) ++
        [closingEntry rules.size validated.outcome]) :=
    entries_validate registry record rules
  cases ended : validated.outcome with
  | ok report =>
      have told : journal = openingEntry rules.size ::
          (rules.entries.flatMap (entriesOf registry record) ++ [completedEntry rules.size]) := by
        rw [whole, met_of_returned ended, ended]
        rfl
      refine ⟨told, ?_, ?_⟩
      · rw [told, warnings_of_returned ended, ← warnings_entriesOf]
        simp [openingEntry, completedEntry]
      · rw [told]
        simp [openingEntry, completedEntry, skips_entriesOf, Table.keys]
  | error failure =>
      obtain ⟨before, entry, after, split, goOn, stops⟩ := validate_fails_iff_stops.mp ended
      have unjudged : goesOn registry record entry = false := by
        obtain ⟨value, present, judged⟩ := stops
        rw [goesOn_of_some ⟨entry.1, value, entry.2⟩ present, judged]
        rfl
      refine ⟨before, entry, after, split, goOn, stops, ?_⟩
      rw [whole, met, split, upToFirst_append goOn unjudged, ended]
      rfl

/-- A field that is passed over, and one whose second rule is unknown. -/
example :
    let record : Table Value := .ofList [("tags", .list [])]
    let rules : Table Value := .ofList [("name", .text "required"), ("tags", .text "min:1|length")]
    (Event.entries (validate .builtIn record rules).trace).map Entry.message =
      ["Starting: validate", "Skipping field without a value: name",
        "The \"min\" rule works only with types: string, number (got list)",
        "Failed: validate"] := by
  rfl

end FormCheck.Validation
