import FormCheck.Host.Plain
import FormCheck.Proofs.FieldByField
import FormCheck.Proofs.SessionRun

/-!
# Verdicts and words

A verdict says which rule each field fails, and which values were not handled.  Messages put
it into words, and labels occur in them.  The verdict depends on the rules that the
expressions call for, and on nothing else of a registry.

Words are made while a record is judged, and they may fail: a message that cannot be
rendered ends the validation.  So two registries that know the same rules are compared step
by step (`SameButForWords`): they find the same or fail alike, unless a message of one of
them cannot be rendered.
-/

namespace FormCheck

/-- Two findings that differ in words only. -/
structure Finding.SameVerdict (left right : Finding) : Prop where
  same_rule : left.error?.map FieldError.rule = right.error?.map FieldError.rule
  same_warnings : left.warnings = right.warnings

/-- Two reports that differ in words only: the same fields, in the same order, fail the same
rules. -/
structure Report.SameVerdict (left right : Report) : Prop where
  same_errors : left.errors.map FieldError.rule = right.errors.map FieldError.rule
  same_warnings : left.warnings = right.warnings

/-- Two outcomes that differ in words only.  `unrenderedLeft` and `unrenderedRight` hold of the
failures that come from a message. -/
inductive SameButForWords {α : Type} (same : α → α → Prop)
    (unrenderedLeft unrenderedRight : Failure → Prop) :
    Except Failure α → Except Failure α → Prop
  | found {left right : α} (alike : same left right) :
      SameButForWords same unrenderedLeft unrenderedRight (.ok left) (.ok right)
  | failed (failure : Failure) :
      SameButForWords same unrenderedLeft unrenderedRight (.error failure) (.error failure)
  | left {failure : Failure} (unrendered : unrenderedLeft failure) (right : Except Failure α) :
      SameButForWords same unrenderedLeft unrenderedRight (.error failure) right
  | right {failure : Failure} (unrendered : unrenderedRight failure) (left : Except Failure α) :
      SameButForWords same unrenderedLeft unrenderedRight left (.error failure)

namespace SameButForWords

variable {α β : Type} {same : α → α → Prop} {sameNext : β → β → Prop}
  {unrenderedLeft unrenderedRight laterLeft laterRight : Failure → Prop}
  {left right : Except Failure α}

theorem mono (first : SameButForWords same unrenderedLeft unrenderedRight left right)
    (staysLeft : ∀ failure, unrenderedLeft failure → laterLeft failure)
    (staysRight : ∀ failure, unrenderedRight failure → laterRight failure) :
    SameButForWords same laterLeft laterRight left right := by
  cases first with
  | found alike =>
      exact .found alike
  | failed failure =>
      exact .failed failure
  | left unrendered =>
      exact .left (staysLeft _ unrendered) _
  | right unrendered =>
      exact .right (staysRight _ unrendered) _

/-- Outcomes stay the same but for words when both sides go on in the same way. -/
theorem bind (first : SameButForWords same unrenderedLeft unrenderedRight left right)
    {nextLeft nextRight : α → Except Failure β}
    (next : ∀ foundLeft foundRight, left = .ok foundLeft → right = .ok foundRight →
      same foundLeft foundRight →
      SameButForWords sameNext unrenderedLeft unrenderedRight (nextLeft foundLeft)
        (nextRight foundRight)) :
    SameButForWords sameNext unrenderedLeft unrenderedRight (left.bind nextLeft)
      (right.bind nextRight) := by
  cases first with
  | found alike =>
      exact next _ _ rfl rfl alike
  | failed failure =>
      exact .failed failure
  | left unrendered =>
      exact .left unrendered _
  | right unrendered =>
      exact .right unrendered _

theorem alike_of_ok {foundLeft foundRight : α}
    (outcomes : SameButForWords same unrenderedLeft unrenderedRight (.ok foundLeft)
      (.ok foundRight)) : same foundLeft foundRight := by
  cases outcomes with
  | found alike =>
      exact alike

/-- A failure that does not come from a message leaves no room for a result. -/
theorem fails_of_error {failure : Failure}
    (outcomes : SameButForWords same unrenderedLeft unrenderedRight (.error failure) right)
    (rendered : ¬ unrenderedLeft failure) :
    ∃ reason, right = .error reason ∧ (reason = failure ∨ unrenderedRight reason) := by
  cases outcomes with
  | failed =>
      exact ⟨failure, rfl, .inl rfl⟩
  | left unrendered =>
      exact absurd unrendered rendered
  | right unrendered =>
      exact ⟨_, rfl, .inr unrendered⟩

end SameButForWords

namespace Validation

theorem sameVerdict_add {reportLeft reportRight : Report} {findingLeft findingRight : Finding}
    (alike : reportLeft.SameVerdict reportRight) (field : String)
    (alikeFindings : findingLeft.SameVerdict findingRight) :
    (add reportLeft field findingLeft).SameVerdict (add reportRight field findingRight) := by
  obtain ⟨sameErrors, sameWarnings⟩ := alike
  obtain ⟨errorLeft?, warnings⟩ := findingLeft
  obtain ⟨errorRight?, warningsRight⟩ := findingRight
  obtain rfl : warnings = warningsRight := alikeFindings.same_warnings
  have sameRule : errorLeft?.map FieldError.rule = errorRight?.map FieldError.rule :=
    alikeFindings.same_rule
  refine ⟨?_, by simp only [add, sameWarnings]⟩
  cases errorLeft? with
  | none =>
      cases errorRight? with
      | none =>
          exact sameErrors
      | some errorRight =>
          cases sameRule
  | some errorLeft =>
      cases errorRight? with
      | none =>
          cases sameRule
      | some errorRight =>
          have same : errorLeft.rule = errorRight.rule := Option.some.inj sameRule
          simp only [add, Table.map_insert, sameErrors, same]

variable [Host] {registry left right : Registry} {field : String} {value : Value}
  {surroundings : Table Value} {record rules : Table Value} {failure : Failure}

/-! ## Where words fail -/

/-- A value fails the rule of a clause, and the message of the rule cannot be rendered. -/
def UnrenderedClause (registry : Registry) (value : Value) (surroundings : Table Value)
    (clause : Clause) (failure : Failure) : Prop :=
  ∃ rule, registry.lookup clause.name = .ok rule ∧
    (rule.check value clause.arguments surroundings).outcome = .ok false ∧
    registry.renderMessage clause.name value clause.arguments = .error failure

/-- The value passes clauses up to one whose message cannot be rendered. -/
def UnrenderedClauses (registry : Registry) (value : Value) (surroundings : Table Value)
    (clauses : List Clause) (failure : Failure) : Prop :=
  ∃ before clause after, clauses = before ++ clause :: after ∧
    (∀ earlier ∈ before, Passes registry value surroundings earlier) ∧
    UnrenderedClause registry value surroundings clause failure

/-- A message for a field cannot be rendered. -/
def UnrenderedField (registry : Registry) (record : Table Value) (held : HeldField)
    (failure : Failure) : Prop :=
  ∃ clauses, Expression.readValue held.expression = .ok clauses ∧
    UnrenderedClauses registry held.value record clauses failure

/-- Fields are judged up to one for which a message cannot be rendered. -/
def UnrenderedAmong (registry : Registry) (record : Table Value) (fields : List HeldField)
    (failure : Failure) : Prop :=
  ∃ before held after, fields = before ++ held :: after ∧
    (∀ earlier ∈ before, ∃ finding, judgement registry record earlier = .ok finding) ∧
    UnrenderedField registry record held failure

theorem UnrenderedClauses.head {clause : Clause} {rest : List Clause}
    (unrendered : UnrenderedClause registry value surroundings clause failure) :
    UnrenderedClauses registry value surroundings (clause :: rest) failure :=
  ⟨[], clause, rest, rfl, List.forall_mem_nil _, unrendered⟩

theorem UnrenderedClauses.cons {clause : Clause} {rest : List Clause}
    (later : UnrenderedClauses registry value surroundings rest failure)
    (passes : Passes registry value surroundings clause) :
    UnrenderedClauses registry value surroundings (clause :: rest) failure := by
  obtain ⟨before, stopped, after, rfl, passed, unrendered⟩ := later
  exact ⟨clause :: before, stopped, after, rfl, List.forall_mem_cons.mpr ⟨passes, passed⟩,
    unrendered⟩

theorem UnrenderedAmong.head {held : HeldField} {rest : List HeldField}
    (unrendered : UnrenderedField registry record held failure) :
    UnrenderedAmong registry record (held :: rest) failure :=
  ⟨[], held, rest, rfl, List.forall_mem_nil _, unrendered⟩

theorem UnrenderedAmong.cons {held : HeldField} {rest : List HeldField} {finding : Finding}
    (later : UnrenderedAmong registry record rest failure)
    (judged : judgement registry record held = .ok finding) :
    UnrenderedAmong registry record (held :: rest) failure := by
  obtain ⟨before, stopped, after, rfl, earlier, unrendered⟩ := later
  exact ⟨held :: before, stopped, after, rfl,
    List.forall_mem_cons.mpr ⟨⟨finding, judged⟩, earlier⟩, unrendered⟩

/-! ## One clause after another -/

theorem judgeClause_sameButForWords {clause : Clause}
    (sameRule : left.lookup clause.name = right.lookup clause.name) :
    SameButForWords Finding.SameVerdict
      (UnrenderedClause left value surroundings clause)
      (UnrenderedClause right value surroundings clause)
      (judgeClause left field value surroundings clause).outcome
      (judgeClause right field value surroundings clause).outcome := by
  cases knownLeft : left.lookup clause.name with
  | error mistake =>
      have knownRight : right.lookup clause.name = .error mistake := sameRule ▸ knownLeft
      rw [judgeClause_of_unknown knownLeft, judgeClause_of_unknown knownRight]
      exact .failed _
  | ok rule =>
      have knownRight : right.lookup clause.name = .ok rule := sameRule ▸ knownLeft
      cases judged : (rule.check value clause.arguments surroundings).outcome with
      | error failure =>
          rw [judgeClause_of_check_error knownLeft judged,
            judgeClause_of_check_error knownRight judged]
          exact .failed _
      | ok passed =>
          rw [judgeClause_outcome_of_check knownLeft judged,
            judgeClause_outcome_of_check knownRight judged]
          cases passed with
          | true =>
              exact .found ⟨rfl, rfl⟩
          | false =>
              cases wordsLeft : left.renderMessage clause.name value clause.arguments with
              | error failure =>
                  exact .left ⟨rule, knownLeft, judged, wordsLeft⟩ _
              | ok message =>
                  cases wordsRight : right.renderMessage clause.name value clause.arguments with
                  | error failure =>
                      exact .right ⟨rule, knownRight, judged, wordsRight⟩ _
                  | ok other =>
                      exact .found ⟨rfl, rfl⟩

theorem passes_of_clear {clause : Clause} {finding : Finding}
    (found : (judgeClause registry field value surroundings clause).outcome = .ok finding)
    (clear : finding.error? = none) : Passes registry value surroundings clause :=
  (exists_finding_without_error_iff field).mp ⟨finding, found, clear⟩

/-- A finding that ends the row of clauses on one side ends it on the other side too. -/
theorem judgeClauses_sameButForWords {clauses : List Clause}
    (sameRules : ∀ clause ∈ clauses, left.lookup clause.name = right.lookup clause.name) :
    SameButForWords Finding.SameVerdict
      (UnrenderedClauses left value surroundings clauses)
      (UnrenderedClauses right value surroundings clauses)
      (judgeClauses left field value surroundings clauses).outcome
      (judgeClauses right field value surroundings clauses).outcome := by
  induction clauses with
  | nil =>
      exact .found ⟨rfl, rfl⟩
  | cons clause rest inductionHypothesis =>
      have remaining := inductionHypothesis fun later member =>
        sameRules later (List.mem_cons_of_mem _ member)
      have first : SameButForWords Finding.SameVerdict
          (UnrenderedClauses left value surroundings (clause :: rest))
          (UnrenderedClauses right value surroundings (clause :: rest))
          (judgeClause left field value surroundings clause).outcome
          (judgeClause right field value surroundings clause).outcome :=
        (judgeClause_sameButForWords (sameRules clause List.mem_cons_self)).mono
          (fun _ => UnrenderedClauses.head) (fun _ => UnrenderedClauses.head)
      rw [judgeClauses, judgeClauses, Traced.outcome_andThen, Traced.outcome_andThen]
      refine first.bind fun findingLeft findingRight foundLeft foundRight alike => ?_
      obtain ⟨errorLeft?, warnings⟩ := findingLeft
      obtain ⟨errorRight?, warningsRight⟩ := findingRight
      obtain rfl : warnings = warningsRight := alike.same_warnings
      cases errorLeft? with
      | some errorLeft =>
          cases errorRight? with
          | some errorRight =>
              exact .found alike
          | none =>
              cases alike.same_rule
      | none =>
          cases errorRight? with
          | some errorRight =>
              cases alike.same_rule
          | none =>
              simp only [Traced.outcome_andThen]
              have later := remaining.mono
                (fun _ unrendered => unrendered.cons (passes_of_clear foundLeft rfl))
                (fun _ unrendered => unrendered.cons (passes_of_clear foundRight rfl))
              refine later.bind fun laterLeft laterRight _ _ alikeLater => ?_
              have sameWarnings : warnings ++ laterLeft.warnings =
                  warnings ++ laterRight.warnings := by
                rw [alikeLater.same_warnings]
              exact .found ⟨alikeLater.same_rule, sameWarnings⟩

/-! ## One field after another -/

/-- Some field of a record has an expression that calls for a rule. -/
def CallsFor (record : Table Value) (expressions : List (String × Value)) (name : String) :
    Prop :=
  ∃ held ∈ heldFields record expressions, ∃ clauses,
    Expression.readValue held.expression = .ok clauses ∧ ∃ clause ∈ clauses, clause.name = name

theorem judgement_sameButForWords {held : HeldField}
    (sameRules : ∀ clauses, Expression.readValue held.expression = .ok clauses →
      ∀ clause ∈ clauses, left.lookup clause.name = right.lookup clause.name) :
    SameButForWords Finding.SameVerdict (UnrenderedField left record held)
      (UnrenderedField right record held) (judgement left record held)
      (judgement right record held) := by
  unfold judgement judgeField
  cases read : Expression.readValue held.expression with
  | error failure =>
      exact .failed failure
  | ok clauses =>
      exact (judgeClauses_sameButForWords (sameRules clauses read)).mono
        (fun _ unrendered => ⟨clauses, read, unrendered⟩)
        (fun _ unrendered => ⟨clauses, read, unrendered⟩)

/-- Fields that the record does not have are passed over on both sides. -/
theorem judgeFields_sameButForWords {expressions : List (String × Value)}
    (sameRules : ∀ name, CallsFor record expressions name → left.lookup name = right.lookup name)
    {reportLeft reportRight : Report} (alike : reportLeft.SameVerdict reportRight) :
    SameButForWords Report.SameVerdict
      (UnrenderedAmong left record (heldFields record expressions))
      (UnrenderedAmong right record (heldFields record expressions))
      (judgeFields left record reportLeft expressions).outcome
      (judgeFields right record reportRight expressions).outcome := by
  induction expressions generalizing reportLeft reportRight with
  | nil =>
      exact .found alike
  | cons entry rest inductionHypothesis =>
      obtain ⟨name, expression⟩ := entry
      cases present : record.get? name with
      | none =>
          have absent := heldFields_cons_of_none present expression rest
          simp only [judgeFields, present, absent, Traced.outcome_andThen]
          refine inductionHypothesis (fun called calls => sameRules called ?_) alike
          simpa only [CallsFor, absent] using calls
      | some content =>
          have split := heldFields_cons_of_some present expression rest
          have sameHere : ∀ clauses, Expression.readValue expression = .ok clauses →
              ∀ clause ∈ clauses, left.lookup clause.name = right.lookup clause.name := by
            intro clauses read clause member
            refine sameRules clause.name ⟨⟨name, content, expression⟩, ?_, clauses, read, clause,
              member, rfl⟩
            rw [split]
            exact List.mem_cons_self
          have sameLater : ∀ called, CallsFor record rest called →
              left.lookup called = right.lookup called := by
            rintro called ⟨held, member, calls⟩
            refine sameRules called ⟨held, ?_, calls⟩
            rw [split]
            exact List.mem_cons_of_mem _ member
          let held : HeldField := ⟨name, content, expression⟩
          have first : SameButForWords Finding.SameVerdict
              (UnrenderedAmong left record (held :: heldFields record rest))
              (UnrenderedAmong right record (held :: heldFields record rest))
              (judgement left record held) (judgement right record held) :=
            (judgement_sameButForWords sameHere).mono
              (fun _ => UnrenderedAmong.head) (fun _ => UnrenderedAmong.head)
          simp only [judgeFields, present, split, Traced.outcome_andThen]
          refine first.bind fun findingLeft findingRight foundLeft foundRight alikeHere => ?_
          exact (inductionHypothesis sameLater (sameVerdict_add alike name alikeHere)).mono
            (fun _ later => later.cons foundLeft) (fun _ later => later.cons foundRight)

theorem validate_sameButForWords
    (sameRules : ∀ name, CallsFor record rules.entries name →
      left.lookup name = right.lookup name) :
    SameButForWords Report.SameVerdict
      (UnrenderedAmong left record (heldFields record rules.entries))
      (UnrenderedAmong right record (heldFields record rules.entries))
      (validate left record rules).outcome (validate right record rules).outcome :=
  judgeFields_sameButForWords sameRules ⟨rfl, rfl⟩

end Validation

/-! ## Registries that know the same rules -/

theorem Registry.lookup_add {registry : Registry} {addition : Registry.Addition} {name : String}
    (other : ∀ definition, addition = .rule definition → definition.name ≠ name) :
    (registry.add addition).lookup name = registry.lookup name := by
  cases addition with
  | message rule words | label field words =>
      rfl
  | rule definition =>
      have different : definition.name ≠ name := other definition rfl
      simp only [lookup, rule?, add, Table.get?_insert, if_neg different]

namespace Session

/-- The name under which a change registers a rule, unless it is refused. -/
def Change.registered? (change : Change) : Option String :=
  (change.addition?.bind Registry.Addition.rule?).map (·.1)

/-- A rule stays what it is as long as none is registered under its name. -/
theorem lookup_performAll {registry grown : Registry} {changes : List Change} {name : String}
    (present : SelectsPresent 1 changes)
    (reached : grown ∈ ((start registry).performAll changes).registries)
    (unregistered : ∀ change ∈ changes, change.registered? ≠ some name) :
    grown.lookup name = registry.lookup name := by
  have now : ∀ first ∈ (start registry).registries, first.lookup name = registry.lookup name := by
    intro first member
    rw [List.mem_singleton.mp member]
  refine forall_registries_performAll now Nat.zero_lt_one present ?_ grown reached
  intro change member addition offered before same
  rw [Registry.lookup_add, same]
  rintro definition rfl rfl
  have registers : change.registered? = some definition.name := by
    simp [Change.registered?, offered, Registry.Addition.rule?]
  exact unregistered change member registers

section

variable [Host]

/-- Messages, labels and rules that no expression calls for change only the words of a report.
A validation that does not fail for want of a message fails with all of them. -/
theorem verdict_survives_unrelated_changes {registry grown : Registry} {changes : List Change}
    {record rules : Table Value} (present : SelectsPresent 1 changes)
    (reached : grown ∈ ((start registry).performAll changes).registries)
    (unrelated : ∀ change ∈ changes, ∀ name, change.registered? = some name →
      ¬ Validation.CallsFor record rules.entries name) :
    let fields := Validation.heldFields record rules.entries
    let before := (Validation.validate registry record rules).outcome
    let after := (Validation.validate grown record rules).outcome
    (∀ report other, before = .ok report → after = .ok other → report.SameVerdict other) ∧
      ∀ failure, before = .error failure →
        ¬ Validation.UnrenderedAmong registry record fields failure →
          ∃ reason, after = .error reason ∧
            (reason = failure ∨ Validation.UnrenderedAmong grown record fields reason) := by
  intro fields before after
  have sameRules : ∀ name, Validation.CallsFor record rules.entries name →
      registry.lookup name = grown.lookup name := by
    intro name calls
    refine (lookup_performAll present reached fun change member registers => ?_).symm
    exact unrelated change member name registers calls
  have same : SameButForWords Report.SameVerdict
      (Validation.UnrenderedAmong registry record fields)
      (Validation.UnrenderedAmong grown record fields) before after :=
    Validation.validate_sameButForWords sameRules
  refine ⟨?_, ?_⟩
  · intro report other ended endedLater
    rw [ended, endedLater] at same
    exact same.alike_of_ok
  · intro failure failed rendered
    rw [failed] at same
    exact same.fails_of_error rendered

end

open scoped Host

/-- A message that is worded anew keeps the verdict.  Where an expression names an unknown rule,
a message that gives no text only makes the validation fail earlier. -/
theorem reworded_message_keeps_the_verdict :
    let registry : Registry :=
      ⟨.empty, .ofList [("string", .composed fun _ _ => .ok (.text "words are wanted")),
        ("number", .composed fun _ _ => .ok (.text "digits are wanted"))], .empty⟩
    let changes : List Change :=
      [.register "late" (some (.constant false)) (.value .null) false,
        .setMessage "string" (.composed fun _ _ => .ok (.text "words only")),
        .register "number" (some (.constant true)) (.value .null) false,
        .setMessage "number" (.composed fun _ _ => .ok (.integer 1)),
        .setLabel "a" (.text "A")]
    let record : Table Value := .ofList [("a", .null), ("b", .null)]
    let readable : Table Value := .ofList [("a", .text "string")]
    let broken : Table Value := .ofList [("a", .text "number"), ("b", .text "nope")]
    let unknown : Failure := .mistake (.unknownRule "nope")
    SelectsPresent 1 changes ∧
      (∀ rules ∈ [readable, broken], ∀ change ∈ changes, ∀ name,
        change.registered? = some name → ¬ Validation.CallsFor record rules.entries name) ∧
      ∃ grown ∈ ((start registry).performAll changes).registries, ∃ report other reason,
        (Validation.validate registry record readable).outcome = .ok report ∧
        (Validation.validate grown record readable).outcome = .ok other ∧
        report.messageFor? "a" = some "words are wanted" ∧
        other.messageFor? "a" = some "words only" ∧ report.SameVerdict other ∧
        (Validation.validate registry record broken).outcome = .error unknown ∧
        ¬ Validation.UnrenderedAmong registry record
          (Validation.heldFields record broken.entries) unknown ∧
        (Validation.validate grown record broken).outcome = .error reason := by
  intro registry changes record readable broken unknown
  let grown : Registry :=
    ⟨.ofList [("late", ⟨"late", .constant false, none, false⟩)],
      .ofList [("string", .composed fun _ _ => .ok (.text "words only")),
        ("number", .composed fun _ _ => .ok (.integer 1))], .ofList [("a", .text "A")]⟩
  have reached : grown ∈ ((start registry).performAll changes).registries :=
    List.mem_singleton.mpr rfl
  have present : SelectsPresent 1 changes := by
    simp [changes, SelectsPresent, Change.SelectsPresent]
  have string : Expression.read "string" = .ok [⟨"string", [], by decide⟩] := rfl
  have number : Expression.read "number" = .ok [⟨"number", [], by decide⟩] := rfl
  have nope : Expression.read "nope" = .ok [⟨"nope", [], by decide⟩] := rfl
  have onlyLate : ∀ change ∈ changes, ∀ name, change.registered? = some name → name = "late" := by
    intro change member name registers
    have registered : changes.map Change.registered? =
        [some "late", none, none, none, none] := rfl
    have listed : change.registered? ∈ changes.map Change.registered? := List.mem_map_of_mem member
    simpa [registered, registers] using listed
  have unrelated : ∀ rules ∈ [readable, broken], ∀ change ∈ changes, ∀ name,
      change.registered? = some name → ¬ Validation.CallsFor record rules.entries name := by
    rintro rules rulesMember change member name registers
      ⟨held, heldMember, clauses, read, clause, clauseMember, named⟩
    obtain rfl := onlyLate change member name registers
    rcases List.mem_cons.mp rulesMember with rfl | last
    · cases List.mem_singleton.mp heldMember
      rw [Expression.readValue, string] at read
      cases read
      cases List.mem_singleton.mp clauseMember
      exact absurd named (by decide)
    · cases List.mem_singleton.mp last
      rcases List.mem_cons.mp heldMember with rfl | lastHeld
      · rw [Expression.readValue, number] at read
        cases read
        cases List.mem_singleton.mp clauseMember
        exact absurd named (by decide)
      · cases List.mem_singleton.mp lastHeld
        rw [Expression.readValue, nope] at read
        cases read
        cases List.mem_singleton.mp clauseMember
        exact absurd named (by decide)
  have ended : ∀ known : Registry, ∀ words, Validation.judgement known record
        ⟨"a", .null, .text "string"⟩ = .ok ⟨some ⟨"string", words⟩, []⟩ →
      (Validation.validate known record readable).outcome =
        .ok ⟨.ofList [("a", ⟨"string", words⟩)], []⟩ := by
    intro known words judged
    refine Validation.validate_eq_ok_iff.mpr
      ⟨fun _ => ⟨some ⟨"string", words⟩, []⟩, ?_, rfl, rfl⟩
    intro held member
    cases List.mem_singleton.mp member
    exact judged
  have before := ended registry "words are wanted" (by
    rw [Validation.judgement, Validation.judgeField_text string]
    rfl)
  have after := ended grown "words only" (by
    rw [Validation.judgement, Validation.judgeField_text string]
    rfl)
  have failed : (Validation.validate registry record broken).outcome = .error unknown := by
    refine Validation.validate_eq_error_iff.mpr
      ⟨[⟨"a", .null, .text "number"⟩], ⟨"b", .null, .text "nope"⟩, [], rfl, ?_, ?_⟩
    · intro earlier member
      cases List.mem_singleton.mp member
      refine ⟨⟨some ⟨"number", "digits are wanted"⟩, []⟩, ?_⟩
      rw [Validation.judgement, Validation.judgeField_text number]
      rfl
    · rw [Validation.judgement, Validation.judgeField_text nope]
      rfl
  have rendered : ¬ Validation.UnrenderedAmong registry record
      (Validation.heldFields record broken.entries) unknown := by
    rintro ⟨before, held, after, split, -, clauses, read, earlier, clause, later, rfl, -, rule,
      known, -, unrendered⟩
    have heldMember : held ∈ Validation.heldFields record broken.entries := by
      simp [split]
    have clauseMember : clause ∈ earlier ++ clause :: later := by
      simp
    rcases List.mem_cons.mp heldMember with rfl | last
    · rw [Expression.readValue, number] at read
      rw [← Except.ok.inj read] at clauseMember
      cases List.mem_singleton.mp clauseMember
      cases unrendered
    · cases List.mem_singleton.mp last
      rw [Expression.readValue, nope] at read
      rw [← Except.ok.inj read] at clauseMember
      cases List.mem_singleton.mp clauseMember
      cases known
  obtain ⟨sameVerdict, -⟩ := verdict_survives_unrelated_changes present reached
    (unrelated readable List.mem_cons_self)
  obtain ⟨-, fails⟩ := verdict_survives_unrelated_changes present reached
    (unrelated broken (by simp))
  obtain ⟨reason, failedLater, -⟩ := fails unknown failed rendered
  exact ⟨present, unrelated, grown, reached, _, _, reason, before, after, rfl, rfl,
    sameVerdict _ _ before after, failed, rendered, failedLater⟩

end Session

end FormCheck
