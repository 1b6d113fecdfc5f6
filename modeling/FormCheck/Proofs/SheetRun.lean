import FormCheck.Proofs.RoundTrip
import FormCheck.RuleSheet

/-!
# Runs of rule sheets

A rule sheet keeps the texts of clauses, so what it was asked for is only seen when the
expressions that it gives in the end are read.  They read as exactly what was asked for when
the parts of all clauses that were put together can be written, and otherwise they never do:
nothing but clean clauses is ever read.

A call that fails leaves the sheet as it was, and does not count.
-/

namespace FormCheck

/-- The name and the arguments of a clause. -/
def Clause.parts (clause : Clause) : String × List String :=
  (clause.name, clause.arguments)

namespace RuleSheet

/-- What may be asked of a sheet. -/
inductive Call where
  | add (field : String) (expression : Value)
  | rule (field name : String) (arguments : List Value)
  | required (field : String)

/-- The arguments of a clause that values stand for. -/
def argumentTexts (arguments : List Value) : List String :=
  arguments.map fun argument => String.ofList argument.display

namespace Call

/-- The field that a call is about. -/
def field : Call → String
  | .add field _ => field
  | .rule field _ _ => field
  | .required field => field

/-- The names and the arguments of the clauses that a call asks for, or why it fails. -/
def asks : Call → Except Failure (List (String × List String))
  | .add _ expression =>
      (Expression.readValue expression).map fun clauses => clauses.map Clause.parts
  | .rule _ name arguments => .ok [(name, argumentTexts arguments)]
  | .required _ => .ok [("required", [])]

/-- The texts of clauses that a sheet keeps of a call. -/
def texts : Call → Except Failure (List String)
  | .add _ expression =>
      (Expression.readValue expression).map fun clauses => clauses.map Clause.written
  | .rule _ name arguments => .ok [clauseText name arguments]
  | .required _ => .ok [clauseText "required" []]

end Call

/-- What a sheet answers to a call. -/
def answer (sheet : RuleSheet) : Call → Except Failure RuleSheet
  | .add field expression => sheet.add field expression
  | .rule field name arguments => .ok (sheet.rule field name arguments)
  | .required field => .ok (sheet.required field)

/-- A call that fails leaves the sheet as it was. -/
def perform (sheet : RuleSheet) (call : Call) : RuleSheet :=
  match sheet.answer call with
  | .ok changed => changed
  | .error _ => sheet

def performAll (sheet : RuleSheet) (calls : List Call) : RuleSheet :=
  calls.foldl perform sheet

/-- The fields of the calls that do not fail, in the order of the calls. -/
def mentioned (calls : List Call) : List String :=
  (calls.filter fun call => call.asks.isOk).map Call.field

/-- What the calls for a field come to, in order; calls that fail come to nothing. -/
def collected {α : Type} (part : Call → Except Failure (List α)) (field : String)
    (calls : List Call) : List α :=
  calls.flatMap fun call => if call.field = field then (part call).toOption.getD [] else []

/-- A clause with this name and these arguments is read back as it is written. -/
def Writable (name : String) (arguments : List String) : Prop :=
  ∃ named : name ≠ "", (⟨name, arguments, named⟩ : Clause).Clean

/-! ## One call -/

theorem answer_eq (sheet : RuleSheet) (call : Call) :
    sheet.answer call = call.texts.map fun texts => sheet.append call.field texts := by
  cases call with
  | add field expression =>
      simp only [answer, add, Call.texts, Call.field]
      cases Expression.readValue expression <;> rfl
  | rule field name arguments =>
      rfl
  | required field =>
      rfl

theorem asks_eq_error_iff {call : Call} {failure : Failure} :
    call.asks = .error failure ↔ call.texts = .error failure := by
  cases call with
  | add field expression =>
      rw [Call.asks, Call.texts, map_eq_error_iff, map_eq_error_iff]
  | rule field name arguments =>
      simp [Call.asks, Call.texts]
  | required field =>
      simp [Call.asks, Call.texts]

theorem isOk_asks (call : Call) : call.asks.isOk = call.texts.isOk := by
  cases kind : call.texts with
  | error failure =>
      rw [asks_eq_error_iff.mpr kind]
      rfl
  | ok texts =>
      cases asked : call.asks with
      | error failure =>
          rw [asks_eq_error_iff.mp asked] at kind
          cases kind
      | ok parts =>
          rfl

theorem perform_eq (sheet : RuleSheet) (call : Call) :
    sheet.perform call =
      match call.texts with
      | .ok texts => sheet.append call.field texts
      | .error _ => sheet := by
  rw [perform, answer_eq]
  cases call.texts <;> rfl

/-! ## A run of calls -/

/-- The sheet keeps the texts of the calls for a field, in order. -/
theorem kept_performAll (sheet : RuleSheet) (calls : List Call) (field : String) :
    ((sheet.performAll calls).fields.get? field).getD [] =
      (sheet.fields.get? field).getD [] ++ collected Call.texts field calls := by
  induction calls generalizing sheet with
  | nil =>
      simp [performAll, collected]
  | cons call rest inductionHypothesis =>
      have step : sheet.performAll (call :: rest) = (sheet.perform call).performAll rest := rfl
      rw [step, inductionHypothesis, perform_eq]
      cases kind : call.texts with
      | error failure =>
          simp [collected, kind, Except.toOption]
      | ok texts =>
          by_cases same : call.field = field
          · simp [append, Table.get?_insert, same, collected, kind, Except.toOption]
          · simp [append, Table.get?_insert, same, collected]

/-- The fields of a sheet follow one another as if each were marked when it is mentioned. -/
theorem keys_performAll {sheet : RuleSheet} {marks : Table Unit}
    (same : sheet.fields.keys = marks.keys) (calls : List Call) :
    (sheet.performAll calls).fields.keys =
      (marks.insertAll ((mentioned calls).map fun field => (field, ()))).keys := by
  induction calls generalizing sheet marks with
  | nil =>
      exact same
  | cons call rest inductionHypothesis =>
      have step : sheet.performAll (call :: rest) = (sheet.perform call).performAll rest := rfl
      rw [step, perform_eq]
      cases kind : call.texts with
      | error failure =>
          have fails : call.asks.isOk = false := by
            rw [isOk_asks, kind]
            rfl
          have skipped : mentioned (call :: rest) = mentioned rest := by
            simp [mentioned, fails]
          rw [skipped]
          exact inductionHypothesis same
      | ok texts =>
          have succeeds : call.asks.isOk = true := by
            rw [isOk_asks, kind]
            rfl
          have named : mentioned (call :: rest) = call.field :: mentioned rest := by
            simp [mentioned, succeeds]
          have sameMarked : (sheet.append call.field texts).fields.keys =
              (marks.insert call.field ()).keys := by
            rw [append, Table.keys_insert, Table.keys_insert, same]
          rw [named]
          exact inductionHypothesis sameMarked

/-! ## Clauses that can be written -/

theorem clauseText_eq_written {name : String} (named : name ≠ "") (arguments : List Value) :
    clauseText name arguments = Clause.written ⟨name, argumentTexts arguments, named⟩ := by
  unfold clauseText Clause.written argumentTexts
  cases arguments with
  | nil =>
      rfl
  | cons first rest =>
      simp [Function.comp_def]

theorem writable_required : Writable "required" [] := by
  have accepted : Expression.read "required" = .ok [⟨"required", [], by decide⟩] := rfl
  exact ⟨by decide, Expression.clean_of_read accepted _ List.mem_cons_self⟩

theorem clean_of_readValue {expression : Value} {clauses : List Clause}
    (accepted : Expression.readValue expression = .ok clauses) :
    ∀ clause ∈ clauses, clause.Clean := by
  unfold Expression.readValue at accepted
  split at accepted
  · next characters =>
    cases read : Expression.read characters with
    | error mistake =>
        rw [read] at accepted
        cases accepted
    | ok others =>
        rw [read] at accepted
        cases accepted
        exact Expression.clean_of_read read
  · split at accepted
    · cases accepted
      simp
    · cases accepted

/-- A clause that the call puts together, if it does, can be written. -/
def Call.Sound : Call → Prop
  | .rule _ name arguments => Writable name (argumentTexts arguments)
  | _ => True

/-- Clean clauses are what a sound call asks for and what the sheet keeps of it. -/
theorem Call.exists_clauses {call : Call} (sound : call.Sound) :
    ∃ clauses : List Clause, (∀ clause ∈ clauses, clause.Clean) ∧
      call.texts.toOption.getD [] = clauses.map Clause.written ∧
      call.asks.toOption.getD [] = clauses.map Clause.parts := by
  cases call with
  | add field expression =>
      cases read : Expression.readValue expression with
      | error failure =>
          exact ⟨[], by simp, by simp [texts, read, Except.map, Except.toOption],
            by simp [asks, read, Except.map, Except.toOption]⟩
      | ok clauses =>
          exact ⟨clauses, clean_of_readValue read,
            by simp [texts, read, Except.map, Except.toOption],
            by simp [asks, read, Except.map, Except.toOption]⟩
  | rule field name arguments =>
      obtain ⟨named, clean⟩ := sound
      have written := clauseText_eq_written named arguments
      exact ⟨[⟨name, argumentTexts arguments, named⟩], by simpa using clean,
        congrArg (fun text => [text]) written, rfl⟩
  | required field =>
      obtain ⟨named, clean⟩ := writable_required
      exact ⟨[⟨"required", [], named⟩], by simpa using clean, rfl, rfl⟩

/-- Clean clauses are what sound calls ask for a field and what the sheet keeps for it. -/
theorem exists_clauses_of_sound {field : String} {calls : List Call}
    (sound : ∀ call ∈ calls, call.field = field → call.Sound) :
    ∃ clauses : List Clause, (∀ clause ∈ clauses, clause.Clean) ∧
      collected Call.texts field calls = clauses.map Clause.written ∧
      collected Call.asks field calls = clauses.map Clause.parts := by
  induction calls with
  | nil =>
      exact ⟨[], by simp, rfl, rfl⟩
  | cons call rest inductionHypothesis =>
      obtain ⟨ofCall, ofRest⟩ := List.forall_mem_cons.mp sound
      obtain ⟨later, laterClean, laterTexts, laterAsks⟩ := inductionHypothesis ofRest
      simp only [collected, List.flatMap_cons] at laterTexts laterAsks ⊢
      by_cases same : call.field = field
      · obtain ⟨first, firstClean, firstTexts, firstAsks⟩ := Call.exists_clauses (ofCall same)
        refine ⟨first ++ later, ?_, ?_, ?_⟩
        · intro clause member
          exact (List.mem_append.mp member).elim (firstClean clause) (laterClean clause)
        · rw [if_pos same, firstTexts, laterTexts, List.map_append]
        · rw [if_pos same, firstAsks, laterAsks, List.map_append]
      · refine ⟨later, laterClean, ?_, ?_⟩
        · rw [if_neg same, laterTexts, List.nil_append]
        · rw [if_neg same, laterAsks, List.nil_append]

/-! ## Reading what was built -/

theorem text_of_build {calls : List Call} {field text : String}
    (built : (empty.performAll calls).build.get? field = some text) :
    text = String.ofList
      (Text.join '|' ((collected Call.texts field calls).map String.toList)) := by
  rw [build, Table.get?_map] at built
  obtain ⟨texts, held, rfl⟩ := Option.map_eq_some_iff.mp built
  have kept := kept_performAll empty calls field
  rw [held] at kept
  have texts_eq : texts = collected Call.texts field calls := kept
  rw [texts_eq]

/-- A sheet lists the fields of the calls that succeed in the order in which they are first
mentioned.  The expression of a field reads as exactly what the calls ask for this field, in
their order, when every name and all arguments that were given for a clause of the field can
be written; otherwise it cannot be read, or reads as something else. -/
theorem built_expressions_read_as_asked (calls : List Call) :
    let sheet := empty.performAll calls
    (∀ call failure, call.asks = .error failure →
      sheet.answer call = .error failure ∧ sheet.perform call = sheet) ∧
    sheet.build.keys = (mentioned calls).eraseDups ∧
    ∀ field text, sheet.build.get? field = some text →
      ((∃ clauses, Expression.read text = .ok clauses ∧
          clauses.map Clause.parts = collected Call.asks field calls) ↔
        ∀ name arguments, .rule field name arguments ∈ calls →
          Writable name (argumentTexts arguments)) := by
  intro sheet
  refine ⟨?_, ?_, ?_⟩
  · intro call failure fails
    have kind := asks_eq_error_iff.mp fails
    constructor
    · rw [answer_eq, kind]
      rfl
    · rw [perform_eq, kind]
  · have unmarked : empty.fields.keys = (Table.empty : Table Unit).keys := rfl
    rw [build, Table.keys_map, keys_performAll unmarked, Table.keys_insertAll]
    simp [Table.keys, Table.empty, List.removeAll, Function.comp_def]
  · intro field text built
    have same := text_of_build built
    constructor
    · rintro ⟨clauses, accepted, parts⟩ name arguments member
      have asked : (name, argumentTexts arguments) ∈ collected Call.asks field calls := by
        refine List.mem_flatMap.mpr ⟨_, member, ?_⟩
        simp [Call.field, Call.asks, Except.toOption]
      rw [← parts] at asked
      obtain ⟨clause, inClauses, ofClause⟩ := List.mem_map.mp asked
      obtain ⟨clauseName, clauseArguments, named⟩ := clause
      cases ofClause
      exact ⟨named, Expression.clean_of_read accepted _ inClauses⟩
    · intro writable
      have sound : ∀ call ∈ calls, call.field = field → call.Sound := by
        intro call member isField
        cases call with
        | rule other name arguments =>
            cases isField
            exact writable name arguments member
        | _ =>
            trivial
      obtain ⟨clauses, clean, texts, asks⟩ := exists_clauses_of_sound sound
      have written : text = Expression.written clauses := by
        rw [same, texts, Expression.written, List.map_map]
        rfl
      exact ⟨clauses, written ▸ Expression.read_written clean, asks.symm⟩

/-- A call that fails is not mentioned, a whole number is an argument like a text, and a name
with a bar in it is read as two. -/
theorem barred_name_is_read_as_two :
    let calls : List Call :=
      [.rule "a" "min" [.integer 6], .add "b" (.text ":"), .required "c",
        .add "a" (.text " string | "), .rule "c" "x|y" []]
    let sheet := empty.performAll calls
    sheet.build.keys = ["a", "c"] ∧
      sheet.perform (.add "b" (.text ":")) = sheet ∧
      sheet.build.get? "a" = some "min:6|string" ∧
      (∃ clauses, Expression.read "min:6|string" = .ok clauses ∧
        clauses.map Clause.parts = [("min", ["6"]), ("string", [])]) ∧
      sheet.build.get? "c" = some "required|x|y" ∧
      ¬ ∃ clauses, Expression.read "required|x|y" = .ok clauses ∧
        clauses.map Clause.parts = [("required", []), ("x|y", [])] := by
  intro calls sheet
  obtain ⟨refused, keys, reads⟩ := built_expressions_read_as_asked calls
  have builtA : sheet.build.get? "a" = some "min:6|string" := by decide
  have builtC : sheet.build.get? "c" = some "required|x|y" := by decide
  have unnamed : (Call.add "b" (.text ":")).asks = .error (.mistake (.unnamedClause ":")) := rfl
  have minRead : Expression.read "min:6" = .ok [⟨"min", ["6"], by decide⟩] := rfl
  have writableMin : Writable "min" (argumentTexts [.integer 6]) :=
    ⟨by decide, Expression.clean_of_read minRead _ List.mem_cons_self⟩
  refine ⟨?_, (refused _ _ unnamed).2, builtA, ?_, builtC, ?_⟩
  · rw [keys]
    decide
  · refine (reads "a" _ builtA).mpr ?_
    intro name arguments member
    obtain ⟨rfl, rfl⟩ : name = "min" ∧ arguments = [.integer 6] := by
      simpa [calls] using member
    exact writableMin
  · intro asAsked
    obtain ⟨_, clean⟩ := (reads "c" _ builtC).mp asAsked "x|y" [] (by simp [calls])
    have barred : '|' ∈ "x|y".toList := by decide
    exact clean.name_unbarred barred

end RuleSheet

end FormCheck
