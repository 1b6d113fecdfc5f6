import FormCheck.Host.Plain
import FormCheck.Proofs.StoredRun

/-!
# Isolation of registries

A change of one registry leaves alone what another registry hands out.  What the other registry
renders may change all the same, but only in one way: it was given the message for comparing
fields that the current registry had handed out, and the current registry is given a label.

A validator that was made with messages has a registry of its own, so it sees no later change
but one of labels that such a message looks up.  One that was made without messages sees its
registry as it is.
-/

namespace FormCheck.StoredSession

open Storage (tableAt)

variable {stored : StoredSession}

/-! ## What is seen of a session -/

namespace Proper

/-- Labels change only where one is set. -/
theorem labels_perform (proper : stored.Proper) {change : Change} {number : Nat}
    (there : number < stored.storage.size)
    (kept : change.SetsLabel → stored.currentRegistry ≠ .at number) :
    tableAt (stored.perform change).storage.labels number =
      tableAt stored.storage.labels number := by
  have written := congrArg Tables.labels (proper.tables_perform change ⟨number, there, rfl⟩)
  refine written.trans ?_
  cases offered : stored.addition? change with
  | none =>
      rfl
  | some addition =>
      dsimp only
      split
      · next here =>
        cases change with
        | register name predicate? offer looksAtRecord =>
            exact Tables.labels_add_of_ofRule? offered _
        | setMessage rule offer =>
            exact Tables.labels_add_of_ofMessage? offered _
        | setLabel field label =>
            exact absurd here.symm (kept trivial)
        | copy | select | keepValidator =>
            cases offered
      · rfl

variable [Host]

/-- Another registry renders a message as before, unless it is the one for comparing fields
that the current registry handed out, and the current registry is given a label. -/
theorem rendered_perform (proper : stored.Proper) {change : Change} {registry : StoredRegistry}
    (whole : stored.Whole registry) (other : registry ≠ stored.currentRegistry) {name : String}
    (apart : change.SetsLabel →
      stored.storage.messageFor registry name ≠ .builtIn .equals stored.currentRegistry.labels) :
    ((stored.perform change).storage.answers registry).rendered name =
      (stored.storage.answers registry).rendered name := by
  have holdings := Storage.holdings_eq (proper.tables_perform_other change whole other)
  have message : (stored.perform change).storage.messageFor registry name =
      stored.storage.messageFor registry name :=
    congrFun (congrArg Storage.Holdings.message holdings) name
  obtain ⟨number, there, rfl⟩ := whole
  rw [Storage.rendered_eq, Storage.rendered_eq, message]
  refine congrArg (Message.render name) (Storage.wording_eq fun labels handedOut => ?_)
  refine proper.labels_perform (proper.anchored.messageFor there handedOut) fun sets here => ?_
  exact apart sets (by rw [handedOut, here]; rfl)

/-- A change that adds nothing is not seen in any registry. -/
theorem answers_perform (proper : stored.Proper) {change : Change}
    (addsNothing : stored.addition? change = none) {registry : StoredRegistry}
    (whole : stored.Whole registry) :
    (stored.perform change).storage.answers registry = stored.storage.answers registry := by
  have same := proper.tables_perform change whole
  rw [addsNothing] at same
  obtain ⟨number, there, rfl⟩ := whole
  rw [Storage.answers_at, Storage.answers_at]
  refine congrArg Registry.answers (Storage.registry_eq same fun labels looks => ?_)
  refine proper.labels_perform (proper.anchored number there labels looks) fun sets => ?_
  cases change <;> cases sets
  cases addsNothing

/-- A copy begins with the answers of the current registry. -/
theorem answers_copy (proper : stored.Proper) :
    (stored.perform .copy).storage.answers (.at stored.storage.size) =
      stored.storage.answers stored.currentRegistry := by
  have copied : (stored.perform .copy).storage.tables (.at stored.storage.size) =
      stored.storage.tables stored.currentRegistry := proper.tables_copy_current
  obtain ⟨number, there, same, -⟩ := proper.currentRegistry_eq
  rw [same] at copied ⊢
  rw [Storage.answers_at, Storage.answers_at]
  refine congrArg Registry.answers (Storage.registry_eq copied fun labels looks => ?_)
  exact proper.labels_perform (proper.anchored number there labels looks) nofun

end Proper

section Seen

variable [Host] {session : Session}

/-- What the registry with an index answers. -/
def answers? (stored : StoredSession) (index : Nat) : Option Registry.Answers :=
  stored.registries[index]?.map stored.storage.answers

/-- Validate with one of the validators that were made. -/
def validateWith? (stored : StoredSession) (index : Nat) (record rules : Table Value) :
    Option (Traced Event Report) :=
  stored.validators[index]?.map fun validator =>
    Validation.validate (stored.storage.registry validator) record rules

/-- Validate with the validator that was made last, or else with the current registry. -/
def validate (stored : StoredSession) (record rules : Table Value) : Traced Event Report :=
  let registry := stored.validators.getLast?.getD stored.currentRegistry
  Validation.validate (stored.storage.registry registry) record rules

namespace Represents

theorem answers?_eq (represents : stored.Represents session) (index : Nat) :
    stored.answers? index = session.registries[index]?.map Registry.answers := by
  have shown := congrArg (·[index]?) represents.shown
  simp only [List.getElem?_map] at shown
  rw [answers?]
  cases found : stored.registries[index]? with
  | none =>
      rw [found] at shown
      rw [Option.map_eq_none_iff.mp shown.symm, Option.map_none, Option.map_none]
  | some registry =>
      obtain ⟨value, there, stands⟩ := represents.tables_of_getElem? found
      obtain ⟨number, -, rfl⟩ := represents.proper.whole registry (List.mem_of_getElem? found)
      rw [there, Option.map_some, Option.map_some, Storage.answers_at,
        Storage.registry_of_tables stands]

theorem validate_eq (represents : stored.Represents session) (record rules : Table Value) :
    stored.validate record rules = session.validate record rules := by
  unfold StoredSession.validate Session.validate
  cases kept : session.validator? with
  | none =>
      have stands := represents.tables_currentRegistry
      obtain ⟨number, -, same, -⟩ := represents.proper.currentRegistry_eq
      rw [represents.none_kept kept, List.getLast?_nil, Option.getD_none]
      rw [same] at stands ⊢
      dsimp only
      rw [Storage.registry_of_tables stands]
  | some validator =>
      obtain ⟨found, last, held⟩ := represents.last_kept validator kept
      simp only [last, Option.getD_some, represents.registry_of_holds held]

end Represents

namespace Proper

/-- A validator with a registry of its own validates as before, unless the labels have changed
that its messages look up. -/
theorem validateWith?_own (proper : stored.Proper) {offers : Table Offer} {own : StoredRegistry}
    (given : offers.isEmpty = false)
    (made : (stored.perform (.keepValidator offers)).validators = stored.validators ++ [own])
    {final : StoredSession} (leads : (stored.perform (.keepValidator offers)).Leads final)
    (seen : ∀ labels,
      ((stored.perform (.keepValidator offers)).storage.tables own).LooksUp labels →
        tableAt final.storage.labels labels =
          tableAt (stored.perform (.keepValidator offers)).storage.labels labels)
    (record rules : Table Value) :
    final.validateWith? stored.validators.length record rules =
      (stored.perform (.keepValidator offers)).validateWith? stored.validators.length
        record rules := by
  obtain ⟨others, grown⟩ := leads.validators_grow
  have whole := (proper.keepValidator offers).validators_whole own (by rw [made]; simp)
  have hidden : own ∉ (stored.perform (.keepValidator offers)).registries := by
    rw [registries_keepValidator]
    rw [proper.keepValidator_eq given] at made
    dsimp only at made
    split at made
    · rw [← List.singleton_inj.mp (List.append_cancel_left made)]
      exact fun member => not_whole_size stored (proper.whole _ member)
    · simp at made
  obtain ⟨-, same⟩ := leads.stays_hidden own whole hidden
  obtain ⟨number, -, rfl⟩ := whole
  have registries := Storage.registry_eq same seen
  simp [validateWith?, grown, made, registries]

/-- A validator without messages validates as the registry that it was made from does. -/
theorem validateWith?_shared (proper : stored.Proper) {offers : Table Offer}
    (none : offers.isEmpty = true) {final : StoredSession}
    (leads : (stored.perform (.keepValidator offers)).Leads final)
    (record rules : Table Value) :
    final.validateWith? stored.validators.length record rules =
      final.registries[stored.current]?.map fun registry =>
        Validation.validate (final.storage.registry registry) record rules := by
  obtain ⟨number, -, same, found⟩ := proper.currentRegistry_eq
  obtain ⟨others, grown⟩ := leads.validators_grow
  have built : (stored.perform (.keepValidator offers)).registries[stored.current]? =
      some (.at number) := by
    rw [registries_keepValidator, found]
  rw [keepValidator_of_isEmpty stored none] at grown
  simp [validateWith?, grown, leads.getElem?_registries built, same]

end Proper

/-- What registries in storage answer, over all changes, whatever messages they hand to each
other.  As long as callers make all messages, they answer as registries that are values do.

A change leaves alone what other registries hand out; what they render changes only when the
current registry is given a label, and only for a rule whose message is the one for comparing
fields that the current registry had handed out.  A copy begins with the answers of its source,
and neither a copy nor a validator changes the answers of a registry, even when a message of the
validator is refused.

A validator that was made with messages validates the same in every later state in which the
labels are the same that its messages look up.  A validator that was made without messages
validates as its registry does. -/
theorem copies_and_validators_are_isolated (base : Registry) {changes : List Change}
    (present : (start base).AllSelectPresent changes) :
    let stored := (start base).performAll changes
    (∀ plain : List Session.Change, changes = plain.map .ofSession →
      let session := (Session.start base).performAll plain
      (∀ index, stored.answers? index = session.registries[index]?.map Registry.answers) ∧
        ∀ record rules, stored.validate record rules = session.validate record rules) ∧
    (∀ change index registry, stored.registries[index]? = some registry →
      index ≠ stored.current →
        let next := stored.perform change
        next.registries[index]? = some registry ∧
          next.storage.holdings registry = stored.storage.holdings registry ∧
          ∀ name, (change.SetsLabel → stored.storage.messageFor registry name ≠
              .builtIn .equals stored.currentRegistry.labels) →
            (next.storage.answers registry).rendered name =
              (stored.storage.answers registry).rendered name) ∧
    ((stored.perform .copy).answers? stored.registries.length = stored.answers? stored.current ∧
      ∀ index < stored.registries.length,
        (stored.perform .copy).answers? index = stored.answers? index) ∧
    ∀ offers,
      let built := stored.perform (.keepValidator offers)
      (∀ index, built.answers? index = stored.answers? index) ∧
      ∀ later, built.AllSelectPresent later →
        let final := built.performAll later
        (offers.isEmpty = false → ∀ own, built.validators = stored.validators ++ [own] →
          (∀ labels, (built.storage.tables own).LooksUp labels →
            tableAt final.storage.labels labels = tableAt built.storage.labels labels) →
          ∀ record rules, final.validateWith? stored.validators.length record rules =
            built.validateWith? stored.validators.length record rules) ∧
        (offers.isEmpty = true → ∀ record rules,
          final.validateWith? stored.validators.length record rules =
            final.registries[stored.current]?.map fun registry =>
              Validation.validate (final.storage.registry registry) record rules) := by
  intro stored
  obtain ⟨proper, -⟩ := (proper_start base).performAll present
  refine ⟨?_, ?_, ⟨?_, ?_⟩, ?_⟩
  · rintro plain rfl session
    have represents := (represents_start base).performAll present
    exact ⟨represents.answers?_eq, represents.validate_eq⟩
  · intro change index registry found different next
    have whole := proper.whole registry (List.mem_of_getElem? found)
    have other := proper.ne_currentRegistry found different
    exact ⟨(proper.leads change).getElem?_registries found,
      Storage.holdings_eq (proper.tables_perform_other change whole other),
      fun name apart => proper.rendered_perform whole other apart⟩
  · obtain ⟨number, -, same, found⟩ := proper.currentRegistry_eq
    have new : (stored.perform .copy).registries[stored.registries.length]? =
        some (.at stored.storage.size) := by
      rw [proper.registries_copy, List.getElem?_concat_length]
    rw [answers?, new, answers?, found, ← same]
    exact congrArg some proper.answers_copy
  · intro index there
    have found := List.getElem?_eq_getElem there
    have whole := proper.whole _ (List.getElem_mem there)
    rw [answers?, (proper.leads .copy).getElem?_registries found, answers?, found]
    exact congrArg some (proper.answers_perform rfl whole)
  · intro offers built
    refine ⟨?_, ?_⟩
    · intro index
      rw [answers?, Proper.registries_keepValidator, answers?]
      refine Option.map_congr fun registry found => ?_
      exact proper.answers_perform rfl (proper.whole registry (List.mem_of_getElem? found))
    · intro later selects final
      obtain ⟨-, leads⟩ := (proper.keepValidator offers).performAll selects
      exact ⟨fun given own made seen => proper.validateWith?_own given made leads seen,
        fun none => proper.validateWith?_shared none leads⟩

end Seen

open scoped Host

/-- A validator keeps its message when the copy that it was made from gets another one, and it
also keeps the message that the first registry had handed over, while the copy gets a label.  A
validator without messages sees the new message. -/
theorem kept_message_outlives_changes :
    let changes : List Change :=
      [.register "even" (some (.constant false)) (.made (.value (.text "odd"))) false, .copy,
        .setMessage "equals" (.handedOver 0 "equals"), .setMessage "number" (.made (.value .null))]
    let offers : Table Offer := .ofList [("even", .made (.value (.text "kept")))]
    let later : List Change :=
      [.setMessage "even" (.made (.value (.text "new"))), .setLabel "a" (.text "A"), .select 0]
    let stored := (start .builtIn).performAll changes
    let built := stored.perform (.keepValidator offers)
    let final := built.performAll later
    let shared := (stored.perform (.keepValidator .empty)).performAll later
    ((start .builtIn).AllSelectPresent changes ∧ built.AllSelectPresent later) ∧
      stored.registries = [.at 0, .at 1] ∧
      ((stored.perform (.setLabel "a" (.text "A"))).storage.answers (.at 0)).rendered "equals" =
        (stored.storage.answers (.at 0)).rendered "equals" ∧
      (built.validators = [.at 2] ∧
        (built.storage.registry (.at 2)).messageFor "even" = .template "kept" ∧
        built.storage.messageFor (.at 2) "equals" = .builtIn .equals 0 ∧
        ∀ record rules,
          final.validateWith? 0 record rules = built.validateWith? 0 record rules) ∧
      ∃ seen : Registry, seen.messageFor "even" = .template "new" ∧ ∀ record rules,
        shared.validateWith? 0 record rules =
          some (Validation.validate seen record rules) := by
  intro changes offers later stored built final shared
  have present : (start .builtIn).AllSelectPresent changes :=
    ⟨trivial, trivial, trivial, trivial, trivial⟩
  have presentLater : built.AllSelectPresent later := ⟨trivial, trivial, Nat.zero_lt_two, trivial⟩
  obtain ⟨-, frame, -, validators⟩ := copies_and_validators_are_isolated .builtIn present
  -- The message that was handed over looks labels up under the number of the first registry.
  have looksUpFirst : ∀ labels, (built.storage.tables (.at 2)).LooksUp labels → labels = 0 := by
    intro labels looks
    have messages : (built.storage.tables (.at 2)).messages.entries =
        [("equals", .builtIn .equals 0), ("even", .made (.template "kept"))] := rfl
    have rules : (built.storage.tables (.at 2)).rules.entries =
        [("even", ⟨"even", .constant false, some (.made (.template "odd")), false⟩)] := rfl
    cases looks with
    | set found =>
        rw [Table.get?_eq_some_iff, messages] at found
        simp only [List.mem_cons, Prod.mk.injEq, StoredMessage.builtIn.injEq, reduceCtorEq,
          and_false, List.not_mem_nil, or_false, true_and] at found
        exact found.2
    | own added came =>
        rw [Table.get?_eq_some_iff, rules] at added
        simp only [List.mem_singleton, Prod.mk.injEq] at added
        rw [added.2] at came
        cases came
  refine ⟨⟨present, presentLater⟩, rfl, ?_, ⟨rfl, rfl, rfl, ?_⟩,
    shared.storage.registry (.at 1), rfl, ?_⟩
  · exact (frame (.setLabel "a" (.text "A")) 0 (.at 0) rfl Nat.zero_ne_one).2.2 "equals" nofun
  · refine ((validators offers).2 later presentLater).1 rfl (.at 2) rfl ?_
    intro labels looks
    rw [looksUpFirst labels looks]
    rfl
  · exact ((validators .empty).2 later presentLater).2 rfl

/-- The message for comparing fields that the first registry handed over to its copy shows the
label that the first registry is given, in the copy and in a validator that was made with it. -/
theorem handed_over_message_follows_its_labels :
    let stored := (start .builtIn).performAll
      [.copy, .keepValidator (.ofList [("equals", .handedOver 0 "equals")]),
        .setMessage "equals" (.handedOver 0 "equals"), .select 0]
    let next := stored.perform (.setLabel "a" (.text "A"))
    let errorIn (session : StoredSession) : Option String :=
      (session.validateWith? 0 (.ofList [("a", .null), ("b", .text "")])
        (.ofList [("b", .text "equals:a")])).bind fun traced =>
          (traced.outcome.toOption.bind (·.errorFor? "b")).map FieldError.message
    stored.registries = [.at 0, .at 1] ∧ stored.current = 0 ∧
      (stored.storage.answers (.at 1)).rendered "equals" .null ["a"] =
        .ok "This field must match a" ∧
      (next.storage.answers (.at 1)).rendered "equals" .null ["a"] =
        .ok "This field must match A" ∧
      errorIn stored = some "This field must match a" ∧
      errorIn next = some "This field must match A" := by
  intro stored next errorIn
  refine ⟨rfl, rfl, rfl, rfl, ?_, ?_⟩ <;> decide +kernel

end FormCheck.StoredSession
