import FormCheck.Host.Plain
import FormCheck.Proofs.Storage
import FormCheck.RulesFile

/-!
# Labels in messages

The message of the rule that compares fields names the other field by its label.  It looks the
label up for itself: when a registry is constructed, the message is composed over a view of two
tables, the labels of the registry in front of the common ones.  Asking the registry for a label
is another lookup, in the table of labels and then among the common labels.

The two stay in step through all changes, since changes are made in place in the very table
that the message was composed over, and since a copy composes its message over a table of its
own.
-/

namespace FormCheck

/-! ## Plain tables -/

/-- A rule that takes no name of a built-in one, any message, or a label that is a text. -/
def StoredAddition.Plain : StoredAddition → Prop
  | .rule definition => BuiltIn.ofName? definition.name = none
  | .message _ _ => True
  | .label _ words => ∃ text, words = .text text

theorem StoredAddition.plain_of_ofRule? {name : String} {predicate? : Option Predicate}
    {offer : StoredOffer} {looksAtRecord : Bool} {addition : StoredAddition}
    (offered : ofRule? name predicate? offer looksAtRecord = some addition) :
    addition.Plain := by
  unfold ofRule? at offered
  split at offered
  · cases offered
  · next free =>
    split at offered
    · cases offered
      exact Option.not_isSome_iff_eq_none.mp free
    · cases offered

theorem StoredAddition.plain_of_ofMessage? {name : String} {offer : StoredOffer}
    {addition : StoredAddition} (offered : ofMessage? name offer = some addition) :
    addition.Plain := by
  unfold ofMessage? at offered
  split at offered
  · cases offered
    trivial
  · cases offered

namespace Tables

/-- The built-in rules are what they are, and all labels are texts. -/
structure Plain (tables : Tables) : Prop where
  builtIn_kept : ∀ rule : BuiltIn, tables.rules.get? rule.name = none
  labels_text : tables.labels.All fun label => ∃ text, label = .text text

theorem Plain.add {tables : Tables} (plain : tables.Plain) {addition : StoredAddition}
    (added : addition.Plain) : (tables.add addition).Plain := by
  obtain ⟨builtIn, texts⟩ := plain
  cases addition with
  | rule definition =>
      refine ⟨fun rule => ?_, texts⟩
      have different : definition.name ≠ rule.name := by
        intro same
        rw [StoredAddition.Plain, same, BuiltIn.ofName?_name] at added
        cases added
      simp only [Tables.add, Table.get?_insert, if_neg different, builtIn rule]
  | message rule words =>
      exact ⟨builtIn, texts⟩
  | label field words =>
      exact ⟨builtIn, texts.insert field added⟩

end Tables

namespace Registry

/-! ## Additions of one kind -/

theorem after_messages (registry : Registry) (entries : List (String × Message)) :
    registry.after (entries.map fun entry => .message entry.1 entry.2) =
      { registry with messages := registry.messages.insertAll entries } := by
  have noRules : rulesIn (entries.map fun entry => .message entry.1 entry.2) = [] := by
    simp [rulesIn, Addition.rule?]
  have noLabels : labelsIn (entries.map fun entry => .message entry.1 entry.2) = [] := by
    simp [labelsIn, Addition.label?]
  have all : messagesIn (entries.map fun entry => .message entry.1 entry.2) =
      entries := by
    simp [messagesIn, List.filterMap_map, Function.comp_def, Addition.message?]
  rw [after_eq, noRules, noLabels, all]
  rfl

theorem after_labels (registry : Registry) (entries : List (String × Value)) :
    registry.after (entries.map fun entry => .label entry.1 entry.2) =
      { registry with labels := registry.labels.insertAll entries } := by
  have noRules : rulesIn (entries.map fun entry => .label entry.1 entry.2) = [] := by
    simp [rulesIn, Addition.rule?]
  have noMessages : messagesIn (entries.map fun entry => .label entry.1 entry.2) = [] := by
    simp [messagesIn, Addition.message?]
  have all : labelsIn (entries.map fun entry => .label entry.1 entry.2) = entries := by
    simp [labelsIn, List.filterMap_map, Function.comp_def, Addition.label?]
  rw [after_eq, noRules, noMessages, all]
  rfl

end Registry

/-! ## What a rules file adds -/

namespace RulesFile

open Registry (Addition)

/-- What a rules file adds to a registry, one after another.  Messages are read before anything
is added, and labels before one of them is. -/
def additions (file : RulesFile) : List Addition :=
  match file.messages with
  | .error _ => []
  | .ok messages =>
      (messages.map Message.template).entries.map (fun entry => .message entry.1 entry.2) ++
        match file.labels with
        | .error _ => []
        | .ok labels => (labels.map Value.text).entries.map fun entry => .label entry.1 entry.2

/-- Adding what a file says to a registry applies the file to it. -/
theorem after_additions (file : RulesFile) (registry : Registry) :
    registry.after file.additions = (file.applyTo registry).1 := by
  unfold additions applyTo
  cases file.messages with
  | error failure =>
      rfl
  | ok messages =>
      simp only [Registry.after_append, Registry.after_messages]
      cases file.labels with
      | error failure =>
          rfl
      | ok labels =>
          simp only [Registry.after_labels]
          rfl

theorem plain_additions (file : RulesFile) :
    ∀ addition ∈ file.additions, (StoredAddition.ofAddition addition).Plain := by
  intro addition member
  unfold additions at member
  cases messages : file.messages with
  | error failure =>
      simp [messages] at member
  | ok texts =>
      simp only [messages] at member
      rcases List.mem_append.mp member with inMessages | inLabels
      · obtain ⟨entry, -, rfl⟩ := List.mem_map.mp inMessages
        trivial
      · cases labels : file.labels with
        | error failure =>
            simp [labels] at inLabels
        | ok named =>
            simp only [labels] at inLabels
            obtain ⟨entry, inTable, rfl⟩ := List.mem_map.mp inLabels
            obtain ⟨original, -, rfl⟩ := List.mem_map.mp inTable
            exact ⟨original.2, rfl⟩

end RulesFile

namespace Storage

open Registry (Addition)

/-! ## Changes in place -/

/-- Add to a registry what a rules file says, one after another. -/
def applyFile (storage : Storage) (stored : StoredRegistry) (file : RulesFile) : Storage :=
  file.additions.foldl (fun changed addition => changed.add stored (.ofAddition addition)) storage

/-- Construct a registry with messages and labels, unless a message is refused. -/
def construct (storage : Storage) (messages : Table StoredOffer) (labels : Table Value) :
    Storage × Option StoredRegistry :=
  let (extended, created) := storage.create labels
  let (changed, allSet) := extended.setMessages created messages.entries
  (changed, if allSet then some created else none)

variable {storage : Storage} {registries : List StoredRegistry} {number : Nat}

/-- A registry that is given what a file says is the one that the file is applied to. -/
theorem tables_applyFile (even : storage.Even) (there : number < storage.size)
    {registry : Registry} (stands : storage.tables (.at number) = .ofRegistry registry)
    (file : RulesFile) :
    (storage.applyFile (.at number) file).tables (.at number) =
      .ofRegistry (file.applyTo registry).1 := by
  rw [← RulesFile.after_additions, applyFile]
  induction file.additions generalizing storage registry with
  | nil =>
      exact stands
  | cons addition rest inductionHypothesis =>
      have next : (storage.add (.at number) (.ofAddition addition)).tables (.at number) =
          .ofRegistry (registry.add addition) := by
        rw [tables_add_self even there, stands, Tables.ofRegistry_add]
      exact inductionHypothesis (even.add _ _) ((size_add storage _ _).symm ▸ there) next

/-- A registry is constructed in storage as one is created, or neither is. -/
theorem construct_eq (even : storage.Even) (messages : Table MessageOffer)
    (labels : Table Value) :
    let constructed := storage.construct (messages.map .made) labels
    match Registry.create messages labels with
    | .ok registry => ∃ created, constructed.2 = some created ∧
        constructed.1.tables created = .ofRegistry registry
    | .error _ => constructed.2 = none := by
  have there : storage.size < (storage.create labels).1.size := by
    rw [size_create]
    exact Nat.lt_succ_self _
  have begins : (storage.create labels).1.tables (.at storage.size) =
      .ofRegistry (.labelled labels) := by
    rw [← create_at even labels, tables_create_new]
    rfl
  have ended := setMessages_made (even.create labels) there begins messages.entries
  have whole : Registry.create messages labels =
      ((Registry.labelled labels).setMessages messages.entries).2.map fun _ =>
        ((Registry.labelled labels).setMessages messages.entries).1 := rfl
  have entries : (messages.map StoredOffer.made).entries =
      messages.entries.map fun entry => (entry.1, .made entry.2) := rfl
  simp only [whole, construct, create_at even, entries]
  rcases set : (Registry.labelled labels).setMessages messages.entries with ⟨registry, outcome⟩
  simp only [set] at ended
  cases outcome with
  | error mistake =>
      exact if_neg (by simp [ended])
  | ok =>
      exact ⟨.at storage.size, if_pos ended.1, ended.2⟩

/-! ## Every registry that is reached -/

/-- Registries in storage that are constructed, changed and copied, one step after another and
in any order.  Labels are texts, and what is refused changes nothing. -/
inductive Reaches : Storage → List StoredRegistry → Prop where
  | empty : Reaches ⟨[], [], []⟩ []
  | constructed {storage : Storage} {registries : List StoredRegistry}
      (reached : Reaches storage registries) (messages : Table StoredOffer)
      {labels : Table Value} (texts : labels.All fun label => ∃ text, label = .text text) :
      Reaches (storage.construct messages labels).1
        (registries ++ (storage.construct messages labels).2.toList)
  | registered {storage : Storage} {registries : List StoredRegistry}
      (reached : Reaches storage registries) {stored : StoredRegistry}
      (member : stored ∈ registries) {name : String} {predicate? : Option Predicate}
      {offer : StoredOffer} {looksAtRecord : Bool} {addition : StoredAddition}
      (offered : StoredAddition.ofRule? name predicate? offer looksAtRecord = some addition) :
      Reaches (storage.add stored addition) registries
  | messageSet {storage : Storage} {registries : List StoredRegistry}
      (reached : Reaches storage registries) {stored : StoredRegistry}
      (member : stored ∈ registries) {rule : String} {offer : StoredOffer}
      {addition : StoredAddition}
      (offered : StoredAddition.ofMessage? rule offer = some addition) :
      Reaches (storage.add stored addition) registries
  | labelSet {storage : Storage} {registries : List StoredRegistry}
      (reached : Reaches storage registries) {stored : StoredRegistry}
      (member : stored ∈ registries) (field label : String) :
      Reaches (storage.add stored (.label field (.text label))) registries
  | fileApplied {storage : Storage} {registries : List StoredRegistry}
      (reached : Reaches storage registries) {stored : StoredRegistry}
      (member : stored ∈ registries) (file : RulesFile) :
      Reaches (storage.applyFile stored file) registries
  | copied {storage : Storage} {registries : List StoredRegistry}
      (reached : Reaches storage registries) {stored : StoredRegistry}
      (member : stored ∈ registries) :
      Reaches (storage.copy stored).1 (registries ++ [(storage.copy stored).2])

/-- Every registry has tables of its own, over which its message was composed, and is plain. -/
structure Orderly (storage : Storage) (registries : List StoredRegistry) : Prop where
  even : storage.Even
  whole : ∀ stored ∈ registries, ∃ number < storage.size, stored = .at number
  plain : ∀ stored ∈ registries, (storage.tables stored).Plain

namespace Orderly

variable {stored : StoredRegistry}

theorem subset (orderly : storage.Orderly registries) {fewer : List StoredRegistry}
    (present : ∀ stored ∈ fewer, stored ∈ registries) : storage.Orderly fewer where
  even := orderly.even
  whole stored member := orderly.whole stored (present stored member)
  plain stored member := orderly.plain stored (present stored member)

/-- What is added to a registry reaches this registry alone, and leaves it plain. -/
theorem add (orderly : storage.Orderly registries) (member : stored ∈ registries)
    {addition : StoredAddition} (added : addition.Plain) :
    (storage.add stored addition).Orderly registries where
  even := orderly.even.add stored addition
  whole other present := by
    rw [size_add]
    exact orderly.whole other present
  plain other present := by
    obtain ⟨number, there, rfl⟩ := orderly.whole stored member
    obtain ⟨otherNumber, -, rfl⟩ := orderly.whole other present
    by_cases same : otherNumber = number
    · rw [same, tables_add_self orderly.even there]
      exact (orderly.plain _ member).add added
    · rw [tables_add_other same]
      exact orderly.plain _ present

theorem applyFile (orderly : storage.Orderly registries) (member : stored ∈ registries)
    (file : RulesFile) : (storage.applyFile stored file).Orderly registries := by
  have allPlain := file.plain_additions
  unfold Storage.applyFile
  generalize file.additions = additions at allPlain ⊢
  induction additions generalizing storage with
  | nil =>
      exact orderly
  | cons addition rest inductionHypothesis =>
      obtain ⟨first, later⟩ := List.forall_mem_cons.mp allPlain
      exact inductionHypothesis (orderly.add member first) later

theorem setMessages (orderly : storage.Orderly registries) (member : stored ∈ registries)
    (offers : List (String × StoredOffer)) :
    (storage.setMessages stored offers).1.Orderly registries := by
  induction offers generalizing storage with
  | nil =>
      exact orderly
  | cons entry rest inductionHypothesis =>
      obtain ⟨rule, offer⟩ := entry
      unfold Storage.setMessages
      cases offered : StoredAddition.ofMessage? rule offer with
      | none =>
          exact orderly
      | some addition =>
          exact inductionHypothesis
            (orderly.add member (StoredAddition.plain_of_ofMessage? offered))

/-- A new registry among others that are left as they are. -/
theorem extend (orderly : storage.Orderly registries) {extended : Storage}
    (even : extended.Even) (grown : extended.size = storage.size + 1)
    (old : ∀ number < storage.size,
      extended.tables (.at number) = storage.tables (.at number))
    (plain : (extended.tables (.at storage.size)).Plain) :
    extended.Orderly (registries ++ [.at storage.size]) where
  even := even
  whole := by
    intro stored member
    rcases List.mem_append.mp member with before | new
    · obtain ⟨number, there, same⟩ := orderly.whole stored before
      exact ⟨number, by omega, same⟩
    · exact ⟨storage.size, by omega, List.mem_singleton.mp new⟩
  plain := by
    intro stored member
    rcases List.mem_append.mp member with before | new
    · obtain ⟨number, there, rfl⟩ := orderly.whole stored before
      rw [old number there]
      exact orderly.plain _ before
    · rw [List.mem_singleton.mp new]
      exact plain

theorem create (orderly : storage.Orderly registries) {labels : Table Value}
    (texts : labels.All fun label => ∃ text, label = .text text) :
    (storage.create labels).1.Orderly (registries ++ [(storage.create labels).2]) := by
  have new := tables_create_new storage labels
  rw [create_at orderly.even] at new ⊢
  refine orderly.extend (orderly.even.create labels) (size_create storage labels)
    (fun number => tables_create_old orderly.even labels) ?_
  rw [new]
  exact ⟨fun _ => rfl, texts⟩

theorem construct (orderly : storage.Orderly registries) (messages : Table StoredOffer)
    {labels : Table Value} (texts : labels.All fun label => ∃ text, label = .text text) :
    (storage.construct messages labels).1.Orderly
      (registries ++ (storage.construct messages labels).2.toList) := by
  have created : (storage.create labels).2 ∈ registries ++ [(storage.create labels).2] := by
    simp
  refine ((orderly.create texts).setMessages created messages.entries).subset ?_
  intro stored member
  rcases List.mem_append.mp member with before | new
  · exact List.mem_append_left _ before
  · unfold Storage.construct at new
    dsimp only at new
    split at new
    · exact List.mem_append_right _ (by simpa using new)
    · cases new

theorem copy (orderly : storage.Orderly registries) (member : stored ∈ registries) :
    (storage.copy stored).1.Orderly (registries ++ [(storage.copy stored).2]) := by
  obtain ⟨number, there, rfl⟩ := orderly.whole stored member
  have new := tables_copy_new storage number
  rw [copy_at orderly.even] at new ⊢
  refine orderly.extend (orderly.even.copy _) (size_copy storage _)
    (fun number => tables_copy_old orderly.even _) ?_
  rw [new]
  exact orderly.plain _ member

end Orderly

theorem Reaches.orderly (reached : storage.Reaches registries) : storage.Orderly registries := by
  induction reached with
  | empty =>
      exact ⟨⟨rfl, rfl⟩, List.forall_mem_nil _, List.forall_mem_nil _⟩
  | constructed reached messages texts inductionHypothesis =>
      exact inductionHypothesis.construct messages texts
  | registered reached member offered inductionHypothesis =>
      exact inductionHypothesis.add member (StoredAddition.plain_of_ofRule? offered)
  | messageSet reached member offered inductionHypothesis =>
      exact inductionHypothesis.add member (StoredAddition.plain_of_ofMessage? offered)
  | labelSet reached member field label inductionHypothesis =>
      exact inductionHypothesis.add member ⟨label, rfl⟩
  | fileApplied reached member file inductionHypothesis =>
      exact inductionHypothesis.applyFile member file
  | copied reached member inductionHypothesis =>
      exact inductionHypothesis.copy member

/-! ## Two lookups of a label -/

/-- What the message looks up: the first of two views that has the field, or else the field. -/
def viewedLabel (storage : Storage) (stored : StoredRegistry) (field : String) : Value :=
  let own := tableAt storage.labels stored.composedOver
  ((own.get? field).or ((commonLabel? field).map Value.text)).getD (.text field)

/-- Looking for a label in a view comes to the same as looking in one table and then in the
other. -/
theorem viewedLabel_eq (storage : Storage) (stored : StoredRegistry) (field : String) :
    storage.viewedLabel stored field =
      labelOf (tableAt storage.labels stored.composedOver) field := by
  rw [viewedLabel, labelOf]
  cases (tableAt storage.labels stored.composedOver).get? field with
  | some label =>
      rfl
  | none =>
      cases commonLabel? field <;> rfl

variable {stored : StoredRegistry}

/-- The message of the rule that compares fields is composed over the view. -/
theorem messageFor_equals (plain : (storage.tables stored).Plain)
    (notSet : (storage.registry stored).messages.get? BuiltIn.equals.name = none) :
    (storage.registry stored).messageFor BuiltIn.equals.name =
      .aboutField (storage.viewedLabel stored) := by
  have composed : storage.viewedLabel stored = (storage.registry stored).label :=
    funext (storage.viewedLabel_eq stored)
  have kept : (storage.registry stored).rules.get? BuiltIn.equals.name = none := by
    rw [registry, Table.get?_map, plain.builtIn_kept, Option.map_none]
  rw [Registry.messageFor, notSet, kept, composed, BuiltIn.ofName?_name]
  rfl

/-- In every registry that is reached and was given no message of its own for the rule that
compares fields, this rule's message shows the label that the registry answers. -/
theorem equals_message_shows_label [Host] (reached : storage.Reaches registries)
    (member : stored ∈ registries)
    (notSet : (storage.registry stored).messages.get? "equals" = none) (value : Value)
    (field : String) :
    ∃ label, (storage.answers stored).label field = .text label ∧
      (storage.answers stored).rendered "equals" value [field] =
        .ok ("This field must match " ++ label) := by
  have orderly := reached.orderly
  obtain ⟨number, -, rfl⟩ := orderly.whole stored member
  have plain := orderly.plain _ member
  -- The message was composed over the table in which the registry looks for its labels.
  have inStep : (storage.answers (.at number)).label field =
      storage.viewedLabel (.at number) field :=
    (storage.viewedLabel_eq (.at number) field).symm
  obtain ⟨label, named⟩ : ∃ label, storage.viewedLabel (.at number) field = .text label := by
    rw [viewedLabel_eq, labelOf]
    cases own : (tableAt storage.labels (StoredRegistry.at number).composedOver).get? field with
    | some label =>
        exact plain.labels_text field label own
    | none =>
        exact ⟨_, rfl⟩
  have rendered : (storage.answers (.at number)).rendered "equals" value [field] =
      (Message.aboutField (storage.viewedLabel (.at number))).render "equals" value [field] :=
    congrArg (Message.render "equals" · value [field]) (messageFor_equals plain notSet)
  refine ⟨label, inStep.trans named, ?_⟩
  have writable : (Value.text label).isWritable = true := rfl
  rw [rendered, Message.aboutField, Message.withArgument, Message.render]
  simp only [named, writable, ↓reduceIte, Except.map, Value.display, String.ofList_toList]

open scoped Host

/-- A label that is set after a copy was made is shown by the original alone, and the labels of
a file are shown by the copy that the file is applied to. -/
theorem original_and_copy_show_their_own_labels :
    let file : RulesFile :=
      .ofContent "rules.yaml" (.ok "forms:\ndisplay_names:\n  password: Secret\n".toUTF8.toList)
    let created := (⟨[], [], []⟩ : Storage).construct .empty (.ofList [("email", .text "Mail")])
    let copied := created.1.copy (.at 0)
    let relabelled := copied.1.add (.at 0) (.label "email" (.text "Post"))
    let storage := relabelled.applyFile (.at 1) file
    storage.Reaches [.at 0, .at 1] ∧
      (∀ stored ∈ [StoredRegistry.at 0, .at 1],
        (storage.registry stored).messages.get? "equals" = none) ∧
      (storage.answers (.at 0)).rendered "equals" .null ["email"] =
        .ok ("This field must match " ++ "Post") ∧
      (storage.answers (.at 1)).rendered "equals" .null ["email"] =
        .ok ("This field must match " ++ "Mail") ∧
      (storage.answers (.at 1)).rendered "equals" .null ["password"] =
        .ok ("This field must match " ++ "Secret") := by
  intro file created copied relabelled storage
  have texts : (Table.ofList [("email", Value.text "Mail")]).All
      fun label => ∃ text, label = .text text :=
    (Table.all_empty _).insert "email" ⟨"Mail", rfl⟩
  have reachedCreated : created.1.Reaches [.at 0] := .constructed .empty .empty texts
  have reachedCopied : copied.1.Reaches [.at 0, .at 1] :=
    .copied reachedCreated (List.mem_singleton.mpr rfl)
  have reached : storage.Reaches [.at 0, .at 1] :=
    .fileApplied (.labelSet reachedCopied (by simp) "email" "Post") (by simp) file
  -- The file is read once for all that is looked up.
  have lookups : (∀ stored ∈ [StoredRegistry.at 0, .at 1],
      ((storage.registry stored).messages.get? "equals").isNone = true) ∧
      ((storage.answers (.at 0)).label "email").display = "Post".toList ∧
      ((storage.answers (.at 1)).label "email").display = "Mail".toList ∧
      ((storage.answers (.at 1)).label "password").display = "Secret".toList := by
    decide +kernel
  obtain ⟨absent, original, copy, fromFile⟩ := lookups
  have notSet : ∀ stored ∈ [StoredRegistry.at 0, .at 1],
      (storage.registry stored).messages.get? "equals" = none :=
    fun stored member => Option.isNone_iff_eq_none.mp (absent stored member)
  have shows : ∀ stored ∈ [StoredRegistry.at 0, .at 1], ∀ field text,
      ((storage.answers stored).label field).display = text.toList →
        (storage.answers stored).rendered "equals" .null [field] =
          .ok ("This field must match " ++ text) := by
    intro stored member field text displayed
    obtain ⟨label, named, shown⟩ :=
      equals_message_shows_label reached member (notSet stored member) .null field
    rw [named] at displayed
    rw [shown, String.toList_inj.mp displayed]
  exact ⟨reached, notSet, shows _ (by simp) _ _ original, shows _ (by simp) _ _ copy,
    shows _ (by simp) _ _ fromFile⟩

end Storage

end FormCheck
