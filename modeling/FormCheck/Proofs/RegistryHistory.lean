import FormCheck.Registry

/-!
# Histories of registries

Rules, messages and labels are added to a registry.  Its history is the list of these
additions, and it determines the registry: for each name the last addition counts, and
the rules stand in the order in which their names first came.
-/

namespace FormCheck.Registry

/-- What can be added to a registry. -/
inductive Addition where
  | rule (definition : Rule)
  | message (rule : String) (words : Message)
  | label (field : String) (words : Value)

namespace Addition

def rule? : Addition → Option (String × Rule)
  | .rule definition => some (definition.name, definition)
  | _ => none

def message? : Addition → Option (String × Message)
  | .message name words => some (name, words)
  | _ => none

def label? : Addition → Option (String × Value)
  | .label field words => some (field, words)
  | _ => none

/-- What registering a rule adds, unless it is refused. -/
def ofRule? (name : String) (predicate? : Option Predicate) (offer : MessageOffer)
    (looksAtRecord : Bool) : Option Addition :=
  if (BuiltIn.ofName? name).isSome then
    none
  else
    match predicate?, offer.accept name with
    | some predicate, .ok message? => some (.rule ⟨name, predicate, message?, looksAtRecord⟩)
    | _, _ => none

/-- What setting a message adds, unless it is refused. -/
def ofMessage? (rule : String) (offer : MessageOffer) : Option Addition :=
  match offer.accept rule with
  | .ok (some words) => some (.message rule words)
  | _ => none

end Addition

def add (registry : Registry) : Addition → Registry
  | .rule definition =>
      { registry with rules := registry.rules.insert definition.name definition }
  | .message rule words => { registry with messages := registry.messages.insert rule words }
  | .label field words => registry.setLabel field words

def after (registry : Registry) (history : List Addition) : Registry :=
  history.foldl add registry

/-! ## What a history says -/

/-- The rules that a history adds, by name. -/
def rulesIn (history : List Addition) : List (String × Rule) :=
  history.filterMap Addition.rule?

def messagesIn (history : List Addition) : List (String × Message) :=
  history.filterMap Addition.message?

def labelsIn (history : List Addition) : List (String × Value) :=
  history.filterMap Addition.label?

/-- What was added last under a name. -/
def last? {α : Type} (name : String) (added : List (String × α)) : Option α :=
  Table.find? name added.reverse

theorem after_append (registry : Registry) (earlier later : List Addition) :
    registry.after (earlier ++ later) = (registry.after earlier).after later :=
  List.foldl_append

/-- A history acts on rules, messages and labels apart. -/
theorem after_eq (registry : Registry) (history : List Addition) :
    registry.after history =
      ⟨registry.rules.insertAll (rulesIn history),
        registry.messages.insertAll (messagesIn history),
        registry.labels.insertAll (labelsIn history)⟩ := by
  induction history generalizing registry with
  | nil =>
      rfl
  | cons addition rest inductionHypothesis =>
      have step : registry.after (addition :: rest) = (registry.add addition).after rest := rfl
      rw [step, inductionHypothesis]
      cases addition <;> rfl

/-! ## What is accepted -/

section Accepted

variable {registry next : Registry} {name : String} {offer : MessageOffer}

/-- A rule is registered exactly when there is something to add; when it is refused, the
registry is left as it was. -/
theorem register_cases (registry : Registry) (name : String) (predicate? : Option Predicate)
    (offer : MessageOffer) (looksAtRecord : Bool) :
    let step := registry.register name predicate? offer looksAtRecord
    (∃ addition, Addition.ofRule? name predicate? offer looksAtRecord = some addition ∧
      step.1 = registry.add addition ∧ step.2.outcome = .ok ()) ∨
    (Addition.ofRule? name predicate? offer looksAtRecord = none ∧ step.1 = registry ∧
      ∃ failure, step.2.outcome = .error failure) := by
  unfold register Addition.ofRule?
  by_cases builtIn : (BuiltIn.ofName? name).isSome
  · simp [builtIn, Traced.fail]
  · cases predicate? with
    | none =>
        simp [builtIn, Traced.fail]
    | some predicate =>
        cases offer.accept name with
        | error mistake =>
            simp [builtIn, Traced.fail]
        | ok message? =>
            by_cases known : registry.rules.contains name <;>
              simp [builtIn, known, Traced.outcome_andThen, Journal.write, Traced.note,
                Traced.notes, Except.bind, add]

/-- A message is set exactly when there is something to add; when it is refused, the registry
is left as it was. -/
theorem setMessage_cases (registry : Registry) (rule : String) (offer : MessageOffer) :
    (∃ addition, Addition.ofMessage? rule offer = some addition ∧
      registry.setMessage rule offer = (registry.add addition, .ok ())) ∨
    (Addition.ofMessage? rule offer = none ∧
      ∃ mistake, registry.setMessage rule offer = (registry, .error mistake)) := by
  unfold setMessage Addition.ofMessage?
  cases offer.accept rule with
  | error mistake =>
      simp
  | ok message? =>
      cases message? <;> simp [add]

theorem register_of_offered {predicate? : Option Predicate} {looksAtRecord : Bool}
    {addition : Addition}
    (offered : Addition.ofRule? name predicate? offer looksAtRecord = some addition) :
    (registry.register name predicate? offer looksAtRecord).1 = registry.add addition := by
  rcases register_cases registry name predicate? offer looksAtRecord with
    ⟨other, same, added, -⟩ | ⟨none, -⟩
  · cases offered.symm.trans same
    exact added
  · cases offered.symm.trans none

theorem setMessage_of_offered {addition : Addition}
    (offered : Addition.ofMessage? name offer = some addition) :
    registry.setMessage name offer = (registry.add addition, .ok ()) := by
  rcases setMessage_cases registry name offer with ⟨other, same, added⟩ | ⟨none, -⟩
  · cases offered.symm.trans same
    exact added
  · cases offered.symm.trans none

/-- What setting several messages adds. -/
def messageAdditions (offers : List (String × MessageOffer)) : List Addition :=
  offers.filterMap fun entry => Addition.ofMessage? entry.1 entry.2

theorem setMessages_eq_ok {offers : List (String × MessageOffer)}
    (accepted : registry.setMessages offers = (next, .ok ())) :
    registry.after (messageAdditions offers) = next := by
  induction offers generalizing registry with
  | nil =>
      cases accepted
      rfl
  | cons entry rest inductionHypothesis =>
      obtain ⟨rule, words⟩ := entry
      rw [setMessages] at accepted
      rcases setMessage_cases registry rule words with ⟨addition, offered, set⟩ | ⟨-, _, set⟩
      · rw [set] at accepted
        have step : messageAdditions ((rule, words) :: rest) =
            addition :: messageAdditions rest :=
          List.filterMap_cons_some offered
        rw [step]
        exact inductionHypothesis accepted
      · rw [set] at accepted
        cases accepted

/-- A registry is created from what its messages add. -/
theorem create_eq_ok {messages : Table MessageOffer} {labels : Table Value}
    (created : create messages labels = .ok next) :
    (⟨.empty, .empty, labels⟩ : Registry).after (messageAdditions messages.entries) = next := by
  unfold create at created
  cases set : ({ builtIn with labels := labels } : Registry).setMessages messages.entries with
  | mk changed outcome =>
      rw [set] at created
      cases outcome with
      | error mistake =>
          cases created
      | ok =>
          cases created
          exact setMessages_eq_ok set

end Accepted

/-! ## Names of rules -/

section Names

variable {registry : Registry} {name : String}

theorem builtIn_mem_names_iff :
    name ∈ BuiltIn.all.map BuiltIn.name ↔ (BuiltIn.ofName? name).isSome := by
  constructor
  · intro member
    obtain ⟨rule, -, rfl⟩ := List.mem_map.mp member
    simp
  · intro known
    obtain ⟨rule, found⟩ := Option.isSome_iff_exists.mp known
    rw [BuiltIn.ofName?_eq_some_iff.mp found]
    exact List.mem_map_of_mem (by cases rule <;> decide)

theorem contains_eq_true_iff :
    registry.contains name = true ↔
      name ∈ registry.rules.keys ∨ (BuiltIn.ofName? name).isSome := by
  rw [contains, rule?, ← Table.contains_iff, Table.contains]
  cases registry.rules.get? name <;> simp

/-- A registry never forgets a rule. -/
theorem contains_after (history : List Addition) (known : registry.contains name = true) :
    (registry.after history).contains name = true := by
  rw [contains_eq_true_iff] at known ⊢
  rcases known with added | builtIn
  · left
    rw [after_eq, Table.keys_insertAll]
    exact List.mem_append_left _ added
  · exact .inr builtIn

theorem mem_names_iff : name ∈ registry.names ↔ registry.contains name = true := by
  rw [contains_eq_true_iff, names, addedNames, List.mem_append, builtIn_mem_names_iff,
    List.mem_filter]
  cases BuiltIn.ofName? name <;> simp

theorem exists_lookup_iff :
    (∃ rule, registry.lookup name = .ok rule) ↔ registry.contains name = true := by
  rw [contains, lookup]
  cases registry.rule? name <;> simp

theorem nodup_names (registry : Registry) : registry.names.Nodup := by
  refine List.nodup_append.mpr ⟨by decide, registry.rules.keys_distinct.filter _, ?_⟩
  intro builtInName builtIn addedName added same
  have known := builtIn_mem_names_iff.mp builtIn
  have unknown := (List.mem_filter.mp added).2
  rw [same] at known
  cases found : BuiltIn.ofName? addedName <;> simp [found] at known unknown

end Names

/-! ## Answers of a registry -/

/-- The registry of the built-in rules with labels. -/
def labelled (labels : Table Value) : Registry :=
  ⟨.empty, .empty, labels⟩

/-- No rule that was added has the name of a built-in one. -/
def KeepsBuiltIn (history : List Addition) : Prop :=
  ∀ entry ∈ rulesIn history, BuiltIn.ofName? entry.1 = none

/-- The message of a rule where none was added. -/
def commonMessage (registry : Registry) (name : String) : Message :=
  match BuiltIn.ofName? name with
  | some rule => .ofBuiltIn registry.label rule
  | none => .generic

/-- A registry that began with labels answers as its history says. -/
structure Reflects (registry : Registry) (labels : Table Value) (history : List Addition) :
    Prop where
  /-- The names of the added rules stand in the order in which they first came. -/
  names_eq : registry.names =
    BuiltIn.all.map BuiltIn.name ++ ((rulesIn history).map (·.1)).eraseDups
  names_distinct : registry.names.Nodup
  contains_iff : ∀ name, registry.contains name = true ↔ name ∈ registry.names
  lookup_iff : ∀ name, (∃ rule, registry.lookup name = .ok rule) ↔ name ∈ registry.names
  added_not_builtIn : ∀ rule : BuiltIn, rule.name ∉ (rulesIn history).map (·.1)
  lookup_builtIn : ∀ rule : BuiltIn, registry.lookup rule.name = .ok (.ofBuiltIn rule)
  lookup_added : ∀ name ∈ (rulesIn history).map (·.1), ∃ rule,
    last? name (rulesIn history) = some rule ∧ registry.lookup name = .ok rule
  /-- A message that was set goes before the one that the rule came with. -/
  message_eq : ∀ name, registry.messageFor name =
    ((last? name (messagesIn history)).or
      ((last? name (rulesIn history)).bind Rule.message?)).getD
        (registry.commonMessage name)
  label_eq : ∀ field, registry.label field =
    (last? field (labelsIn history)).getD (labelOf labels field)

section Answers

variable {labels : Table Value} {history : List Addition} {name : String}

theorem keys_rules_after (labels : Table Value) (history : List Addition) :
    ((labelled labels).after history).rules.keys =
      ((rulesIn history).map (·.1)).eraseDups := by
  have noneYet : (labelled labels).rules.keys = [] := rfl
  have allNew : ((rulesIn history).map (·.1)).removeAll [] = (rulesIn history).map (·.1) :=
    List.filter_eq_self.mpr (by simp)
  rw [after_eq, Table.keys_insertAll, noneYet, allNew, List.nil_append]

theorem get?_rules_after (labels : Table Value) (history : List Addition) (name : String) :
    ((labelled labels).after history).rules.get? name = last? name (rulesIn history) := by
  rw [after_eq, Table.get?_insertAll]
  simp [labelled, last?]

theorem get?_messages_after (labels : Table Value) (history : List Addition) (name : String) :
    ((labelled labels).after history).messages.get? name = last? name (messagesIn history) := by
  rw [after_eq, Table.get?_insertAll]
  simp [labelled, last?]

theorem exists_last?_of_mem {α : Type} {added : List (String × α)}
    (member : name ∈ added.map (·.1)) : ∃ item, last? name added = some item := by
  rw [← Option.ne_none_iff_exists', last?, ne_eq, Table.find?_eq_none_iff]
  simpa using member

theorem lookup_of_rules {registry : Registry} {rule : Rule}
    (added : registry.rules.get? name = some rule) : registry.lookup name = .ok rule := by
  simp [lookup, rule?, added]

theorem label_after (labels : Table Value) (history : List Addition) (field : String) :
    ((labelled labels).after history).label field =
      (last? field (labelsIn history)).getD (labelOf labels field) := by
  rw [after_eq, label, labelOf, Table.get?_insertAll, ← last?]
  cases last? field (labelsIn history) <;> rfl

theorem messageFor_after (labels : Table Value) (history : List Addition) (name : String) :
    ((labelled labels).after history).messageFor name =
      ((last? name (messagesIn history)).or
        ((last? name (rulesIn history)).bind Rule.message?)).getD
          (((labelled labels).after history).commonMessage name) := by
  rw [messageFor, get?_messages_after, get?_rules_after]
  cases last? name (messagesIn history) with
  | some message =>
      rfl
  | none =>
      cases (last? name (rulesIn history)).bind Rule.message? <;> rfl

theorem KeepsBuiltIn.append {earlier later : List Addition} (keptEarlier : KeepsBuiltIn earlier)
    (keptLater : KeepsBuiltIn later) : KeepsBuiltIn (earlier ++ later) := by
  intro entry member
  rw [rulesIn, List.filterMap_append] at member
  rcases List.mem_append.mp member with isEarlier | isLater
  · exact keptEarlier entry isEarlier
  · exact keptLater entry isLater

theorem keepsBuiltIn_of_ofRule? {predicate? : Option Predicate} {offer : MessageOffer}
    {looksAtRecord : Bool} {addition : Addition}
    (offered : Addition.ofRule? name predicate? offer looksAtRecord = some addition) :
    KeepsBuiltIn [addition] := by
  unfold Addition.ofRule? at offered
  split at offered
  · cases offered
  · next unknown =>
      split at offered
      · cases offered
        intro entry member
        cases List.mem_singleton.mp member
        simpa using unknown
      · cases offered

theorem rule?_of_ofMessage? {offer : MessageOffer} {addition : Addition}
    (offered : Addition.ofMessage? name offer = some addition) : addition.rule? = none := by
  unfold Addition.ofMessage? at offered
  split at offered
  · cases offered
    rfl
  · cases offered

theorem keepsBuiltIn_of_rule?_eq_none (none : ∀ addition ∈ history, addition.rule? = none) :
    KeepsBuiltIn history := by
  have noRules : rulesIn history = [] := List.filterMap_eq_nil_iff.mpr none
  intro entry member
  rw [noRules] at member
  cases member

theorem keepsBuiltIn_messageAdditions (offers : List (String × MessageOffer)) :
    KeepsBuiltIn (messageAdditions offers) := by
  refine keepsBuiltIn_of_rule?_eq_none fun addition member => ?_
  obtain ⟨entry, -, offered⟩ := List.mem_filterMap.mp member
  exact rule?_of_ofMessage? offered

theorem KeepsBuiltIn.not_mem (kept : KeepsBuiltIn history) (rule : BuiltIn) :
    rule.name ∉ (rulesIn history).map (·.1) := by
  intro member
  obtain ⟨entry, added, same⟩ := List.mem_map.mp member
  have unknown := kept entry added
  simp [same] at unknown

/-- What is added to the built-in rules can be read off the history. -/
theorem reflects_after (kept : KeepsBuiltIn history) :
    ((labelled labels).after history).Reflects labels history where
  names_eq := by
    rw [names, addedNames, keys_rules_after, List.filter_eq_self.mpr]
    intro name member
    obtain ⟨entry, added, rfl⟩ := List.mem_map.mp (List.mem_eraseDups.mp member)
    simp [kept entry added]
  names_distinct := nodup_names _
  contains_iff name := mem_names_iff.symm
  lookup_iff name := exists_lookup_iff.trans mem_names_iff.symm
  added_not_builtIn := kept.not_mem
  lookup_builtIn rule := by
    have absent : ((labelled labels).after history).rules.get? rule.name = none := by
      rw [Table.get?_eq_none_iff, keys_rules_after, List.mem_eraseDups]
      exact kept.not_mem rule
    simp [lookup, rule?, absent]
  lookup_added name member := by
    obtain ⟨rule, found⟩ := exists_last?_of_mem member
    exact ⟨rule, found, lookup_of_rules (get?_rules_after labels history name ▸ found)⟩
  message_eq := messageFor_after labels history
  label_eq := label_after labels history

end Answers

end FormCheck.Registry
