import FormCheck.Proofs.Outcomes
import FormCheck.Proofs.RegistryHistory

/-!
# Registries in storage

A registry may be kept as three tables in storage, one of rules, one of messages and one of
labels, each under its number.  The messages of the built-in rules are composed once, when the
registry is created, over a table of labels; later on they look labels up in that table,
whatever the table holds by then.  So two registries that had a table in common would see each
other's additions, and a registry whose messages were composed over another table than its own
would give labels that its messages do not show.

A registry that is created or copied gets tables of its own, all under the same new number
(`StoredRegistry.at`).  What is added to it is written in no tables under another number.  But a
registry hands out its messages, and a message that another registry was given goes on to look
labels up where it was composed.
-/

namespace FormCheck

/-- A message in storage: one that somebody made, or the one of a built-in rule, which was
composed over the labels under a number. -/
inductive StoredMessage where
  | made (message : Message)
  | builtIn (rule : BuiltIn) (labels : Nat)

structure StoredRule where
  name : String
  predicate : Predicate
  message? : Option StoredMessage
  looksAtRecord : Bool

namespace StoredRule

def ofRule (rule : Rule) : StoredRule where
  name := rule.name
  predicate := rule.predicate
  message? := rule.message?.map .made
  looksAtRecord := rule.looksAtRecord

def ofBuiltIn (rule : BuiltIn) : StoredRule :=
  .ofRule (.ofBuiltIn rule)

end StoredRule

/-- What is offered as a message: what somebody made, or a message that was handed out by a
registry. -/
inductive StoredOffer where
  | made (offer : MessageOffer)
  | handedOver (message : StoredMessage)

def StoredOffer.accept (rule : String) : StoredOffer → Except Mistake (Option StoredMessage)
  | .made offer => (offer.accept rule).map (Option.map .made)
  | .handedOver message => .ok (some message)

theorem StoredOffer.accept_cases {rule : String} {offer : StoredOffer} {message : StoredMessage}
    (accepted : offer.accept rule = .ok (some message)) :
    (∃ made, message = .made made) ∨ offer = .handedOver message := by
  cases offer with
  | made offer =>
      obtain ⟨found, -, same⟩ := map_eq_ok_iff.mp accepted
      obtain ⟨made, -, rfl⟩ := Option.map_eq_some_iff.mp same
      exact .inl ⟨made, rfl⟩
  | handedOver given =>
      cases accepted
      exact .inr rfl

inductive StoredAddition where
  | rule (definition : StoredRule)
  | message (rule : String) (words : StoredMessage)
  | label (field : String) (words : Value)

namespace StoredAddition

def words? : StoredAddition → Option StoredMessage
  | .rule definition => definition.message?
  | .message _ words => some words
  | .label _ _ => none

open Registry (Addition)

/-- An addition with a message that somebody made. -/
def ofAddition : Addition → StoredAddition
  | .rule definition => .rule (.ofRule definition)
  | .message name words => .message name (.made words)
  | .label field words => .label field words

def ofRule? (name : String) (predicate? : Option Predicate) (offer : StoredOffer)
    (looksAtRecord : Bool) : Option StoredAddition :=
  if (BuiltIn.ofName? name).isSome then
    none
  else
    match predicate?, offer.accept name with
    | some predicate, .ok message? => some (.rule ⟨name, predicate, message?, looksAtRecord⟩)
    | _, _ => none

def ofMessage? (name : String) (offer : StoredOffer) : Option StoredAddition :=
  match offer.accept name with
  | .ok (some words) => some (.message name words)
  | _ => none

theorem ofRule?_made (name : String) (predicate? : Option Predicate) (offer : MessageOffer)
    (looksAtRecord : Bool) :
    ofRule? name predicate? (.made offer) looksAtRecord =
      (Addition.ofRule? name predicate? offer looksAtRecord).map ofAddition := by
  simp only [ofRule?, Addition.ofRule?, StoredOffer.accept]
  cases (BuiltIn.ofName? name).isSome <;> cases predicate? <;> cases offer.accept name <;> rfl

theorem ofMessage?_made (name : String) (offer : MessageOffer) :
    ofMessage? name (.made offer) = (Addition.ofMessage? name offer).map ofAddition := by
  simp only [ofMessage?, Addition.ofMessage?, StoredOffer.accept]
  cases offer.accept name with
  | error mistake =>
      rfl
  | ok message? =>
      cases message? <;> rfl

/-- Labels are looked up only by messages that were handed over. -/
theorem handedOver_of_ofMessage? {name : String} {offer : StoredOffer}
    {addition : StoredAddition} {labels : Nat} (offered : ofMessage? name offer = some addition)
    (words : addition.words? = some (.builtIn .equals labels)) :
    offer = .handedOver (.builtIn .equals labels) := by
  unfold ofMessage? at offered
  split at offered
  · next message accepted =>
    cases offered
    cases words
    rcases StoredOffer.accept_cases accepted with ⟨made, impossible⟩ | handedOver
    · cases impossible
    · exact handedOver
  · cases offered

theorem handedOver_of_ofRule? {name : String} {predicate? : Option Predicate}
    {offer : StoredOffer} {looksAtRecord : Bool} {addition : StoredAddition} {labels : Nat}
    (offered : ofRule? name predicate? offer looksAtRecord = some addition)
    (words : addition.words? = some (.builtIn .equals labels)) :
    offer = .handedOver (.builtIn .equals labels) := by
  unfold ofRule? at offered
  split at offered
  · cases offered
  · split at offered
    · next accepted =>
      cases offered
      rw [words?] at words
      dsimp only at words
      rw [words] at accepted
      rcases StoredOffer.accept_cases accepted with ⟨made, impossible⟩ | handedOver
      · cases impossible
      · exact handedOver
    · cases offered

end StoredAddition

/-! ## The tables of a registry -/

structure Tables where
  rules : Table StoredRule
  messages : Table StoredMessage
  labels : Table Value

namespace Tables

open Registry (Addition)

/-- The tables of a registry all of whose messages somebody made. -/
def ofRegistry (registry : Registry) : Tables where
  rules := registry.rules.map .ofRule
  messages := registry.messages.map .made
  labels := registry.labels

def add (tables : Tables) : StoredAddition → Tables
  | .rule definition =>
      { tables with rules := tables.rules.insert definition.name definition }
  | .message rule words => { tables with messages := tables.messages.insert rule words }
  | .label field words => { tables with labels := tables.labels.insert field words }

/-- Some message looks labels up under a number. -/
inductive LooksUp (tables : Tables) (number : Nat) : Prop where
  | set {name : String} (found : tables.messages.get? name = some (.builtIn .equals number))
  | own {name : String} {rule : StoredRule} (added : tables.rules.get? name = some rule)
      (came : rule.message? = some (.builtIn .equals number))

theorem labels_add_of_ofRule? {name : String} {predicate? : Option Predicate}
    {offer : StoredOffer} {looksAtRecord : Bool} {addition : StoredAddition}
    (offered : StoredAddition.ofRule? name predicate? offer looksAtRecord = some addition)
    (tables : Tables) : (tables.add addition).labels = tables.labels := by
  unfold StoredAddition.ofRule? at offered
  split at offered
  · cases offered
  · split at offered
    · cases offered
      rfl
    · cases offered

theorem labels_add_of_ofMessage? {name : String} {offer : StoredOffer}
    {addition : StoredAddition} (offered : StoredAddition.ofMessage? name offer = some addition)
    (tables : Tables) : (tables.add addition).labels = tables.labels := by
  unfold StoredAddition.ofMessage? at offered
  split at offered
  · cases offered
    rfl
  · cases offered

theorem LooksUp.of_add {tables : Tables} {addition : StoredAddition} {number : Nat}
    (looks : (tables.add addition).LooksUp number) :
    tables.LooksUp number ∨ addition.words? = some (.builtIn .equals number) := by
  cases addition with
  | rule definition =>
      cases looks with
      | set found =>
          exact .inl (.set found)
      | own added came =>
          simp only [add, Table.get?_insert] at added
          split at added
          · cases added
            exact .inr came
          · exact .inl (.own added came)
  | message name words =>
      cases looks with
      | set found =>
          simp only [add, Table.get?_insert] at found
          split at found
          · exact .inr found
          · exact .inl (.set found)
      | own added came =>
          exact .inl (.own added came)
  | label field words =>
      cases looks with
      | set found =>
          exact .inl (.set found)
      | own added came =>
          exact .inl (.own added came)

theorem ofRegistry_add (registry : Registry) (addition : Addition) :
    (ofRegistry registry).add (.ofAddition addition) = ofRegistry (registry.add addition) := by
  cases addition with
  | rule definition =>
      simp only [ofRegistry, StoredAddition.ofAddition, add, Registry.add, Table.map_insert]
      rfl
  | message rule words =>
      simp only [ofRegistry, StoredAddition.ofAddition, add, Registry.add, Table.map_insert]
  | label field words =>
      rfl

/-- A message that somebody made looks no labels up. -/
theorem not_looksUp_ofRegistry (registry : Registry) (number : Nat) :
    ¬ (ofRegistry registry).LooksUp number := by
  intro looks
  cases looks with
  | set found =>
      simp [ofRegistry, Table.get?_map] at found
  | own added came =>
      simp only [ofRegistry, Table.get?_map, Option.map_eq_some_iff] at added
      obtain ⟨rule, -, rfl⟩ := added
      simp [StoredRule.ofRule] at came

end Tables

/-- Tables in storage, each under its number. -/
structure Storage where
  rules : List (Table StoredRule)
  messages : List (Table StoredMessage)
  labels : List (Table Value)

/-- The numbers of the tables of a registry, and of the labels that its messages were composed
over. -/
structure StoredRegistry where
  rules : Nat
  messages : Nat
  labels : Nat
  composedOver : Nat
  deriving DecidableEq

/-- The tables of a registry that were created together. -/
def StoredRegistry.at (number : Nat) : StoredRegistry :=
  ⟨number, number, number, number⟩

namespace Storage

open Registry (Addition)

def tableAt {α : Type} (tables : List (Table α)) (number : Nat) : Table α :=
  tables[number]?.getD .empty

def size (storage : Storage) : Nat :=
  storage.rules.length

def tables (storage : Storage) (stored : StoredRegistry) : Tables where
  rules := tableAt storage.rules stored.rules
  messages := tableAt storage.messages stored.messages
  labels := tableAt storage.labels stored.labels

/-- A new registry with labels, but without rules and messages. -/
def create (storage : Storage) (labels : Table Value) : Storage × StoredRegistry where
  fst := ⟨storage.rules ++ [.empty], storage.messages ++ [.empty], storage.labels ++ [labels]⟩
  snd := ⟨storage.rules.length, storage.messages.length, storage.labels.length,
    storage.labels.length⟩

/-- A new registry that is given the labels, the rules and the messages of another one. -/
def copy (storage : Storage) (stored : StoredRegistry) : Storage × StoredRegistry :=
  let (extended, copied) := storage.create (tableAt storage.labels stored.labels)
  let rules := (tableAt storage.rules stored.rules).entries
  let messages := (tableAt storage.messages stored.messages).entries
  ({ extended with
      rules := extended.rules.modify copied.rules (·.insertAll rules)
      messages := extended.messages.modify copied.messages (·.insertAll messages) },
    copied)

def add (storage : Storage) (stored : StoredRegistry) : StoredAddition → Storage
  | .rule definition =>
      { storage with
        rules := storage.rules.modify stored.rules (·.insert definition.name definition) }
  | .message rule words =>
      { storage with messages := storage.messages.modify stored.messages (·.insert rule words) }
  | .label field words =>
      { storage with labels := storage.labels.modify stored.labels (·.insert field words) }

/-- Set messages up to the first one that is refused, and tell whether all were set. -/
def setMessages (storage : Storage) (stored : StoredRegistry) :
    List (String × StoredOffer) → Storage × Bool
  | [] => (storage, true)
  | (rule, offer) :: rest =>
      match StoredAddition.ofMessage? rule offer with
      | some addition => (storage.add stored addition).setMessages stored rest
      | none => (storage, false)

structure Even (storage : Storage) : Prop where
  messages_length : storage.messages.length = storage.size
  labels_length : storage.labels.length = storage.size

variable {storage : Storage} {number other : Nat}

/-! ## Tables under their numbers -/

section Tables

variable {α : Type} {tables : List (Table α)}

theorem tableAt_modify_self (there : number < tables.length) (change : Table α → Table α) :
    tableAt (tables.modify number change) number = change (tableAt tables number) := by
  simp [tableAt, there]

theorem tableAt_modify_other (different : other ≠ number) (change : Table α → Table α) :
    tableAt (tables.modify number change) other = tableAt tables other := by
  simp [tableAt, Ne.symm different]

theorem tableAt_append_left (there : number < tables.length) (added : Table α) :
    tableAt (tables ++ [added]) number = tableAt tables number := by
  rw [tableAt, tableAt, List.getElem?_append_left there]

theorem tableAt_append_length (tables : List (Table α)) (added : Table α) :
    tableAt (tables ++ [added]) tables.length = added := by
  simp [tableAt]

/-- A new table that takes all entries of another one is equal to it. -/
theorem tableAt_modify_append (tables : List (Table α)) (taken : Table α) :
    tableAt ((tables ++ [Table.empty]).modify tables.length (·.insertAll taken.entries))
      tables.length = taken := by
  have there : tables.length < (tables ++ [Table.empty]).length := by
    simp
  rw [tableAt_modify_self there, tableAt_append_length]
  exact Table.eq_of_entries_eq (Table.entries_ofList taken.keys_distinct)

end Tables

/-! ## Adding -/

theorem size_add (storage : Storage) (stored : StoredRegistry) (addition : StoredAddition) :
    (storage.add stored addition).size = storage.size := by
  cases addition <;> simp [add, size]

theorem Even.add (even : storage.Even) (stored : StoredRegistry) (addition : StoredAddition) :
    (storage.add stored addition).Even := by
  obtain ⟨messages, labels⟩ := even
  constructor <;> cases addition <;> simp_all [Storage.add, size]

theorem tables_add_self (even : storage.Even) (there : number < storage.size)
    (addition : StoredAddition) :
    (storage.add (.at number) addition).tables (.at number) =
      (storage.tables (.at number)).add addition := by
  obtain ⟨messages, labels⟩ := even
  cases addition with
  | rule definition =>
      have changed := tableAt_modify_self there (·.insert definition.name definition)
      simp only [tables, Storage.add, StoredRegistry.at, Tables.add, changed]
  | message rule words =>
      have changed := tableAt_modify_self (messages ▸ there) (·.insert rule words)
      simp only [tables, Storage.add, StoredRegistry.at, Tables.add, changed]
  | label field words =>
      have changed := tableAt_modify_self (labels ▸ there) (·.insert field words)
      simp only [tables, Storage.add, StoredRegistry.at, Tables.add, changed]

theorem tables_add_other (different : other ≠ number) (addition : StoredAddition) :
    (storage.add (.at number) addition).tables (.at other) = storage.tables (.at other) := by
  cases addition <;>
    simp only [tables, Storage.add, StoredRegistry.at, tableAt_modify_other different]

-- Registries that had a table of labels in common would both be given the label.
example :
    let shared : Storage := ⟨[.empty, .empty], [.empty, .empty], [.empty]⟩
    let changed := shared.add ⟨1, 1, 0, 0⟩ (.label "a" (.text "A"))
    (changed.tables (.at 0)).labels.get? "a" = some (.text "A") := rfl

/-! ## Creating -/

theorem create_at (even : storage.Even) (labels : Table Value) :
    (storage.create labels).2 = .at storage.size := by
  obtain ⟨messagesEven, labelsEven⟩ := even
  simp only [create, messagesEven, labelsEven]
  rfl

theorem size_create (storage : Storage) (labels : Table Value) :
    (storage.create labels).1.size = storage.size + 1 := by
  simp [create, size]

theorem Even.create (even : storage.Even) (labels : Table Value) :
    (storage.create labels).1.Even := by
  obtain ⟨messagesEven, labelsEven⟩ := even
  constructor <;> simp_all [Storage.create, size]

theorem tables_create_new (storage : Storage) (labels : Table Value) :
    (storage.create labels).1.tables (storage.create labels).2 = ⟨.empty, .empty, labels⟩ := by
  simp only [tables, create, tableAt_append_length]

theorem tables_create_old (even : storage.Even) (labels : Table Value)
    (there : number < storage.size) :
    (storage.create labels).1.tables (.at number) = storage.tables (.at number) := by
  have messagesThere : number < storage.messages.length := even.messages_length ▸ there
  have labelsThere : number < storage.labels.length := even.labels_length ▸ there
  simp only [tables, create, StoredRegistry.at, tableAt_append_left there,
    tableAt_append_left messagesThere, tableAt_append_left labelsThere]

/-! ## Copying -/

theorem copy_at (even : storage.Even) (stored : StoredRegistry) :
    (storage.copy stored).2 = .at storage.size := by
  obtain ⟨messages, labels⟩ := even
  simp only [copy, create, messages, labels]
  rfl

theorem size_copy (storage : Storage) (stored : StoredRegistry) :
    (storage.copy stored).1.size = storage.size + 1 := by
  simp [copy, create, size]

theorem Even.copy (even : storage.Even) (stored : StoredRegistry) :
    (storage.copy stored).1.Even := by
  obtain ⟨messages, labels⟩ := even
  constructor <;> simp_all [Storage.copy, Storage.create, size]

theorem tables_copy_new (storage : Storage) (number : Nat) :
    (storage.copy (.at number)).1.tables (storage.copy (.at number)).2 =
      storage.tables (.at number) := by
  have rules := tableAt_modify_append storage.rules (tableAt storage.rules number)
  have messages := tableAt_modify_append storage.messages (tableAt storage.messages number)
  have labels := tableAt_append_length storage.labels (tableAt storage.labels number)
  simp only [tables, copy, create, StoredRegistry.at, rules, messages, labels]

theorem tables_copy_old (even : storage.Even) (stored : StoredRegistry)
    (there : number < storage.size) :
    (storage.copy stored).1.tables (.at number) = storage.tables (.at number) := by
  have oldRules : number ≠ storage.rules.length := Nat.ne_of_lt there
  have messagesThere : number < storage.messages.length := even.messages_length ▸ there
  have oldMessages : number ≠ storage.messages.length := Nat.ne_of_lt messagesThere
  have labelsThere : number < storage.labels.length := even.labels_length ▸ there
  simp only [tables, copy, create, StoredRegistry.at, tableAt_modify_other oldRules,
    tableAt_modify_other oldMessages, tableAt_append_left there,
    tableAt_append_left messagesThere, tableAt_append_left labelsThere]

/-! ## Setting messages -/

theorem size_setMessages (storage : Storage) (stored : StoredRegistry)
    (offers : List (String × StoredOffer)) :
    (storage.setMessages stored offers).1.size = storage.size := by
  induction offers generalizing storage with
  | nil =>
      rfl
  | cons entry rest inductionHypothesis =>
      obtain ⟨rule, offer⟩ := entry
      unfold setMessages
      cases StoredAddition.ofMessage? rule offer with
      | none =>
          rfl
      | some addition =>
          exact (inductionHypothesis _).trans (size_add storage stored addition)

theorem Even.setMessages (even : storage.Even) (stored : StoredRegistry)
    (offers : List (String × StoredOffer)) : (storage.setMessages stored offers).1.Even := by
  induction offers generalizing storage with
  | nil =>
      exact even
  | cons entry rest inductionHypothesis =>
      obtain ⟨rule, offer⟩ := entry
      unfold Storage.setMessages
      cases StoredAddition.ofMessage? rule offer with
      | none =>
          exact even
      | some addition =>
          exact inductionHypothesis (even.add stored addition)

theorem tables_setMessages_other (different : other ≠ number)
    (offers : List (String × StoredOffer)) :
    (storage.setMessages (.at number) offers).1.tables (.at other) =
      storage.tables (.at other) := by
  induction offers generalizing storage with
  | nil =>
      rfl
  | cons entry rest inductionHypothesis =>
      obtain ⟨rule, offer⟩ := entry
      unfold setMessages
      cases StoredAddition.ofMessage? rule offer with
      | none =>
          rfl
      | some addition =>
          exact inductionHypothesis.trans (tables_add_other different addition)

/-- Messages that somebody made are all set exactly when none is refused, and then the tables
are those of the registry that has them. -/
theorem setMessages_made (even : storage.Even) (there : number < storage.size)
    {registry : Registry} (stands : storage.tables (.at number) = .ofRegistry registry)
    (offers : List (String × MessageOffer)) :
    let set := storage.setMessages (.at number) (offers.map fun entry => (entry.1, .made entry.2))
    match registry.setMessages offers with
    | (changed, .ok ()) => set.2 = true ∧ set.1.tables (.at number) = .ofRegistry changed
    | (_, .error _) => set.2 = false := by
  induction offers generalizing storage registry with
  | nil =>
      exact ⟨rfl, stands⟩
  | cons entry rest inductionHypothesis =>
      obtain ⟨rule, offer⟩ := entry
      simp only [List.map_cons, setMessages, StoredAddition.ofMessage?_made, Registry.setMessages]
      rcases Registry.setMessage_cases registry rule offer with
        ⟨addition, offered, set⟩ | ⟨refused, mistake, set⟩
      · have next : (storage.add (.at number) (.ofAddition addition)).tables (.at number) =
            .ofRegistry (registry.add addition) := by
          rw [tables_add_self even there, stands, Tables.ofRegistry_add]
        simp only [offered, Option.map_some, set]
        exact inductionHypothesis (even.add _ _) ((size_add storage _ _).symm ▸ there) next
      · simp only [refused, Option.map_none, set]

/-! ## Where messages look labels up -/

/-- All messages look labels up where there are labels. -/
def Anchored (storage : Storage) : Prop :=
  ∀ number < storage.size, ∀ other, (storage.tables (.at number)).LooksUp other →
    other < storage.size

theorem Anchored.add (anchored : storage.Anchored) (even : storage.Even)
    (there : number < storage.size) {addition : StoredAddition}
    (seated : ∀ other, addition.words? = some (.builtIn .equals other) → other < storage.size) :
    (storage.add (.at number) addition).Anchored := by
  intro own present other looks
  rw [size_add] at present ⊢
  by_cases same : own = number
  · rw [same, tables_add_self even there] at looks
    rcases looks.of_add with before | new
    · exact anchored number there other before
    · exact seated other new
  · rw [tables_add_other same] at looks
    exact anchored own present other looks

theorem Anchored.copy (anchored : storage.Anchored) (even : storage.Even)
    (there : number < storage.size) : (storage.copy (.at number)).1.Anchored := by
  intro own present other looks
  rw [size_copy] at present ⊢
  rcases Nat.lt_succ_iff_lt_or_eq.mp present with old | rfl
  · rw [tables_copy_old even _ old] at looks
    exact Nat.lt_succ_of_lt (anchored own old other looks)
  · have new := tables_copy_new storage number
    rw [copy_at even] at new
    rw [new] at looks
    exact Nat.lt_succ_of_lt (anchored number there other looks)

theorem Anchored.setMessages (anchored : storage.Anchored) (even : storage.Even)
    (there : number < storage.size) {offers : List (String × StoredOffer)}
    (seated : ∀ entry ∈ offers, ∀ other, entry.2 = .handedOver (.builtIn .equals other) →
      other < storage.size) :
    (storage.setMessages (.at number) offers).1.Anchored := by
  induction offers generalizing storage with
  | nil =>
      exact anchored
  | cons entry rest inductionHypothesis =>
      obtain ⟨first, later⟩ := List.forall_mem_cons.mp seated
      obtain ⟨rule, offer⟩ := entry
      unfold Storage.setMessages
      cases offered : StoredAddition.ofMessage? rule offer with
      | none =>
          exact anchored
      | some addition =>
          have sizes := size_add storage (.at number) addition
          refine inductionHypothesis (anchored.add even there ?_) (even.add _ _) (sizes ▸ there)
            (sizes ▸ later)
          intro other words
          exact first other (StoredAddition.handedOver_of_ofMessage? offered words)

/-! ## What a registry answers -/

/-- The message of a rule, as the registry hands it out. -/
def messageFor (storage : Storage) (stored : StoredRegistry) (name : String) : StoredMessage :=
  match (storage.tables stored).messages.get? name with
  | some message => message
  | none =>
      match ((storage.tables stored).rules.get? name).bind StoredRule.message? with
      | some message => message
      | none =>
          match BuiltIn.ofName? name with
          | some rule => .builtIn rule stored.composedOver
          | none => .made .generic

theorem Anchored.messageFor (anchored : storage.Anchored) (there : number < storage.size)
    {name : String} {labels : Nat}
    (handedOut : storage.messageFor (.at number) name = .builtIn .equals labels) :
    labels < storage.size := by
  unfold Storage.messageFor at handedOut
  split at handedOut
  · next found =>
    exact anchored number there labels (.set (handedOut ▸ found))
  · split at handedOut
    · next came =>
      obtain ⟨rule, added, own⟩ := Option.bind_eq_some_iff.mp came
      exact anchored number there labels (.own added (handedOut ▸ own))
    · split at handedOut
      · cases handedOut
        exact there
      · cases handedOut

/-- What a message says now. -/
def wording (storage : Storage) : StoredMessage → Message
  | .made message => message
  | .builtIn rule labels => .ofBuiltIn (labelOf (tableAt storage.labels labels)) rule

def ruleOf (storage : Storage) (rule : StoredRule) : Rule where
  name := rule.name
  predicate := rule.predicate
  message? := rule.message?.map storage.wording
  looksAtRecord := rule.looksAtRecord

/-- What a validation sees of a registry.  It sees labels in messages only. -/
def registry (storage : Storage) (stored : StoredRegistry) : Registry where
  rules := (storage.tables stored).rules.map storage.ruleOf
  messages := (storage.tables stored).messages.map storage.wording
  labels := tableAt storage.labels stored.composedOver

def lookup (storage : Storage) (stored : StoredRegistry) (name : String) :
    Except Mistake StoredRule :=
  match (storage.tables stored).rules.get? name with
  | some rule => .ok rule
  | none =>
      match BuiltIn.ofName? name with
      | some rule => .ok (.ofBuiltIn rule)
      | none => .error (.unknownRule name)

def label (storage : Storage) (stored : StoredRegistry) (field : String) : Value :=
  labelOf (storage.tables stored).labels field

/-- The message that a registry hands out says what the registry has as the message. -/
theorem wording_messageFor (storage : Storage) (stored : StoredRegistry) (name : String) :
    storage.wording (storage.messageFor stored name) =
      (storage.registry stored).messageFor name := by
  simp only [messageFor, Registry.messageFor, registry, Table.get?_map]
  cases (storage.tables stored).messages.get? name with
  | some message =>
      rfl
  | none =>
      cases (storage.tables stored).rules.get? name with
      | none =>
          cases BuiltIn.ofName? name <;> rfl
      | some rule =>
          cases came : rule.message? with
          | some message =>
              simp [came, ruleOf]
          | none =>
              simp only [Option.map_none, Option.map_some, Option.bind_some, came, ruleOf]
              cases BuiltIn.ofName? name <;> rfl

theorem map_lookup (storage : Storage) (stored : StoredRegistry) (name : String) :
    (storage.lookup stored name).map storage.ruleOf = (storage.registry stored).lookup name := by
  simp only [lookup, Registry.lookup, Registry.rule?, registry, Table.get?_map]
  cases (storage.tables stored).rules.get? name with
  | some rule =>
      rfl
  | none =>
      cases BuiltIn.ofName? name <;> rfl

/-- What a registry in storage hands out. -/
structure Holdings where
  names : List String
  lookup : String → Except Mistake StoredRule
  message : String → StoredMessage
  label : String → Value

def holdings (storage : Storage) (stored : StoredRegistry) : Holdings where
  names := (storage.registry stored).names
  lookup := storage.lookup stored
  message := storage.messageFor stored
  label := storage.label stored

theorem holdings_eq {next : Storage} {stored : StoredRegistry}
    (same : next.tables stored = storage.tables stored) :
    next.holdings stored = storage.holdings stored := by
  have names : (next.registry stored).names = (storage.registry stored).names := by
    simp only [Registry.names, Registry.addedNames, registry, Table.keys_map, same]
  have lookups : next.lookup stored = storage.lookup stored :=
    funext fun name => by rw [lookup, lookup, same]
  have messages : next.messageFor stored = storage.messageFor stored :=
    funext fun name => by rw [messageFor, messageFor, same]
  have labels : next.label stored = storage.label stored :=
    funext fun field => by rw [label, label, same]
  rw [holdings, holdings, names, lookups, messages, labels]

theorem registry_of_tables {registry : Registry}
    (stands : storage.tables (.at number) = .ofRegistry registry) :
    storage.registry (.at number) = registry := by
  have rules : ∀ rule, storage.ruleOf (.ofRule rule) = rule := by
    intro rule
    obtain ⟨name, predicate, message?, looksAtRecord⟩ := rule
    cases message? <;> rfl
  have labels : tableAt storage.labels number = registry.labels := congrArg Tables.labels stands
  simp only [Storage.registry, stands, Tables.ofRegistry]
  rw [Table.map_map_of_inverse rules, Table.map_map_of_inverse fun _ => rfl]
  exact congrArg (Registry.mk _ _) labels

/-! ## What the messages of a registry depend on -/

variable {next : Storage}

/-- A message says the same if it looks labels up where none has changed. -/
theorem wording_eq {message : StoredMessage}
    (seen : ∀ number, message = .builtIn .equals number →
      tableAt next.labels number = tableAt storage.labels number) :
    next.wording message = storage.wording message := by
  cases message with
  | made message =>
      rfl
  | builtIn rule number =>
      cases rule with
      | equals =>
          rw [wording, wording, seen number rfl]
      | required | string | number | numeric | alpha | min | max | email =>
          rfl

/-- Registries with the same tables are the same, if their messages look labels up where none
has changed. -/
theorem registry_eq (same : next.tables (.at other) = storage.tables (.at number))
    (seen : ∀ labels, (storage.tables (.at number)).LooksUp labels →
      tableAt next.labels labels = tableAt storage.labels labels) :
    next.registry (.at other) = storage.registry (.at number) := by
  have messages : (storage.tables (.at number)).messages.All fun message =>
      next.wording message = storage.wording message :=
    fun _ message found => wording_eq fun labels isBuiltIn => seen labels (.set (isBuiltIn ▸ found))
  have rules : (storage.tables (.at number)).rules.All fun rule =>
      next.ruleOf rule = storage.ruleOf rule := by
    intro _ rule added
    have own : rule.message?.map next.wording = rule.message?.map storage.wording := by
      cases came : rule.message? with
      | none =>
          rfl
      | some message =>
          refine congrArg some (wording_eq fun labels isBuiltIn => ?_)
          exact seen labels (.own added (isBuiltIn ▸ came))
    rw [ruleOf, ruleOf, own]
  have labels : tableAt next.labels (StoredRegistry.at other).composedOver =
      tableAt storage.labels (StoredRegistry.at number).composedOver :=
    congrArg Tables.labels same
  simp only [registry, same, Table.map_congr messages, Table.map_congr rules, labels]

end Storage

/-! ## Answers -/

section Host

variable [Host]

structure Registry.Answers where
  names : List String
  lookup : String → Except Mistake Rule
  message : String → Message
  rendered : String → Value → List String → Except Failure String
  label : String → Value

def Registry.answers (registry : Registry) : Registry.Answers where
  names := registry.names
  lookup := registry.lookup
  message := registry.messageFor
  rendered := registry.renderMessage
  label := registry.label

namespace Storage

variable {storage next : Storage}

def answers (storage : Storage) (stored : StoredRegistry) : Registry.Answers :=
  { (storage.registry stored).answers with label := storage.label stored }

theorem answers_at (storage : Storage) (number : Nat) :
    storage.answers (.at number) = (storage.registry (.at number)).answers :=
  rfl

theorem rendered_eq (storage : Storage) (stored : StoredRegistry) (name : String) :
    (storage.answers stored).rendered name =
      (storage.wording (storage.messageFor stored name)).render name := by
  rw [wording_messageFor]
  rfl

end Storage

end Host

end FormCheck
