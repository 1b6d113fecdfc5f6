import FormCheck.Proofs.SessionRun
import FormCheck.Proofs.Storage

/-!
# Sessions with their registries in storage

In storage a change is made in place.  A copy allocates new tables, and a validator is no more
than a registry: one of the session's when it is made without messages, and a copy that no
other registry knows of when it is made with messages.  Such a copy is allocated even when one
of the messages is refused.

A change writes to the tables of the current registry and to no others that are there
(`Proper.tables_perform`).  As long as all messages are made by callers, such a session shows
what a session of registries as values shows (`Represents`), after any number of changes.
-/

namespace FormCheck

/-- A session whose registries are kept in storage, with all validators that were made. -/
structure StoredSession where
  storage : Storage
  registries : List StoredRegistry
  current : Nat
  validators : List StoredRegistry

namespace StoredSession

/-- What is offered as a message in a session: what somebody made, or the message of a rule
that the registry with an index hands out. -/
inductive Offer where
  | made (offer : MessageOffer)
  | handedOver (index : Nat) (rule : String)

inductive Change where
  | register (name : String) (predicate? : Option Predicate) (offer : Offer)
      (looksAtRecord : Bool)
  | setMessage (rule : String) (offer : Offer)
  | setLabel (field : String) (label : Value)
  | copy
  | select (index : Nat)
  | keepValidator (messages : Table Offer)

namespace Change

def ofSession : Session.Change → Change
  | .register name predicate? offer looksAtRecord =>
      .register name predicate? (.made offer) looksAtRecord
  | .setMessage rule offer => .setMessage rule (.made offer)
  | .setLabel field label => .setLabel field label
  | .copy => .copy
  | .select index => .select index
  | .keepValidator messages => .keepValidator (messages.map .made)

def SetsLabel : Change → Prop
  | .setLabel _ _ => True
  | _ => False

end Change

/-- The session that begins with a registry. -/
def start (registry : Registry) : StoredSession where
  storage := ⟨[registry.rules.map .ofRule], [registry.messages.map .made], [registry.labels]⟩
  registries := [.at 0]
  current := 0
  validators := []

/-- The registry with an index; one that is not there is taken for the first. -/
def registryAt (stored : StoredSession) (index : Nat) : StoredRegistry :=
  stored.registries[index]?.getD (.at 0)

def currentRegistry (stored : StoredSession) : StoredRegistry :=
  stored.registryAt stored.current

def offered (stored : StoredSession) : Offer → StoredOffer
  | .made offer => .made offer
  | .handedOver index rule =>
      .handedOver (stored.storage.messageFor (stored.registryAt index) rule)

def addition? (stored : StoredSession) : Change → Option StoredAddition
  | .register name predicate? offer looksAtRecord =>
      StoredAddition.ofRule? name predicate? (stored.offered offer) looksAtRecord
  | .setMessage rule offer => StoredAddition.ofMessage? rule (stored.offered offer)
  | .setLabel field label => some (.label field label)
  | .copy | .select _ | .keepValidator _ => none

/-- Keep a validator.  Its messages are set in a copy, up to the first that is refused. -/
def keepValidator (stored : StoredSession) (offers : Table Offer) : StoredSession :=
  if offers.isEmpty then
    { stored with validators := stored.validators ++ [stored.currentRegistry] }
  else
    let (extended, own) := stored.storage.copy stored.currentRegistry
    let (changed, allSet) := extended.setMessages own (offers.map stored.offered).entries
    { stored with
      storage := changed
      validators := if allSet then stored.validators ++ [own] else stored.validators }

def addOffered (stored : StoredSession) : Option StoredAddition → StoredSession
  | some addition => { stored with storage := stored.storage.add stored.currentRegistry addition }
  | none => stored

/-- The session after a change that was accepted or refused. -/
def perform (stored : StoredSession) : Change → StoredSession
  | .copy =>
      let (extended, copied) := stored.storage.copy stored.currentRegistry
      { stored with
        storage := extended
        registries := stored.registries ++ [copied]
        current := stored.registries.length }
  | .select index => { stored with current := index }
  | .keepValidator offers => stored.keepValidator offers
  | change => stored.addOffered (stored.addition? change)

def performAll (stored : StoredSession) (changes : List Change) : StoredSession :=
  changes.foldl perform stored

/-- A registry that is selected is one of those that are there. -/
def SelectsPresent (stored : StoredSession) : Change → Prop
  | .select index => index < stored.registries.length
  | _ => True

def AllSelectPresent (stored : StoredSession) : List Change → Prop
  | [] => True
  | change :: rest => stored.SelectsPresent change ∧ (stored.perform change).AllSelectPresent rest

/-- The tables of a registry are there and were created together. -/
def Whole (stored : StoredSession) (registry : StoredRegistry) : Prop :=
  ∃ number < stored.storage.size, registry = .at number

/-- Every registry has tables of its own, and messages look labels up where there are some. -/
structure Proper (stored : StoredSession) : Prop where
  even : stored.storage.Even
  anchored : stored.storage.Anchored
  whole : ∀ registry ∈ stored.registries, stored.Whole registry
  /-- No two registries have a table in common. -/
  apart : stored.registries.Nodup
  current_present : stored.current < stored.registries.length
  validators_whole : ∀ validator ∈ stored.validators, stored.Whole validator

variable {stored : StoredSession}

theorem proper_start (registry : Registry) : (start registry).Proper where
  even := ⟨rfl, rfl⟩
  anchored := by
    intro number there other looks
    obtain rfl := Nat.lt_one_iff.mp there
    have stands : (start registry).storage.tables (.at 0) = .ofRegistry registry := rfl
    rw [stands] at looks
    exact absurd looks (Tables.not_looksUp_ofRegistry registry other)
  whole found member := ⟨0, Nat.zero_lt_one, List.mem_singleton.mp member⟩
  apart := List.pairwise_singleton _ _
  current_present := Nat.zero_lt_one
  validators_whole := List.forall_mem_nil _

namespace Proper

/-! ## The current registry -/

theorem currentRegistry_eq (proper : stored.Proper) :
    ∃ number < stored.storage.size, stored.currentRegistry = .at number ∧
      stored.registries[stored.current]? = some (.at number) := by
  have present := proper.current_present
  obtain ⟨number, there, same⟩ := proper.whole _ (List.getElem_mem present)
  have found : stored.registries[stored.current]? = some (.at number) := by
    rw [List.getElem?_eq_getElem present, same]
  exact ⟨number, there, by rw [currentRegistry, registryAt, found, Option.getD_some], found⟩

theorem currentRegistry_mem (proper : stored.Proper) :
    stored.currentRegistry ∈ stored.registries := by
  obtain ⟨number, -, same, found⟩ := proper.currentRegistry_eq
  exact same ▸ List.mem_of_getElem? found

theorem ne_currentRegistry (proper : stored.Proper) {index : Nat} {registry : StoredRegistry}
    (found : stored.registries[index]? = some registry) (different : index ≠ stored.current) :
    registry ≠ stored.currentRegistry := by
  obtain ⟨number, -, same, current⟩ := proper.currentRegistry_eq
  rintro rfl
  obtain ⟨present, -⟩ := List.getElem?_eq_some_iff.mp found
  rw [same] at found
  exact different ((List.getElem?_inj present proper.apart).mp (found.trans current.symm))

/-- A new registry lies under a number that no registry had before. -/
theorem not_whole_size (stored : StoredSession) : ¬ stored.Whole (.at stored.storage.size) := by
  rintro ⟨number, there, same⟩
  have numbers : stored.storage.size = number := congrArg StoredRegistry.rules same
  omega

theorem whole_registryAt (proper : stored.Proper) (index : Nat) :
    stored.Whole (stored.registryAt index) := by
  unfold registryAt
  cases found : stored.registries[index]? with
  | some registry =>
      exact proper.whole registry (List.mem_of_getElem? found)
  | none =>
      obtain ⟨number, there, -⟩ := proper.whole _ proper.currentRegistry_mem
      exact ⟨0, Nat.zero_lt_of_lt there, rfl⟩

/-- A message that a registry hands out looks labels up where there are some. -/
theorem seated_offered (proper : stored.Proper) {offer : Offer} {labels : Nat}
    (handedOver : stored.offered offer = .handedOver (.builtIn .equals labels)) :
    labels < stored.storage.size := by
  cases offer with
  | made offer =>
      cases handedOver
  | handedOver index rule =>
      obtain ⟨number, there, same⟩ := proper.whole_registryAt index
      rw [offered, same] at handedOver
      exact proper.anchored.messageFor there (StoredOffer.handedOver.inj handedOver)

/-! ## What a change writes -/

/-- What becomes of a copy of the current registry that a validator is made of. -/
theorem keepValidator_eq (proper : stored.Proper) {offers : Table Offer}
    (given : offers.isEmpty = false) :
    stored.perform (.keepValidator offers) =
      let own := StoredRegistry.at stored.storage.size
      let made := (stored.storage.copy stored.currentRegistry).1.setMessages own
        (offers.map stored.offered).entries
      { stored with
        storage := made.1
        validators := if made.2 then stored.validators ++ [own] else stored.validators } := by
  have fresh := Storage.copy_at proper.even stored.currentRegistry
  simp only [perform, keepValidator, given, Bool.false_eq_true, ↓reduceIte, ← fresh]

theorem keepValidator_of_isEmpty (stored : StoredSession) {offers : Table Offer}
    (none : offers.isEmpty = true) :
    stored.perform (.keepValidator offers) =
      { stored with validators := stored.validators ++ [stored.currentRegistry] } :=
  if_pos none

theorem size_ownMessages (stored : StoredSession) (offers : List (String × StoredOffer)) :
    ((stored.storage.copy stored.currentRegistry).1.setMessages (.at stored.storage.size)
      offers).1.size = stored.storage.size + 1 := by
  rw [Storage.size_setMessages, Storage.size_copy]

theorem tables_addOffered (proper : stored.Proper) (offered? : Option StoredAddition)
    {registry : StoredRegistry} (whole : stored.Whole registry) :
    (stored.addOffered offered?).storage.tables registry =
      match offered? with
      | some addition =>
          if registry = stored.currentRegistry then
            (stored.storage.tables registry).add addition
          else
            stored.storage.tables registry
      | none => stored.storage.tables registry := by
  obtain ⟨number, there, rfl⟩ := whole
  obtain ⟨current, -, same, -⟩ := proper.currentRegistry_eq
  cases offered? with
  | none =>
      rfl
  | some addition =>
      simp only [addOffered, same]
      split
      · next here =>
        obtain rfl : number = current := congrArg StoredRegistry.rules here
        exact Storage.tables_add_self proper.even there addition
      · next elsewhere =>
        refine Storage.tables_add_other ?_ addition
        rintro rfl
        exact elsewhere rfl

/-- A change writes to the tables of the current registry what it adds, and to no other tables
that are there. -/
theorem tables_perform (proper : stored.Proper) (change : Change) {registry : StoredRegistry}
    (whole : stored.Whole registry) :
    (stored.perform change).storage.tables registry =
      match stored.addition? change with
      | some addition =>
          if registry = stored.currentRegistry then
            (stored.storage.tables registry).add addition
          else
            stored.storage.tables registry
      | none => stored.storage.tables registry := by
  cases change with
  | copy =>
      obtain ⟨number, there, rfl⟩ := whole
      exact Storage.tables_copy_old proper.even _ there
  | select index =>
      rfl
  | keepValidator offers =>
      cases given : offers.isEmpty with
      | true =>
          rw [keepValidator_of_isEmpty stored given]
          rfl
      | false =>
          obtain ⟨number, there, rfl⟩ := whole
          rw [proper.keepValidator_eq given]
          exact (Storage.tables_setMessages_other (Nat.ne_of_lt there) _).trans
            (Storage.tables_copy_old proper.even _ there)
  | register | setMessage | setLabel =>
      exact proper.tables_addOffered _ whole

theorem tables_perform_other (proper : stored.Proper) (change : Change)
    {registry : StoredRegistry} (whole : stored.Whole registry)
    (other : registry ≠ stored.currentRegistry) :
    (stored.perform change).storage.tables registry = stored.storage.tables registry := by
  rw [proper.tables_perform change whole]
  cases stored.addition? change with
  | none =>
      rfl
  | some addition =>
      exact if_neg other

theorem size_perform (stored : StoredSession) (change : Change) :
    stored.storage.size ≤ (stored.perform change).storage.size := by
  have added (offered? : Option StoredAddition) :
      stored.storage.size ≤ (stored.addOffered offered?).storage.size := by
    cases offered? with
    | none =>
        exact Nat.le_refl _
    | some addition =>
        exact Nat.le_of_eq (Storage.size_add stored.storage _ addition).symm
  cases change with
  | copy =>
      have grown := Storage.size_copy stored.storage stored.currentRegistry
      exact grown ▸ Nat.le_succ stored.storage.size
  | select index =>
      exact Nat.le_refl _
  | keepValidator offers =>
      simp only [perform, keepValidator]
      split
      · exact Nat.le_refl _
      · simp only [Storage.size_setMessages, Storage.size_copy]
        exact Nat.le_succ _
  | register | setMessage | setLabel =>
      exact added _

theorem registries_addOffered (stored : StoredSession) (offered? : Option StoredAddition) :
    (stored.addOffered offered?).registries = stored.registries := by
  cases offered? <;> rfl

theorem registries_keepValidator (stored : StoredSession) (offers : Table Offer) :
    (stored.perform (.keepValidator offers)).registries = stored.registries := by
  simp only [perform, keepValidator]
  split <;> rfl

theorem current_keepValidator (stored : StoredSession) (offers : Table Offer) :
    (stored.perform (.keepValidator offers)).current = stored.current := by
  simp only [perform, keepValidator]
  split <;> rfl

theorem registries_copy (proper : stored.Proper) :
    (stored.perform .copy).registries = stored.registries ++ [.at stored.storage.size] :=
  congrArg (fun copied => stored.registries ++ [copied])
    (Storage.copy_at proper.even stored.currentRegistry)

end Proper

/-! ## What a session leads to -/

/-- What a session in storage leads to: registries and validators are added behind the others,
and the tables of a registry that is none of the session's stay what they are. -/
structure Leads (stored next : StoredSession) : Prop where
  registries_grow : ∃ added, next.registries = stored.registries ++ added
  validators_grow : ∃ made, next.validators = stored.validators ++ made
  stays_whole : ∀ registry, stored.Whole registry → next.Whole registry
  stays_hidden : ∀ registry, stored.Whole registry → registry ∉ stored.registries →
    registry ∉ next.registries ∧
      next.storage.tables registry = stored.storage.tables registry

namespace Leads

variable {next last : StoredSession}

theorem refl (stored : StoredSession) : stored.Leads stored where
  registries_grow := ⟨[], (List.append_nil _).symm⟩
  validators_grow := ⟨[], (List.append_nil _).symm⟩
  stays_whole _ whole := whole
  stays_hidden _ _ hidden := ⟨hidden, rfl⟩

theorem trans (first : stored.Leads next) (second : next.Leads last) : stored.Leads last where
  registries_grow := by
    obtain ⟨added, grown⟩ := first.registries_grow
    obtain ⟨later, grownLater⟩ := second.registries_grow
    exact ⟨added ++ later, by rw [grownLater, grown, List.append_assoc]⟩
  validators_grow := by
    obtain ⟨made, grown⟩ := first.validators_grow
    obtain ⟨later, grownLater⟩ := second.validators_grow
    exact ⟨made ++ later, by rw [grownLater, grown, List.append_assoc]⟩
  stays_whole registry whole := second.stays_whole registry (first.stays_whole registry whole)
  stays_hidden registry whole hidden := by
    obtain ⟨hiddenNext, same⟩ := first.stays_hidden registry whole hidden
    obtain ⟨hiddenLast, sameLast⟩ :=
      second.stays_hidden registry (first.stays_whole registry whole) hiddenNext
    exact ⟨hiddenLast, sameLast.trans same⟩

theorem getElem?_registries (leads : stored.Leads next) {index : Nat}
    {registry : StoredRegistry} (found : stored.registries[index]? = some registry) :
    next.registries[index]? = some registry := by
  obtain ⟨added, grown⟩ := leads.registries_grow
  obtain ⟨there, -⟩ := List.getElem?_eq_some_iff.mp found
  rw [grown, List.getElem?_append_left there, found]

end Leads

namespace Proper

theorem leads (proper : stored.Proper) (change : Change) :
    stored.Leads (stored.perform change) where
  registries_grow := by
    cases change with
    | copy =>
        exact ⟨_, rfl⟩
    | select index =>
        exact ⟨[], (List.append_nil _).symm⟩
    | keepValidator offers =>
        exact ⟨[], by rw [registries_keepValidator, List.append_nil]⟩
    | register | setMessage | setLabel =>
        exact ⟨[], (registries_addOffered stored _).trans (List.append_nil _).symm⟩
  validators_grow := by
    have unchanged (offered? : Option StoredAddition) :
        (stored.addOffered offered?).validators = stored.validators ++ [] := by
      cases offered? <;> exact (List.append_nil _).symm
    cases change with
    | copy | select =>
        exact ⟨[], (List.append_nil _).symm⟩
    | keepValidator offers =>
        simp only [perform, keepValidator]
        split
        · exact ⟨_, rfl⟩
        · dsimp only
          split
          · exact ⟨_, rfl⟩
          · exact ⟨[], (List.append_nil _).symm⟩
    | register | setMessage | setLabel =>
        exact ⟨[], unchanged _⟩
  stays_whole registry whole := by
    obtain ⟨number, there, rfl⟩ := whole
    exact ⟨number, Nat.lt_of_lt_of_le there (size_perform stored change), rfl⟩
  stays_hidden registry whole hidden := by
    have other : registry ≠ stored.currentRegistry := by
      rintro rfl
      exact hidden proper.currentRegistry_mem
    refine ⟨?_, proper.tables_perform_other change whole other⟩
    cases change with
    | copy =>
        rw [proper.registries_copy]
        intro member
        rcases List.mem_append.mp member with old | new
        · exact hidden old
        · exact not_whole_size stored (List.mem_singleton.mp new ▸ whole)
    | select index =>
        exact hidden
    | keepValidator offers =>
        rw [registries_keepValidator]
        exact hidden
    | register | setMessage | setLabel =>
        exact fun member => hidden (registries_addOffered stored _ ▸ member)

/-! ## What every change keeps -/

theorem addOffered (proper : stored.Proper) {offered? : Option StoredAddition}
    (seated : ∀ addition, offered? = some addition → ∀ labels,
      addition.words? = some (.builtIn .equals labels) → labels < stored.storage.size) :
    (stored.addOffered offered?).Proper := by
  cases offered? with
  | none =>
      exact proper
  | some addition =>
      obtain ⟨number, there, same, -⟩ := proper.currentRegistry_eq
      have sizes := Storage.size_add stored.storage stored.currentRegistry addition
      have stays : ∀ registry, stored.Whole registry →
          (stored.addOffered (some addition)).Whole registry := by
        rintro registry ⟨own, present, rfl⟩
        exact ⟨own, sizes.symm ▸ present, rfl⟩
      refine ⟨proper.even.add _ _, ?_, fun registry member => stays _ (proper.whole _ member),
        proper.apart, proper.current_present,
        fun registry member => stays _ (proper.validators_whole _ member)⟩
      simp only [StoredSession.addOffered, same]
      exact proper.anchored.add proper.even there (seated addition rfl)

theorem copy (proper : stored.Proper) : (stored.perform .copy).Proper := by
  have leads := proper.leads .copy
  have registries := proper.registries_copy
  have grown := Storage.size_copy stored.storage stored.currentRegistry
  obtain ⟨number, there, same, -⟩ := proper.currentRegistry_eq
  refine ⟨proper.even.copy _, ?_, ?_, ?_, ?_,
    fun registry member => leads.stays_whole _ (proper.validators_whole _ member)⟩
  · simp only [perform, same]
    exact proper.anchored.copy proper.even there
  · intro registry member
    rw [registries] at member
    rcases List.mem_append.mp member with old | added
    · exact leads.stays_whole registry (proper.whole registry old)
    · rw [List.mem_singleton.mp added]
      exact ⟨_, grown ▸ Nat.lt_succ_self _, rfl⟩
  · rw [registries]
    refine List.nodup_append.mpr ⟨proper.apart, List.pairwise_singleton _ _, ?_⟩
    rintro registry member _ added rfl
    exact not_whole_size stored (List.mem_singleton.mp added ▸ proper.whole _ member)
  · simp [perform]

theorem keepValidator (proper : stored.Proper) (offers : Table Offer) :
    (stored.perform (.keepValidator offers)).Proper := by
  have leads := proper.leads (.keepValidator offers)
  have registries := registries_keepValidator stored offers
  have whole : ∀ registry ∈ (stored.perform (.keepValidator offers)).registries,
      (stored.perform (.keepValidator offers)).Whole registry := by
    intro registry member
    rw [registries] at member
    exact leads.stays_whole registry (proper.whole registry member)
  cases given : offers.isEmpty with
  | true =>
      rw [keepValidator_of_isEmpty stored given]
      refine ⟨proper.even, proper.anchored, proper.whole, proper.apart, proper.current_present, ?_⟩
      intro validator member
      rcases List.mem_append.mp member with old | new
      · exact proper.validators_whole validator old
      · rw [List.mem_singleton.mp new]
        exact proper.whole _ proper.currentRegistry_mem
  | false =>
      obtain ⟨number, there, same, -⟩ := proper.currentRegistry_eq
      have grown := Storage.size_copy stored.storage stored.currentRegistry
      have final := size_ownMessages stored (offers.map stored.offered).entries
      have stays := leads.stays_whole
      rw [proper.keepValidator_eq given] at whole stays ⊢
      refine ⟨(proper.even.copy _).setMessages _ _, ?_, whole, proper.apart,
        proper.current_present, ?_⟩
      · rw [same] at grown ⊢
        refine (proper.anchored.copy proper.even there).setMessages (proper.even.copy _)
          (grown ▸ Nat.lt_succ_self _) ?_
        intro entry member labels handedOver
        obtain ⟨offer, -, rfl⟩ := List.mem_map.mp member
        rw [grown]
        exact Nat.lt_succ_of_lt (proper.seated_offered handedOver)
      · intro validator member
        dsimp only at member
        split at member
        · rcases List.mem_append.mp member with old | new
          · exact stays validator (proper.validators_whole validator old)
          · rw [List.mem_singleton.mp new]
            exact ⟨_, final ▸ Nat.lt_succ_self _, rfl⟩
        · exact stays validator (proper.validators_whole validator member)

theorem perform (proper : stored.Proper) {change : Change}
    (present : stored.SelectsPresent change) : (stored.perform change).Proper := by
  cases change with
  | copy =>
      exact proper.copy
  | select index =>
      exact ⟨proper.even, proper.anchored, proper.whole, proper.apart, present,
        proper.validators_whole⟩
  | keepValidator offers =>
      exact proper.keepValidator offers
  | setLabel field label =>
      have seated : ∀ addition, some (StoredAddition.label field label) = some addition →
          ∀ labels, addition.words? = some (.builtIn .equals labels) →
            labels < stored.storage.size := by
        rintro _ ⟨⟩ labels ⟨⟩
      exact proper.addOffered seated
  | register name predicate? offer looksAtRecord =>
      refine proper.addOffered fun addition offered labels words => ?_
      exact proper.seated_offered (StoredAddition.handedOver_of_ofRule? offered words)
  | setMessage rule offer =>
      refine proper.addOffered fun addition offered labels words => ?_
      exact proper.seated_offered (StoredAddition.handedOver_of_ofMessage? offered words)

theorem performAll (proper : stored.Proper) {changes : List Change}
    (present : stored.AllSelectPresent changes) :
    (stored.performAll changes).Proper ∧ stored.Leads (stored.performAll changes) := by
  induction changes generalizing stored with
  | nil =>
      exact ⟨proper, .refl stored⟩
  | cons change rest inductionHypothesis =>
      obtain ⟨selects, later⟩ := present
      obtain ⟨last, leadsOn⟩ := inductionHypothesis (proper.perform selects) later
      exact ⟨last, (proper.leads change).trans leadsOn⟩

theorem tables_copy_current (proper : stored.Proper) :
    (stored.storage.copy stored.currentRegistry).1.tables (.at stored.storage.size) =
      stored.storage.tables stored.currentRegistry := by
  obtain ⟨number, -, same, -⟩ := proper.currentRegistry_eq
  have begun := Storage.tables_copy_new stored.storage number
  rwa [← same, Storage.copy_at proper.even] at begun

end Proper

/-! ## Sessions of registries as values -/

/-- A validator in storage is the one that a session keeps. -/
def Holds (stored : StoredSession) (validator : StoredRegistry) : KeptValidator → Prop
  | .shared index => stored.registries[index]? = some validator
  | .own registry =>
      stored.Whole validator ∧ validator ∉ stored.registries ∧
        stored.storage.tables validator = .ofRegistry registry

theorem Leads.holds {next : StoredSession} (leads : stored.Leads next)
    {validator : StoredRegistry} {kept : KeptValidator} (held : stored.Holds validator kept) :
    next.Holds validator kept := by
  cases kept with
  | shared index =>
      exact leads.getElem?_registries held
  | own registry =>
      obtain ⟨whole, hidden, shown⟩ := held
      obtain ⟨hiddenNext, same⟩ := leads.stays_hidden validator whole hidden
      exact ⟨leads.stays_whole validator whole, hiddenNext, same.trans shown⟩

/-- A session in storage stands for a session of registries as values. -/
structure Represents (stored : StoredSession) (session : Session) : Prop where
  proper : stored.Proper
  shown : stored.registries.map stored.storage.tables = session.registries.map .ofRegistry
  current_eq : stored.current = session.current
  none_kept : session.validator? = none → stored.validators = []
  last_kept : ∀ kept, session.validator? = some kept →
    ∃ validator, stored.validators.getLast? = some validator ∧ stored.Holds validator kept

theorem represents_start (registry : Registry) : (start registry).Represents (.start registry) where
  proper := proper_start registry
  shown := rfl
  current_eq := rfl
  none_kept _ := rfl
  last_kept kept made := by cases made

theorem addition?_ofSession (stored : StoredSession) (change : Session.Change) :
    stored.addition? (.ofSession change) = change.addition?.map .ofAddition := by
  cases change with
  | register name predicate? offer looksAtRecord =>
      exact StoredAddition.ofRule?_made name predicate? offer looksAtRecord
  | setMessage rule offer =>
      exact StoredAddition.ofMessage?_made rule offer
  | setLabel | copy | select | keepValidator =>
      rfl

namespace Represents

variable {session : Session}

theorem length_registries (represents : stored.Represents session) :
    stored.registries.length = session.registries.length := by
  have lengths := congrArg List.length represents.shown
  rwa [List.length_map, List.length_map] at lengths

theorem tables_of_getElem? (represents : stored.Represents session) {index : Nat}
    {registry : StoredRegistry} (found : stored.registries[index]? = some registry) :
    ∃ value, session.registries[index]? = some value ∧
      stored.storage.tables registry = .ofRegistry value := by
  have same := congrArg (·[index]?) represents.shown
  simp only [List.getElem?_map, found, Option.map_some] at same
  obtain ⟨value, there, stands⟩ := Option.map_eq_some_iff.mp same.symm
  exact ⟨value, there, stands.symm⟩

theorem tables_currentRegistry (represents : stored.Represents session) :
    stored.storage.tables stored.currentRegistry = .ofRegistry session.currentRegistry := by
  obtain ⟨number, -, same, found⟩ := represents.proper.currentRegistry_eq
  obtain ⟨value, there, stands⟩ := represents.tables_of_getElem? found
  rw [represents.current_eq] at there
  rw [same, stands, Session.currentRegistry, Session.registry, there, Option.getD_some]

theorem add (represents : stored.Represents session) {addition : Registry.Addition}
    (proper : (stored.addOffered (some (.ofAddition addition))).Proper)
    (leads : stored.Leads (stored.addOffered (some (.ofAddition addition)))) :
    (stored.addOffered (some (.ofAddition addition))).Represents
      (session.withCurrent (session.currentRegistry.add addition)) := by
  have before := represents.proper
  have written : ∀ registry ∈ stored.registries, _ := fun registry member =>
    before.tables_addOffered (some (.ofAddition addition)) (before.whole registry member)
  refine ⟨proper, ?_, represents.current_eq, represents.none_kept, ?_⟩
  · refine List.ext_getElem? fun index => ?_
    change (stored.registries.map _)[index]? =
      ((session.registries.set session.current (session.currentRegistry.add addition)).map
        Tables.ofRegistry)[index]?
    rw [List.getElem?_map, List.getElem?_map, List.getElem?_set]
    -- Any registry but the current one lies under another number, where nothing is written.
    by_cases current : session.current = index
    · obtain ⟨number, -, same, found⟩ := before.currentRegistry_eq
      have present := before.current_present
      rw [represents.current_eq, represents.length_registries] at present
      rw [represents.current_eq, current, ← same] at found
      rw [if_pos current, if_pos present, found, Option.map_some, Option.map_some,
        written _ before.currentRegistry_mem]
      simp only [↓reduceIte, represents.tables_currentRegistry, Tables.ofRegistry_add]
    · have shown := congrArg (·[index]?) represents.shown
      simp only [List.getElem?_map] at shown
      rw [if_neg current, ← shown]
      refine Option.map_congr fun registry found => ?_
      have other := before.ne_currentRegistry found (represents.current_eq ▸ Ne.symm current)
      exact (written registry (List.mem_of_getElem? found)).trans (if_neg other)
  · intro kept made
    obtain ⟨validator, last, held⟩ := represents.last_kept kept made
    exact ⟨validator, last, leads.holds held⟩

theorem copy (represents : stored.Represents session) :
    (stored.perform .copy).Represents (session.perform .copy) := by
  have leads := represents.proper.leads .copy
  refine ⟨represents.proper.copy, ?_, ?_, represents.none_kept, ?_⟩
  · have old : stored.registries.map (stored.perform .copy).storage.tables =
        stored.registries.map stored.storage.tables :=
      List.map_congr_left fun registry member =>
        represents.proper.tables_perform .copy (represents.proper.whole registry member)
    have new : (stored.perform .copy).storage.tables (.at stored.storage.size) =
        .ofRegistry session.currentRegistry :=
      represents.proper.tables_copy_current.trans represents.tables_currentRegistry
    rw [represents.proper.registries_copy, List.map_append, old, List.map_singleton, new,
      represents.shown, Session.perform_eq, List.map_append, List.map_singleton]
  · exact represents.length_registries
  · intro kept made
    obtain ⟨validator, last, held⟩ := represents.last_kept kept made
    exact ⟨validator, last, leads.holds held⟩

theorem validators_keepValidator (represents : stored.Represents session)
    (offers : Table MessageOffer) :
    let next := stored.perform (.keepValidator (offers.map .made))
    match session.validatorWith offers with
    | .ok kept => ∃ validator, next.validators = stored.validators ++ [validator] ∧
        next.Holds validator kept
    | .error _ => next.validators = stored.validators := by
  obtain ⟨number, -, same, found⟩ := represents.proper.currentRegistry_eq
  have sameEmpty : (offers.map Offer.made).isEmpty = offers.isEmpty := by
    simp [Table.isEmpty, Table.map, Table.mapWithKey]
  cases given : offers.isEmpty with
  | true =>
      rw [Session.validatorWith, if_pos given,
        Proper.keepValidator_of_isEmpty stored (sameEmpty.trans given)]
      refine ⟨_, rfl, ?_⟩
      change stored.registries[session.current]? = _
      rw [← represents.current_eq, found, same]
  | false =>
      have grown := Storage.size_copy stored.storage stored.currentRegistry
      have ownThere : stored.storage.size <
          (stored.storage.copy stored.currentRegistry).1.size :=
        grown ▸ Nat.lt_succ_self _
      have final := Proper.size_ownMessages stored
        ((offers.map Offer.made).map stored.offered).entries
      have stands := represents.proper.tables_copy_current.trans represents.tables_currentRegistry
      have ended := Storage.setMessages_made (represents.proper.even.copy stored.currentRegistry)
        ownThere stands offers.entries
      have entries : ((offers.map Offer.made).map stored.offered).entries =
          offers.entries.map fun entry => (entry.1, .made entry.2) := by
        simp [Table.map, Table.mapWithKey, StoredSession.offered]
      rw [Session.validatorWith, if_neg (by simp [given]),
        represents.proper.keepValidator_eq (sameEmpty.trans given)]
      rw [entries] at final ⊢
      rcases set : session.currentRegistry.setMessages offers.entries with ⟨changed, outcome⟩
      simp only [set] at ended
      cases outcome with
      | ok =>
          obtain ⟨allSet, shownOwn⟩ := ended
          refine ⟨_, if_pos allSet, ⟨_, final ▸ Nat.lt_succ_self _, rfl⟩, ?_, shownOwn⟩
          exact fun member =>
            Proper.not_whole_size stored (represents.proper.whole _ member)
      | error mistake =>
          exact if_neg (by simp [ended])

theorem keepValidator (represents : stored.Represents session) (offers : Table MessageOffer) :
    (stored.perform (.keepValidator (offers.map .made))).Represents
      (session.perform (.keepValidator offers)) := by
  have leads := represents.proper.leads (.keepValidator (offers.map .made))
  have proper := represents.proper.keepValidator (offers.map .made)
  have validators := represents.validators_keepValidator offers
  have registries := Proper.registries_keepValidator stored (offers.map .made)
  have shown : (stored.perform (.keepValidator (offers.map .made))).registries.map
      (stored.perform (.keepValidator (offers.map .made))).storage.tables =
        session.registries.map .ofRegistry := by
    rw [registries, ← represents.shown]
    exact List.map_congr_left fun registry member =>
      represents.proper.tables_perform _ (represents.proper.whole registry member)
  have current : (stored.perform (.keepValidator (offers.map .made))).current =
      session.current :=
    (Proper.current_keepValidator stored _).trans represents.current_eq
  cases made : session.validatorWith offers with
  | ok validator =>
      rw [made] at validators
      obtain ⟨found, appended, held⟩ := validators
      simp only [Session.perform_eq, made]
      refine ⟨proper, shown, current, nofun, ?_⟩
      rintro _ ⟨⟩
      exact ⟨found, by rw [appended, List.getLast?_concat], held⟩
  | error mistake =>
      -- The copy stays in storage, but neither a registry nor a validator refers to it.
      rw [made] at validators
      simp only [Session.perform_eq, made]
      refine ⟨proper, shown, current, ?_, ?_⟩
      · intro none
        exact validators.trans (represents.none_kept none)
      · intro earlier keeps
        obtain ⟨validator, last, held⟩ := represents.last_kept earlier keeps
        exact ⟨validator, validators ▸ last, leads.holds held⟩

theorem perform (represents : stored.Represents session) {change : Session.Change}
    (present : stored.SelectsPresent (.ofSession change)) :
    (stored.perform (.ofSession change)).Represents (session.perform change) := by
  have proper := represents.proper.perform present
  have leads := represents.proper.leads (.ofSession change)
  have additions := stored.addition?_ofSession change
  cases change with
  | copy =>
      exact represents.copy
  | select index =>
      exact ⟨proper, represents.shown, rfl, represents.none_kept, represents.last_kept⟩
  | keepValidator offers =>
      exact represents.keepValidator offers
  | register | setMessage | setLabel =>
      rw [Session.perform_eq]
      simp only [StoredSession.perform, Change.ofSession] at proper leads additions ⊢
      rw [additions] at proper leads ⊢
      split
      · next addition offered =>
        rw [offered] at proper leads ⊢
        exact represents.add proper leads
      · next refused =>
        rw [refused]
        exact represents

theorem performAll (represents : stored.Represents session) {changes : List Session.Change}
    (present : stored.AllSelectPresent (changes.map .ofSession)) :
    (stored.performAll (changes.map .ofSession)).Represents (session.performAll changes) := by
  induction changes generalizing stored session with
  | nil =>
      exact represents
  | cons change rest inductionHypothesis =>
      obtain ⟨selects, later⟩ := present
      exact inductionHypothesis (represents.perform selects) later

theorem registry_of_holds (represents : stored.Represents session) {validator : StoredRegistry}
    {kept : KeptValidator} (held : stored.Holds validator kept) :
    stored.storage.registry validator = session.registryOf kept := by
  cases kept with
  | own registry =>
      obtain ⟨⟨number, -, rfl⟩, -, stands⟩ := held
      exact Storage.registry_of_tables stands
  | shared index =>
      obtain ⟨value, there, stands⟩ := represents.tables_of_getElem? held
      obtain ⟨number, -, rfl⟩ := represents.proper.whole validator (List.mem_of_getElem? held)
      rw [Storage.registry_of_tables stands, Session.registryOf, Session.registry, there,
        Option.getD_some]

end Represents

end StoredSession

end FormCheck
