import FormCheck.Predicate.Stock
import FormCheck.Proofs.RegistryHistory
import FormCheck.Session

/-!
# Runs of a session

Changes are made one after another, and a change that is refused leaves the session as it
was.  A chronicle keeps the history of every registry beside the session: an accepted
change is added to the history of the current registry, and a copy inherits the history
of the registry that it was copied from.

So the registries of a session can be rebuilt from their histories at any time.
-/

namespace FormCheck

open Registry (Addition KeepsBuiltIn)

namespace Session

/-- What a change adds to the current registry. -/
def Change.addition? : Change → Option Addition
  | .register name predicate? offer looksAtRecord =>
      Addition.ofRule? name predicate? offer looksAtRecord
  | .setMessage rule offer => Addition.ofMessage? rule offer
  | .setLabel field label => some (.label field label)
  | .copy | .select _ | .keepValidator _ => none

/-- The session after a change that was accepted or refused. -/
def perform (session : Session) (change : Change) : Session :=
  (session.apply change).1

def performAll (session : Session) (changes : List Change) : Session :=
  changes.foldl perform session

/-- A registry that is selected is one of those that are there. -/
def Change.SelectsPresent (count : Nat) : Change → Prop
  | .select index => index < count
  | _ => True

/-- How many registries there are after a change. -/
def Change.countAfter (count : Nat) : Change → Nat
  | .copy => count + 1
  | _ => count

/-- Only registries that are there by then are selected. -/
def SelectsPresent (count : Nat) : List Change → Prop
  | [] => True
  | change :: rest => change.SelectsPresent count ∧ SelectsPresent (change.countAfter count) rest

/-- Putting the current registry in its own place changes nothing. -/
@[simp]
theorem withCurrent_currentRegistry (session : Session) :
    session.withCurrent session.currentRegistry = session := by
  have same : session.registries.set session.current session.currentRegistry =
      session.registries := by
    refine List.ext_getElem? fun index => ?_
    rw [List.getElem?_set]
    split
    · next here =>
      subst here
      split
      · next present => simp [currentRegistry, registry, present]
      · next absent => simp [Nat.not_lt.mp absent]
    · rfl
  rw [withCurrent, same]

/-- A change that is refused leaves the session as it was, and one that is accepted adds to
the current registry, copies it, selects a registry or keeps a validator. -/
theorem perform_cases (session : Session) (change : Change) :
    ((∃ failure, (session.apply change).2.outcome = .error failure) ∧
      change.addition? = none ∧ session.perform change = session) ∨
    (session.apply change).2.outcome = .ok () ∧
      ((∃ addition, change.addition? = some addition ∧
        session.perform change = session.withCurrent (session.currentRegistry.add addition)) ∨
      (change = .copy ∧ session.perform change = { session with
        registries := session.registries ++ [session.currentRegistry]
        current := session.registries.length }) ∨
      (∃ index, change = .select index ∧
        session.perform change = { session with current := index }) ∨
      ∃ messages validator, change = .keepValidator messages ∧
        session.perform change = { session with validator? := some validator }) := by
  cases change with
  | register name predicate? offer looksAtRecord =>
      rcases Registry.register_cases session.currentRegistry name predicate? offer looksAtRecord
        with ⟨addition, offered, added, accepted⟩ | ⟨none, unchanged, refused⟩
      · exact .inr ⟨accepted, .inl ⟨addition, offered, congrArg session.withCurrent added⟩⟩
      · refine .inl ⟨refused, none, ?_⟩
        exact (congrArg session.withCurrent unchanged).trans session.withCurrent_currentRegistry
  | setMessage rule offer =>
      rcases Registry.setMessage_cases session.currentRegistry rule offer
        with ⟨addition, offered, set⟩ | ⟨none, mistake, set⟩
      · refine .inr ⟨?_, .inl ⟨addition, offered, ?_⟩⟩
        · simp only [apply, set]
          rfl
        · simp only [perform, apply, set]
      · refine .inl ⟨⟨.mistake mistake, ?_⟩, none, ?_⟩
        · simp only [apply, set]
          rfl
        · simp only [perform, apply, set, withCurrent_currentRegistry]
  | setLabel field label =>
      exact .inr ⟨rfl, .inl ⟨_, rfl, rfl⟩⟩
  | copy =>
      exact .inr ⟨rfl, .inr (.inl ⟨rfl, rfl⟩)⟩
  | select index =>
      exact .inr ⟨rfl, .inr (.inr (.inl ⟨index, rfl, rfl⟩))⟩
  | keepValidator messages =>
      cases made : session.validatorWith messages with
      | error mistake =>
          refine .inl ⟨⟨.mistake mistake, ?_⟩, rfl, ?_⟩
          · simp only [apply, made]
            rfl
          · simp only [perform, apply, made]
      | ok validator =>
          refine .inr ⟨?_, .inr (.inr (.inr ⟨messages, validator, rfl, ?_⟩))⟩
          · simp only [apply, made]
            rfl
          · simp only [perform, apply, made]

theorem perform_of_refused {session : Session} {change : Change} {failure : Failure}
    (refused : (session.apply change).2.outcome = .error failure) :
    session.perform change = session := by
  rcases session.perform_cases change with ⟨-, -, unchanged⟩ | ⟨accepted, -⟩
  · exact unchanged
  · cases accepted.symm.trans refused

theorem Change.keepsBuiltIn_of_addition? {change : Change} {addition : Addition}
    (offered : change.addition? = some addition) : KeepsBuiltIn [addition] := by
  cases change with
  | register name predicate? offer looksAtRecord =>
      exact Registry.keepsBuiltIn_of_ofRule? offered
  | setMessage rule offer =>
      refine Registry.keepsBuiltIn_of_rule?_eq_none fun known member => ?_
      cases List.mem_singleton.mp member
      exact Registry.rule?_of_ofMessage? offered
  | setLabel field label =>
      refine Registry.keepsBuiltIn_of_rule?_eq_none fun known member => ?_
      cases List.mem_singleton.mp member
      cases offered
      rfl
  | copy | select index | keepValidator messages =>
      cases offered

theorem performAll_append (session : Session) (earlier later : List Change) :
    session.performAll (earlier ++ later) = (session.performAll earlier).performAll later :=
  List.foldl_append

/-- A change that is refused may as well be left out. -/
theorem performAll_of_refused {session : Session} {before after : List Change} {change : Change}
    {failure : Failure}
    (refused : ((session.performAll before).apply change).2.outcome = .error failure) :
    session.performAll (before ++ change :: after) = session.performAll (before ++ after) := by
  rw [performAll_append, performAll_append]
  change ((session.performAll before).perform change).performAll after = _
  rw [perform_of_refused refused]

/-! ### What a change leaves behind -/

/-- Every change but three adds to the current registry what it offers. -/
theorem perform_eq (session : Session) (change : Change) :
    session.perform change =
      match change with
      | .copy =>
          { session with
            registries := session.registries ++ [session.currentRegistry]
            current := session.registries.length }
      | .select index => { session with current := index }
      | .keepValidator messages =>
          match session.validatorWith messages with
          | .ok validator => { session with validator? := some validator }
          | .error _ => session
      | other =>
          match other.addition? with
          | some addition => session.withCurrent (session.currentRegistry.add addition)
          | none => session := by
  cases change with
  | copy | select index | setLabel field label =>
      rfl
  | keepValidator messages =>
      simp only [perform, apply]
      cases session.validatorWith messages <;> rfl
  | setMessage rule offer =>
      rcases Registry.setMessage_cases session.currentRegistry rule offer
        with ⟨addition, offered, set⟩ | ⟨none, mistake, set⟩
      · simp only [perform, apply, set, Change.addition?, offered]
      · simp only [perform, apply, set, Change.addition?, none, withCurrent_currentRegistry]
  | register name predicate? offer looksAtRecord =>
      rcases Registry.register_cases session.currentRegistry name predicate? offer looksAtRecord
        with ⟨addition, offered, added, -⟩ | ⟨none, unchanged, -⟩
      · simp only [perform, apply, added, Change.addition?, offered]
      · simp only [perform, apply, unchanged, Change.addition?, none, withCurrent_currentRegistry]

theorem length_registries_perform (session : Session) (change : Change) :
    (session.perform change).registries.length =
      change.countAfter session.registries.length := by
  rw [perform_eq]
  cases change with
  | copy =>
      simp [Change.countAfter]
  | select index =>
      rfl
  | keepValidator messages =>
      dsimp only
      split <;> rfl
  | setLabel field label =>
      simp [withCurrent, Change.addition?, Change.countAfter]
  | register name predicate? offer looksAtRecord | setMessage rule offer =>
      dsimp only
      split
      · simp [withCurrent, Change.countAfter]
      · rfl

theorem current_perform_present {session : Session} {change : Change}
    (present : session.current < session.registries.length)
    (selects : change.SelectsPresent session.registries.length) :
    (session.perform change).current < (session.perform change).registries.length := by
  rcases session.perform_cases change with ⟨-, -, unchanged⟩ | ⟨-, ⟨addition, -, added⟩ |
    ⟨-, copied⟩ | ⟨index, rfl, selected⟩ | ⟨messages, validator, -, kept⟩⟩
  · rw [unchanged]
    exact present
  · rw [added]
    simpa [withCurrent] using present
  · rw [copied]
    simp
  · rw [selected]
    exact selects
  · rw [kept]
    exact present

theorem getElem?_current {session : Session}
    (present : session.current < session.registries.length) :
    session.registries[session.current]? = some session.currentRegistry := by
  simp [currentRegistry, registry, present]

theorem currentRegistry_mem {session : Session}
    (present : session.current < session.registries.length) :
    session.currentRegistry ∈ session.registries :=
  List.mem_of_getElem? (getElem?_current present)

/-- The registries after a change are those before it, but for the one that it adds to. -/
theorem mem_registries_perform {session : Session} {change : Change} {found : Registry}
    (present : session.current < session.registries.length)
    (member : found ∈ (session.perform change).registries) :
    found ∈ session.registries ∨ ∃ addition, change.addition? = some addition ∧
      found = session.currentRegistry.add addition := by
  rcases session.perform_cases change with ⟨-, -, unchanged⟩ | ⟨-, ⟨addition, offered, added⟩ |
    ⟨-, copied⟩ | ⟨index, -, selected⟩ | ⟨messages, validator, -, kept⟩⟩
  · exact .inl (unchanged ▸ member)
  · rw [added] at member
    rcases List.mem_or_eq_of_mem_set member with old | new
    · exact .inl old
    · exact .inr ⟨addition, offered, new⟩
  · rw [copied] at member
    rcases List.mem_append.mp member with old | last
    · exact .inl old
    · cases List.mem_singleton.mp last
      exact .inl (currentRegistry_mem present)
  · rw [selected] at member
    exact .inl member
  · rw [kept] at member
    exact .inl member

/-- What additions keep holds of all registries of a session if it holds of them at first. -/
theorem forall_registries_performAll {property : Registry → Prop} {session : Session}
    {changes : List Change} (now : ∀ registry ∈ session.registries, property registry)
    (current : session.current < session.registries.length)
    (present : SelectsPresent session.registries.length changes)
    (kept : ∀ change ∈ changes, ∀ addition, change.addition? = some addition →
      ∀ registry, property registry → property (registry.add addition)) :
    ∀ registry ∈ (session.performAll changes).registries, property registry := by
  induction changes generalizing session with
  | nil =>
      exact now
  | cons change rest inductionHypothesis =>
      obtain ⟨selects, later⟩ := present
      rw [← length_registries_perform] at later
      refine inductionHypothesis ?_ (current_perform_present current selects) later
        fun other member => kept other (List.mem_cons_of_mem _ member)
      intro registry member
      rcases mem_registries_perform current member with old | ⟨addition, offered, rfl⟩
      · exact now registry old
      · exact kept change List.mem_cons_self addition offered _
          (now _ (currentRegistry_mem current))

end Session

open Session

/-- A session with the history of each of its registries. -/
structure Chronicle where
  session : Session
  histories : List (List Addition)

namespace Chronicle

/-- The beginning of a session with a registry that has a history. -/
def opening (registry : Registry) (history : List Addition) : Chronicle :=
  ⟨.start registry, [history]⟩

/-- The histories when a change is accepted. -/
def historiesAfter (chronicle : Chronicle) (change : Change) : List (List Addition) :=
  match change with
  | .copy => chronicle.histories ++ [chronicle.histories[chronicle.session.current]?.getD []]
  | other =>
      match other.addition? with
      | some addition => chronicle.histories.modify chronicle.session.current (· ++ [addition])
      | none => chronicle.histories

/-- Make a change, and note it in the history if it is accepted. -/
def note (chronicle : Chronicle) (change : Change) : Chronicle where
  session := chronicle.session.perform change
  histories :=
    match (chronicle.session.apply change).2.outcome with
    | .ok () => chronicle.historiesAfter change
    | .error _ => chronicle.histories

def noteAll (chronicle : Chronicle) (changes : List Change) : Chronicle :=
  changes.foldl note chronicle

variable {base : Registry} {chronicle : Chronicle}

theorem session_note (chronicle : Chronicle) (change : Change) :
    (chronicle.note change).session = chronicle.session.perform change :=
  rfl

theorem session_noteAll (chronicle : Chronicle) (changes : List Change) :
    (chronicle.noteAll changes).session = chronicle.session.performAll changes := by
  induction changes generalizing chronicle with
  | nil =>
      rfl
  | cons change rest inductionHypothesis =>
      change ((chronicle.note change).noteAll rest).session = _
      rw [inductionHypothesis, session_note]
      rfl

theorem map_after_modify {histories : List (List Addition)} {index : Nat}
    {history : List Addition} (found : histories[index]? = some history) (addition : Addition) :
    (histories.modify index (· ++ [addition])).map base.after =
      (histories.map base.after).set index ((base.after history).add addition) := by
  refine List.ext_getElem? fun other => ?_
  rw [List.getElem?_map, List.getElem?_modify, List.getElem?_set, List.getElem?_map]
  by_cases same : index = other
  · subst same
    obtain ⟨present, same⟩ := List.getElem?_eq_some_iff.mp found
    simp [present, same, Registry.after_append]
    rfl
  · simp [same]

theorem mem_modify_cases {α : Type} {items : List α} {index : Nat} {change : α → α} {item : α}
    (member : item ∈ items.modify index change) :
    item ∈ items ∨ ∃ earlier ∈ items, item = change earlier := by
  obtain ⟨place, found⟩ := List.mem_iff_getElem?.mp member
  rw [List.getElem?_modify, Option.map_eq_map, Option.map_eq_some_iff] at found
  obtain ⟨earlier, there, rfl⟩ := found
  have known : earlier ∈ items := List.mem_of_getElem? there
  by_cases same : index = place
  · exact .inr ⟨earlier, known, if_pos same⟩
  · exact .inl (by simpa [same] using known)

/-- The registries of the session are those that the histories make of a registry. -/
structure Faithful (base : Registry) (chronicle : Chronicle) : Prop where
  rebuilt : chronicle.session.registries = chronicle.histories.map base.after
  current_present : chronicle.session.current < chronicle.histories.length
  keepsBuiltIn : ∀ history ∈ chronicle.histories, KeepsBuiltIn history

namespace Faithful

theorem opening {history : List Addition} (kept : KeepsBuiltIn history) :
    (Chronicle.opening (base.after history) history).Faithful base where
  rebuilt := rfl
  current_present := Nat.zero_lt_one
  keepsBuiltIn := by
    intro known member
    cases List.mem_singleton.mp member
    exact kept

theorem currentRegistry_eq (faithful : chronicle.Faithful base) :
    ∃ history, chronicle.histories[chronicle.session.current]? = some history ∧
      chronicle.session.currentRegistry = base.after history := by
  have present := faithful.current_present
  refine ⟨_, List.getElem?_eq_getElem present, ?_⟩
  simp [currentRegistry, Session.registry, faithful.rebuilt, present]

theorem exists_history (faithful : chronicle.Faithful base) {registry : Registry}
    (member : registry ∈ chronicle.session.registries) :
    ∃ history ∈ chronicle.histories, base.after history = registry := by
  rw [faithful.rebuilt] at member
  exact List.mem_map.mp member

/-- Additions go to the registry whose history takes them. -/
theorem note_of_addition (faithful : chronicle.Faithful base) {change : Change}
    {addition : Addition} (offered : change.addition? = some addition) :
    Faithful base
      ⟨chronicle.session.withCurrent (chronicle.session.currentRegistry.add addition),
        chronicle.historiesAfter change⟩ := by
  obtain ⟨history, found, current⟩ := faithful.currentRegistry_eq
  have modified : chronicle.historiesAfter change =
      chronicle.histories.modify chronicle.session.current (· ++ [addition]) := by
    cases change <;> simp_all [historiesAfter, Change.addition?]
  refine ⟨?_, ?_, ?_⟩
  · rw [modified, map_after_modify found, ← current, ← faithful.rebuilt]
    rfl
  · rw [modified, List.length_modify]
    exact faithful.current_present
  · intro known member
    -- A refused rule adds nothing, so what is added here has no built-in name.
    rw [modified] at member
    rcases mem_modify_cases member with old | ⟨earlier, old, rfl⟩
    · exact faithful.keepsBuiltIn known old
    · exact (faithful.keepsBuiltIn earlier old).append
          (Change.keepsBuiltIn_of_addition? offered)

theorem note (faithful : chronicle.Faithful base) {change : Change}
    (present : change.SelectsPresent chronicle.histories.length) :
    (chronicle.note change).Faithful base := by
  rcases chronicle.session.perform_cases change with ⟨⟨failure, refused⟩, -, unchanged⟩ |
    ⟨accepted, cases⟩
  · have same : chronicle.note change = chronicle := by
      simp only [Chronicle.note, refused, unchanged]
    rw [same]
    exact faithful
  have noted : chronicle.note change =
      ⟨chronicle.session.perform change, chronicle.historiesAfter change⟩ := by
    simp only [Chronicle.note, accepted]
  rw [noted]
  rcases cases with ⟨addition, offered, added⟩ | ⟨rfl, copied⟩ | ⟨index, rfl, selected⟩ |
    ⟨messages, validator, rfl, kept⟩
  · rw [added]
    exact faithful.note_of_addition offered
  · rw [copied]
    obtain ⟨history, found, current⟩ := faithful.currentRegistry_eq
    refine ⟨?_, ?_, ?_⟩
    · simp [historiesAfter, found, current, faithful.rebuilt]
    · simp [historiesAfter, faithful.rebuilt]
    · intro known member
      have copied : known ∈ chronicle.histories ∨ known = history := by
        simpa [historiesAfter, found] using member
      rcases copied with old | rfl
      · exact faithful.keepsBuiltIn known old
      · exact faithful.keepsBuiltIn known (List.mem_of_getElem? found)
  · rw [selected]
    exact ⟨faithful.rebuilt, present, faithful.keepsBuiltIn⟩
  · rw [kept]
    exact ⟨faithful.rebuilt, faithful.current_present, faithful.keepsBuiltIn⟩

end Faithful

theorem length_histories_note (chronicle : Chronicle) (change : Change) :
    (chronicle.note change).histories.length = change.countAfter chronicle.histories.length := by
  unfold note
  cases outcome : (chronicle.session.apply change).2.outcome with
  | error failure =>
      cases change <;> first | rfl | cases outcome
  | ok =>
      cases change with
      | copy =>
          simp [historiesAfter, Change.countAfter]
      | _ =>
          simp only [historiesAfter, Change.countAfter]
          split
          · rw [List.length_modify]
          · rfl

theorem Faithful.noteAll (faithful : chronicle.Faithful base) {changes : List Change}
    (present : SelectsPresent chronicle.histories.length changes) :
    (chronicle.noteAll changes).Faithful base := by
  induction changes generalizing chronicle with
  | nil =>
      exact faithful
  | cons change rest inductionHypothesis =>
      obtain ⟨selected, later⟩ := present
      -- The registries that may be selected later are counted by their histories.
      rw [← length_histories_note] at later
      exact inductionHypothesis (faithful.note selected) later

end Chronicle

namespace Session

/-- The registries of a session answer as the accepted changes say, and the changes that
were refused leave no trace. -/
theorem registries_determined_by_history {messages : Table MessageOffer} {labels : Table Value}
    {base : Registry} (created : Registry.create messages labels = .ok base)
    {changes : List Change} (present : SelectsPresent 1 changes) :
    let final := (start base).performAll changes
    let chronicle :=
      (Chronicle.opening base (Registry.messageAdditions messages.entries)).noteAll changes
    (∀ before change after failure, changes = before ++ change :: after →
        (((start base).performAll before).apply change).2.outcome = .error failure →
        (start base).performAll (before ++ after) = final) ∧
      chronicle.session = final ∧
      final.registries.length = chronicle.histories.length ∧
      ∀ (index : Nat) (registry : Registry) (history : List Addition),
        final.registries[index]? = some registry →
        chronicle.histories[index]? = some history →
        registry = (Registry.labelled labels).after history ∧ registry.Reflects labels history := by
  intro final chronicle
  have rebuilt : (Registry.labelled labels).after (Registry.messageAdditions messages.entries) =
      base := Registry.create_eq_ok created
  have opened :
      (Chronicle.opening base (Registry.messageAdditions messages.entries)).Faithful
        (Registry.labelled labels) := by
    rw [← rebuilt]
    exact .opening (Registry.keepsBuiltIn_messageAdditions messages.entries)
  have faithful : chronicle.Faithful (Registry.labelled labels) := opened.noteAll present
  have sameSession : chronicle.session = final := Chronicle.session_noteAll _ changes
  have registries : final.registries =
      chronicle.histories.map (Registry.labelled labels).after :=
    sameSession ▸ faithful.rebuilt
  refine ⟨?_, sameSession, by simp [registries], ?_⟩
  · rintro before change after failure rfl refused
    exact (performAll_of_refused refused).symm
  · intro index registry history there noted
    have same : registry = (Registry.labelled labels).after history := by
      simpa [registries, noted, eq_comm] using there
    rw [same]
    have kept := faithful.keepsBuiltIn history (List.mem_of_getElem? noted)
    exact ⟨rfl, Registry.reflects_after kept⟩

/-- A rule that is registered anew after a copy keeps its place and comes with an empty
message there, and the registry that was copied still has the first one. -/
theorem replaced_rule_keeps_its_place :
    let messages : Table MessageOffer := .ofList [("min", .value (.text "too small"))]
    let changes : List Change :=
      [.register "even" (some (.constant true)) (.value (.text "odd")) false,
        .register "min" (some (.constant true)) (.value .null) false,
        .register "late" (some (.constant true)) (.value .null) false,
        .copy,
        .setMessage "even" (.value .null),
        .register "even" (some (.constant false)) (.value (.text "")) false,
        .select 0]
    ∃ base, Registry.create messages .empty = .ok base ∧ SelectsPresent 1 changes ∧
      ∃ source copy, ((start base).performAll changes).registries = [source, copy] ∧
        copy.names = BuiltIn.all.map BuiltIn.name ++ ["even", "late"] ∧
        copy.messageFor "even" = .template "" ∧ source.messageFor "even" = .template "odd" ∧
        copy.messageFor "min" = .template "too small" := by
  intro messages changes
  have present : SelectsPresent 1 changes := by
    simp [changes, SelectsPresent, Change.SelectsPresent, Change.countAfter]
  have created : Registry.create messages .empty = .ok _ := rfl
  refine ⟨_, created, present, _, _, rfl, ?_⟩
  obtain ⟨-, -, -, reflects⟩ := registries_determined_by_history created present
  obtain ⟨-, source⟩ := reflects 0 _ _ rfl rfl
  obtain ⟨-, copy⟩ := reflects 1 _ _ rfl rfl
  refine ⟨?_, ?_, ?_, ?_⟩
  · rw [copy.names_eq]
    decide
  · rw [copy.message_eq]
    rfl
  · rw [source.message_eq]
    rfl
  · rw [copy.message_eq]
    rfl

end Session

end FormCheck
