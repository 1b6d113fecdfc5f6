import FormCheck.Host.Plain
import FormCheck.Proofs.Outcomes
import FormCheck.RulesFile

/-!
# Applying a rules file, section by section

The messages and the labels of a rules file are put into a registry one section after the
other.  Each of the two sections is all or nothing: it either gives texts, and then all of
them are put in, or it is refused, and then none is.  A section of messages that is refused
leaves the registry as it was.  A section of labels that is refused is met after the messages
were put in, and they stay.

What a section gives is well defined because no key comes twice in a mapping of a document,
as every host has it that reads documents.
-/

namespace FormCheck

/-- No key of a mapping is the same as a later one. -/
def Yaml.DistinctKeys (entries : List (Scalar × Datum)) : Prop :=
  (entries.map (·.1)).Pairwise fun earlier later => earlier.same later = false

namespace RulesFile

variable {file : RulesFile} {sections : Entries}

/-! ## Sections of texts -/

/-- A text as the key of a text. -/
def textEntry (entry : String × String) : Yaml.Scalar × Yaml.Datum :=
  (.value (.text entry.1), .scalar (.value (.text entry.2)))

/-- If a section is a mapping, its keys are texts, and no two of them are the same. -/
structure TextKeyed (section? : Option Yaml.Datum) : Prop where
  texts : ∀ entries, section? = some (.mapping entries) →
    ∀ entry ∈ entries, ∃ key, entry.1 = .value (.text key)
  distinct : ∀ entries, section? = some (.mapping entries) → Yaml.DistinctKeys entries

/-- A section gives texts by their keys; it gives none when it is not there or counts as
false. -/
inductive GivesTexts : Option Yaml.Datum → Table String → Prop where
  | absent : GivesTexts none .empty
  | untrue {scalar : Yaml.Scalar} (untrue : scalar.truth = false) :
      GivesTexts (some (.scalar scalar)) .empty
  | hollow : GivesTexts (some (.collection true)) .empty
  | mapping (texts : Table String) :
      GivesTexts (some (.mapping (texts.entries.map textEntry))) texts

/-- A section is refused: it is no mapping and does not count as false, or it is a mapping and
holds something that is no text; the first such entry is told. -/
inductive Refused (name : String) : Option Yaml.Datum → RulesFileFault → Prop where
  | scalar {scalar : Yaml.Scalar} (held : scalar.truth = true) :
      Refused name (some (.scalar scalar)) (.sectionNotMapping name)
  | collection : Refused name (some (.collection false)) (.sectionNotMapping name)
  | entry (before : List (String × String)) (key : String) {datum : Yaml.Datum} (after : Entries)
      (notText : ∀ text, datum ≠ .scalar (.value (.text text))) :
      Refused name
        (some (.mapping (before.map textEntry ++ (.value (.text key), datum) :: after)))
        (.entryNotText name key)

theorem keyText_text (text : String) : keyText (.value (.text text)) = .ok text := by
  simp [keyText, Yaml.Scalar.text?, Value.isWritable, Value.display]

/-- Texts are taken before what follows them is looked at. -/
theorem textEntries_append (name : String) (texts : List (String × String)) (rest : Entries) :
    textEntries name (texts.map textEntry ++ rest) = (textEntries name rest).map fun later =>
      texts.map (fun entry => (.value (.text entry.1), entry.2)) ++ later := by
  induction texts with
  | nil =>
      rw [List.map_nil, List.nil_append]
      cases textEntries name rest <;> rfl
  | cons entry others inductionHypothesis =>
      rw [List.map_cons, List.cons_append, textEntry, textEntries, inductionHypothesis]
      cases textEntries name rest <;> rfl

theorem textEntries_strange (name key : String) {datum : Yaml.Datum}
    (notText : ∀ text, datum ≠ .scalar (.value (.text text))) (rest : Entries) :
    textEntries name ((.value (.text key), datum) :: rest) =
      .error (.rulesFile (.entryNotText name key)) := by
  rw [textEntries, keyText_text]
  · rfl
  · exact notText

theorem textsOf_texts (sofar : Table String) (texts : List (String × String)) :
    textsOf sofar (texts.map fun entry => (.value (.text entry.1), entry.2)) =
      .ok (sofar.insertAll texts) := by
  induction texts generalizing sofar with
  | nil =>
      rfl
  | cons entry others inductionHypothesis =>
      rw [List.map_cons, textsOf, keyText_text]
      exact inductionHypothesis (sofar.insert entry.1 entry.2)

theorem textSection_of_sections (read : file.sections = .ok sections) (name : String) :
    file.textSection name =
      (sectionEntries name (valueAt? sections name) >>= textEntries name) >>= textsOf .empty := by
  rw [textSection, read, bind_assoc]
  rfl

theorem textSection_of_gives (read : file.sections = .ok sections) {name : String}
    {texts : Table String} (gives : GivesTexts (valueAt? sections name) texts) :
    file.textSection name = .ok texts := by
  rw [textSection_of_sections read]
  generalize valueAt? sections name = section? at gives
  cases gives with
  | absent | hollow =>
      rfl
  | untrue untrue =>
      simp only [sectionEntries, untrue, Bool.false_eq_true, ↓reduceIte]
      rfl
  | mapping =>
      have taken := textEntries_append name texts.entries []
      rw [List.append_nil] at taken
      simp only [sectionEntries, taken, textEntries, Except.map, List.append_nil, bind, Except.bind,
        textsOf_texts]
      exact congrArg Except.ok texts.ofList_entries

theorem textSection_of_refused (read : file.sections = .ok sections) {name : String}
    {fault : RulesFileFault} (refused : Refused name (valueAt? sections name) fault) :
    file.textSection name = .error (.rulesFile fault) := by
  rw [textSection_of_sections read]
  generalize valueAt? sections name = section? at refused
  cases refused with
  | scalar held =>
      simp only [sectionEntries, held, ↓reduceIte]
      rfl
  | collection =>
      rfl
  | entry before key after notText =>
      simp only [sectionEntries, textEntries_append, textEntries_strange name key notText,
        Except.map, bind, Except.bind]

/-- Entries under texts are texts throughout, or there is a first one that is no text. -/
theorem texts_or_first_strange {entries : Entries}
    (keyed : ∀ entry ∈ entries, ∃ key, entry.1 = .value (.text key)) :
    (∃ texts : List (String × String), entries = texts.map textEntry) ∨
      ∃ (before : List (String × String)) (key : String) (datum : Yaml.Datum) (after : Entries),
        entries = before.map textEntry ++ (.value (.text key), datum) :: after ∧
          ∀ text, datum ≠ .scalar (.value (.text text)) := by
  induction entries with
  | nil =>
      exact .inl ⟨[], rfl⟩
  | cons entry rest inductionHypothesis =>
      obtain ⟨key, datum⟩ := entry
      obtain ⟨⟨written, rfl⟩, later⟩ := List.forall_mem_cons.mp keyed
      by_cases isText : ∃ text, datum = .scalar (.value (.text text))
      · obtain ⟨text, rfl⟩ := isText
        rcases inductionHypothesis later with
          ⟨texts, rfl⟩ | ⟨before, other, datum, after, rfl, notText⟩
        · exact .inl ⟨(written, text) :: texts, rfl⟩
        · exact .inr ⟨(written, text) :: before, other, datum, after, rfl, notText⟩
      · exact .inr ⟨[], written, datum, rest, rfl, not_exists.mp isText⟩

/-- A section whose keys are texts gives texts, or it is refused. -/
theorem section_cases {name : String} (keyed : TextKeyed (valueAt? sections name)) :
    (∃ texts, GivesTexts (valueAt? sections name) texts) ∨
      ∃ fault, Refused name (valueAt? sections name) fault := by
  cases given : valueAt? sections name with
  | none =>
      exact .inl ⟨_, .absent⟩
  | some datum =>
      cases datum with
      | scalar scalar =>
          cases held : scalar.truth with
          | true =>
              exact .inr ⟨_, .scalar held⟩
          | false =>
              exact .inl ⟨_, .untrue held⟩
      | collection isEmpty =>
          cases isEmpty with
          | true =>
              exact .inl ⟨_, .hollow⟩
          | false =>
              exact .inr ⟨_, .collection⟩
      | mapping entries =>
          rcases texts_or_first_strange (keyed.texts entries given) with
            ⟨texts, rfl⟩ | ⟨before, key, datum, after, rfl, notText⟩
          · have distinct := keyed.distinct _ given
            have distinctTexts : (texts.map (·.1)).Nodup := by
              rw [Yaml.DistinctKeys, List.map_map, List.pairwise_map] at distinct
              rw [List.Nodup, List.pairwise_map]
              refine distinct.imp ?_
              intro earlier later different same
              simp [textEntry, Yaml.Scalar.same, Value.same, same] at different
            exact .inl ⟨⟨texts, distinctTexts⟩, .mapping ⟨texts, distinctTexts⟩⟩
          · exact .inr ⟨_, .entry before key after notText⟩

end RulesFile

/-! ## Putting texts into a registry -/

namespace Registry

variable {registry changed : Registry} {texts : Table String}

/-- Texts were set as messages.  No other message changed, but for the label that the one of
the built-in rule for comparing fields shows. -/
structure MessagesSet (registry changed : Registry) (texts : Table String) : Prop where
  rules : changed.rules = registry.rules
  listed : ∀ rule text, texts.get? rule = some text → changed.messageFor rule = .template text
  unlisted : ∀ rule, texts.get? rule = none →
    changed.messageFor rule = ({ registry with labels := changed.labels }).messageFor rule
  others : ∀ rule, texts.get? rule = none → rule ≠ BuiltIn.equals.name →
    changed.messageFor rule = registry.messageFor rule

/-- Texts were set as labels, and no other label changed. -/
structure LabelsSet (registry changed : Registry) (texts : Table String) : Prop where
  listed : ∀ field text, texts.get? field = some text → changed.label field = .text text
  unlisted : ∀ field, texts.get? field = none → changed.label field = registry.label field

/-- Only the message of the built-in rule for comparing fields shows labels. -/
theorem messageFor_withLabels (registry : Registry) (labels : Table Value) {rule : String}
    (other : rule ≠ BuiltIn.equals.name) :
    ({ registry with labels := labels }).messageFor rule = registry.messageFor rule := by
  unfold messageFor
  cases named : BuiltIn.ofName? rule with
  | none =>
      rfl
  | some builtIn =>
      cases builtIn with
      | equals =>
          exact absurd (BuiltIn.ofName?_eq_some_iff.mp named) other
      | required | string | number | numeric | alpha | email | min | max =>
          rfl

theorem messagesSet_of_get? (rules : changed.rules = registry.rules)
    (messages : ∀ rule, changed.messages.get? rule =
      ((texts.map Message.template).get? rule).or (registry.messages.get? rule)) :
    MessagesSet registry changed texts := by
  have unlisted : ∀ rule, texts.get? rule = none →
      changed.messageFor rule = ({ registry with labels := changed.labels }).messageFor rule := by
    intro rule absent
    have kept : changed.messages.get? rule = registry.messages.get? rule := by
      rw [messages, Table.get?_map, absent]
      rfl
    simp only [messageFor, kept, rules]
    rfl
  refine ⟨rules, ?_, unlisted, ?_⟩
  · intro rule text listed
    have set : changed.messages.get? rule = some (.template text) := by
      rw [messages, Table.get?_map, listed]
      rfl
    rw [messageFor, set]
  · intro rule absent other
    rw [unlisted rule absent, messageFor_withLabels registry changed.labels other]

theorem labelsSet_of_get? (labels : ∀ field, changed.labels.get? field =
      ((texts.map Value.text).get? field).or (registry.labels.get? field)) :
    LabelsSet registry changed texts := by
  constructor
  · intro field text listed
    rw [label, labelOf, labels, Table.get?_map, listed]
    rfl
  · intro field absent
    rw [label, labelOf, labels, Table.get?_map, absent]
    rfl

end Registry

/-! ## Applying a file -/

namespace RulesFile

/-- A file that cannot be read leaves the registry as it was, and so does one whose messages
are refused.  Otherwise all of its messages are put in; then all of its labels are put in too,
or they are refused and none is. -/
theorem applyTo_section_by_section (file : RulesFile) (registry : Registry) :
    let applied := file.applyTo registry
    match file.sections with
    | .error failure => applied = (registry, .error failure)
    | .ok sections =>
        let messages? := valueAt? sections "messages"
        let labels? := valueAt? sections "display_names"
        TextKeyed messages? → TextKeyed labels? →
          (∃ fault, Refused "messages" messages? fault ∧
            applied = (registry, .error (.rulesFile fault))) ∨
          ∃ messages, GivesTexts messages? messages ∧
            Registry.MessagesSet registry applied.1 messages ∧
            ((∃ fault, Refused "display_names" labels? fault ∧
                applied.1.labels = registry.labels ∧ applied.2 = .error (.rulesFile fault)) ∨
              ∃ labels, GivesTexts labels? labels ∧
                Registry.LabelsSet registry applied.1 labels ∧ applied.2 = .ok ()) := by
  intro applied
  cases read : file.sections with
  | error failure =>
      simp only [applied, applyTo, messages, textSection, read]
      rfl
  | ok sections =>
      intro messagesKeyed labelsKeyed
      rcases section_cases messagesKeyed with ⟨messages, gives⟩ | ⟨fault, refused⟩
      · right
        have given : file.messages = .ok messages := textSection_of_gives read gives
        have put : ∀ rule, (setMessages registry messages).messages.get? rule =
            ((messages.map Message.template).get? rule).or (registry.messages.get? rule) :=
          Table.get?_insertAll_entries registry.messages (messages.map Message.template)
        refine ⟨messages, gives, ?_⟩
        rcases section_cases labelsKeyed with ⟨labels, givesLabels⟩ | ⟨fault, refused⟩
        · have labelsGiven : file.labels = .ok labels := textSection_of_gives read givesLabels
          have whole : applied = (setLabels (setMessages registry messages) labels, .ok ()) := by
            simp only [applied, applyTo, given, labelsGiven]
          rw [whole]
          refine ⟨Registry.messagesSet_of_get? rfl put, .inr ⟨labels, givesLabels, ?_, rfl⟩⟩
          exact Registry.labelsSet_of_get?
            (Table.get?_insertAll_entries registry.labels (labels.map Value.text))
        · have labelsRefused : file.labels = .error (.rulesFile fault) :=
            textSection_of_refused read refused
          have part : applied =
              (setMessages registry messages, .error (.rulesFile fault)) := by
            simp only [applied, applyTo, given, labelsRefused]
          rw [part]
          exact ⟨Registry.messagesSet_of_get? rfl put, .inl ⟨fault, refused, rfl, rfl⟩⟩
      · have messagesRefused : file.messages = .error (.rulesFile fault) :=
          textSection_of_refused read refused
        refine .inl ⟨fault, refused, ?_⟩
        simp only [applied, applyTo, messagesRefused]

/-- The messages of a file are put in although its labels are refused, and none of the labels
is. -/
theorem messages_stay_when_labels_are_refused :
    let key (text : String) : Yaml.Scalar := .value (.text text)
    let messages : Yaml.Datum := .mapping [(key "required", .scalar (key "Fill me in"))]
    let labels : Yaml.Datum :=
      .mapping [(key "a", .scalar (key "A")), (key "b", .scalar (.value (.integer 5)))]
    let file : RulesFile := ⟨"rules.yaml", .ok (.mapping
      [(key "forms", .scalar (.value .null)), (key "messages", messages),
        (key "display_names", labels)])⟩
    let applied := file.applyTo .builtIn
    TextKeyed (some messages) ∧ TextKeyed (some labels) ∧
      applied.1.messageFor "required" = .template "Fill me in" ∧
      applied.1.messageFor "email" = Registry.builtIn.messageFor "email" ∧
      applied.1.labels = Registry.builtIn.labels ∧ applied.2 ≠ .ok () := by
  intro key messages labels file applied
  have messagesKeyed : TextKeyed (some messages) := by
    refine ⟨fun entries same entry member => ?_, fun entries same => ?_⟩
    · obtain rfl := Yaml.Datum.mapping.inj (Option.some.inj same)
      rw [List.mem_singleton.mp member]
      exact ⟨"required", rfl⟩
    · obtain rfl := Yaml.Datum.mapping.inj (Option.some.inj same)
      exact List.pairwise_singleton _ _
  have labelsKeyed : TextKeyed (some labels) := by
    refine ⟨fun entries same => ?_, fun entries same => ?_⟩
    · obtain rfl := Yaml.Datum.mapping.inj (Option.some.inj same)
      simp only [List.forall_mem_cons]
      exact ⟨⟨"a", rfl⟩, ⟨"b", rfl⟩, nofun⟩
    · obtain rfl := Yaml.Datum.mapping.inj (Option.some.inj same)
      exact List.pairwise_pair.mpr rfl
  have read : file.messages = .ok (.ofList [("required", "Fill me in")]) := rfl
  have fails : applied.2 = .error (.rulesFile (.entryNotText "display_names" "b")) := rfl
  refine ⟨messagesKeyed, labelsKeyed, ?_⟩
  rcases applyTo_section_by_section file .builtIn messagesKeyed labelsKeyed with
    ⟨fault, refused, -⟩ | ⟨texts, gives, set, ⟨_, -, kept, -⟩ | ⟨_, -, -, done⟩⟩
  · cases read.symm.trans (textSection_of_refused rfl refused)
  · cases read.symm.trans (textSection_of_gives rfl gives)
    refine ⟨set.listed _ _ rfl, set.others _ rfl (by decide), kept, ?_⟩
    rw [fails]
    nofun
  · cases fails.symm.trans done

open scoped Host

/-- A file whose labels are refused fails, and still changes a message. -/
theorem refused_labels_change_a_message :
    let key (text : String) : Yaml.Scalar := .value (.text text)
    let file : RulesFile := ⟨"rules.yaml", .ok (.mapping
      [(key "forms", .scalar (.value .null)),
        (key "messages", .mapping [(key "required", .scalar (key "Fill me in"))]),
        (key "display_names", .scalar (.value (.integer 5)))])⟩
    let applied := file.applyTo .builtIn
    applied.2.toOption = none ∧
      (applied.1.renderMessage "required" (.text "") []).toOption = some "Fill me in" ∧
      (Registry.builtIn.renderMessage "required" (.text "") []).toOption =
        some "This field is required" := by
  decide +kernel

end RulesFile

end FormCheck
