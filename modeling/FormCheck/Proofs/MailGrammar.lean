import FormCheck.BuiltIn
import FormCheck.Proofs.Text
import Mathlib.Computability.Language

/-!
# The grammar of mailboxes

A mailbox is a local part, an at sign and a domain, and the grammar says what these are.  A
quoted local part may itself hold at signs and quotes, so a text can be cut at several at
signs; but no domain has one, so only the last cut can succeed.  The recogniser takes that
cut, and it accepts exactly the texts of the grammar.

A domain ends in a letter or a bracket, so nothing that ends with a line feed is accepted.
The grammar does not tell the two small sigmas apart, so it does not matter which of them a
capital sigma was made into.
-/

namespace FormCheck

namespace Mailbox

/-! ## Grammar -/

/-- A character of an atom: neither white space nor one of the marks with a meaning of their
own. -/
def AtomChar (c : Char) : Prop :=
  Text.isBlank c = false ∧
    c ∉ ['<', '>', '(', ')', '[', ']', '\\', '.', ',', ';', ':', '"', '@']

def Digit (c : Char) : Prop :=
  '0' ≤ c ∧ c ≤ '9'

def Letter (c : Char) : Prop :=
  'a' ≤ c ∧ c ≤ 'z' ∨ 'A' ≤ c ∧ c ≤ 'Z'

def LabelChar (c : Char) : Prop :=
  Letter c ∨ Digit c ∨ c = '-'

instance (c : Char) : Decidable (AtomChar c) :=
  inferInstanceAs (Decidable (_ ∧ _))

instance (c : Char) : Decidable (Digit c) :=
  inferInstanceAs (Decidable (_ ∧ _))

instance (c : Char) : Decidable (Letter c) :=
  inferInstanceAs (Decidable (_ ∨ _))

instance (c : Char) : Decidable (LabelChar c) :=
  inferInstanceAs (Decidable (_ ∨ _))

/-- A text of at least one character, each of a sort. -/
def Row (sort : Char → Prop) (text : List Char) : Prop :=
  text ≠ [] ∧ ∀ c ∈ text, sort c

def Group (text : List Char) : Prop :=
  Row Digit text ∧ text.length ≤ 3

/-- What stands before the at sign: atoms between dots, or one line between quotes. -/
inductive LocalPart : List Char → Prop
  | dotted {atoms : List (List Char)} (nonempty : atoms ≠ [])
      (each : ∀ atom ∈ atoms, Row AtomChar atom) : LocalPart (Text.join '.' atoms)
  | quoted {body : List Char} (line : Row (· ≠ '\n') body) : LocalPart ('"' :: body ++ ['"'])

/-- What stands behind the at sign: four groups of digits between brackets, or labels with a
dot behind each and at least two letters. -/
inductive Domain : List Char → Prop
  | address {groups : List (List Char)} (four : groups.length = 4)
      (each : ∀ group ∈ groups, Group group) : Domain ('[' :: Text.join '.' groups ++ [']'])
  | hostName {labels : List (List Char)} {final : List Char} (nonempty : labels ≠ [])
      (each : ∀ label ∈ labels, Row LabelChar label) (letters : ∀ c ∈ final, Letter c)
      (long : 2 ≤ final.length) : Domain (labels.flatMap (· ++ ['.']) ++ final)

/-! ## Sorts of characters -/

theorem isAtomChar_iff {c : Char} : isAtomChar c = true ↔ AtomChar c := by
  have marks : "<>()[]\\.,;:@\"".toList.contains c = true ↔
      c ∈ ['<', '>', '(', ')', '[', ']', '\\', '.', ',', ';', ':', '"', '@'] := by
    simp [or_comm]
  rw [isAtomChar, Bool.not_eq_true', Bool.or_eq_false_iff, AtomChar, ← marks, Bool.not_eq_true]

theorem isAsciiDigit_iff {c : Char} : Text.isAsciiDigit c = true ↔ Digit c := by
  simp [Text.isAsciiDigit, Digit]

theorem isLetter_iff {c : Char} : isLetter c = true ↔ Letter c := by
  simp [isLetter, Letter]

theorem isLabelChar_iff {c : Char} : isLabelChar c = true ↔ LabelChar c := by
  simp [isLabelChar, LabelChar, isLetter_iff, isAsciiDigit_iff, or_assoc]

theorem isRowOf_iff {sort : Char → Bool} {kind : Char → Prop}
    (same : ∀ {c}, sort c = true ↔ kind c) {text : List Char} :
    isRowOf sort text = true ↔ Row kind text := by
  simp [isRowOf, Row, same]

theorem isGroup_iff {text : List Char} : isGroup text = true ↔ Group text := by
  simp [isGroup, Group, isRowOf_iff isAsciiDigit_iff]

theorem not_mem_of_row {sort : Char → Prop} {c : Char} (other : ¬ sort c) {text : List Char}
    (row : Row sort text) : c ∉ text := by
  intro member
  exact other (row.2 c member)

/-! ## Local parts -/

theorem isDotted_iff {text : List Char} :
    isDotted text = true ↔ ∃ atoms : List (List Char), atoms ≠ [] ∧
      (∀ atom ∈ atoms, Row AtomChar atom) ∧ text = Text.join '.' atoms := by
  rw [isDotted, List.all_eq_true]
  simp only [isRowOf_iff isAtomChar_iff]
  constructor
  · intro each
    exact ⟨Text.pieces '.' text, Text.pieces_ne_nil '.' text, each,
      (Text.join_pieces '.' text).symm⟩
  · rintro ⟨atoms, nonempty, each, rfl⟩
    have undotted : ∀ atom ∈ atoms, '.' ∉ atom := by
      intro atom member
      exact not_mem_of_row (by decide) (each atom member)
    rw [Text.pieces_join nonempty undotted]
    exact each

theorem isQuoted_iff {text : List Char} :
    isQuoted text = true ↔ ∃ body, Row (· ≠ '\n') body ∧ text = '"' :: body ++ ['"'] := by
  have sameRow : ∀ {body : List Char},
      isRowOf (· != '\n') body = true ↔ Row (· ≠ '\n') body.reverse := by
    intro body
    simp [isRowOf, Row]
  constructor
  · intro quoted
    unfold isQuoted at quoted
    split at quoted
    · next rest =>
      split at quoted
      · next body backward =>
        refine ⟨body.reverse, sameRow.mp quoted, ?_⟩
        rw [List.reverse_eq_cons_iff.mp backward]
        rfl
      · cases quoted
    · cases quoted
  · rintro ⟨body, line, rfl⟩
    simpa [isQuoted, sameRow] using line

theorem isLocalPart_iff {text : List Char} : isLocalPart text = true ↔ LocalPart text := by
  rw [isLocalPart, Bool.or_eq_true, isDotted_iff, isQuoted_iff]
  constructor
  · rintro (⟨atoms, nonempty, each, rfl⟩ | ⟨body, line, rfl⟩)
    · exact .dotted nonempty each
    · exact .quoted line
  · rintro (⟨nonempty, each⟩ | ⟨line⟩)
    · exact .inl ⟨_, nonempty, each, rfl⟩
    · exact .inr ⟨_, line, rfl⟩

/-! ## Domains -/

theorem isAddress_iff {text : List Char} :
    isAddress text = true ↔ ∃ groups : List (List Char), groups.length = 4 ∧
      (∀ group ∈ groups, Group group) ∧ text = '[' :: Text.join '.' groups ++ [']'] := by
  constructor
  · intro address
    unfold isAddress at address
    split at address
    · next rest =>
      split at address
      · next body backward =>
        simp only [Bool.and_eq_true, beq_iff_eq, List.all_eq_true, isGroup_iff] at address
        refine ⟨_, address.1, address.2, ?_⟩
        rw [List.reverse_eq_cons_iff.mp backward, Text.join_pieces]
        rfl
      · cases address
    · cases address
  · rintro ⟨groups, four, each, rfl⟩
    have nonempty : groups ≠ [] := by
      rintro rfl
      cases four
    have undotted : ∀ group ∈ groups, '.' ∉ group := by
      intro group member
      exact not_mem_of_row (by decide) (each group member).1
    simpa [isAddress, Text.pieces_join nonempty undotted, four, isGroup_iff] using each

/-- Labels with a dot behind each, and what follows them, are joined by dots. -/
theorem flatMap_dot_append (labels : List (List Char)) (final : List Char) :
    labels.flatMap (· ++ ['.']) ++ final = Text.join '.' (labels ++ [final]) := by
  induction labels with
  | nil =>
      rw [List.flatMap_nil, List.nil_append, List.nil_append, Text.join_singleton]
  | cons first rest inductionHypothesis =>
      have more : rest ++ [final] ≠ [] := by
        simp
      rw [List.flatMap_cons, List.append_assoc, inductionHypothesis, List.cons_append,
        Text.join_cons first more, List.append_assoc]
      rfl

theorem isHostName_iff {text : List Char} :
    isHostName text = true ↔ ∃ labels final, labels ≠ [] ∧
      (∀ label ∈ labels, Row LabelChar label) ∧ (∀ c ∈ final, Letter c) ∧ 2 ≤ final.length ∧
        text = labels.flatMap (· ++ ['.']) ++ final := by
  simp only [flatMap_dot_append]
  constructor
  · intro hostName
    unfold isHostName at hostName
    split at hostName
    · next final labels backward =>
      simp only [Bool.and_eq_true, Bool.not_eq_true', decide_eq_true_eq, List.all_eq_true,
        isLetter_iff, isRowOf_iff isLabelChar_iff, List.isEmpty_eq_false_iff] at hostName
      obtain ⟨⟨⟨long, letters⟩, nonempty⟩, each⟩ := hostName
      have pieces := List.reverse_eq_cons_iff.mp backward
      refine ⟨labels.reverse, final, by simpa using nonempty, ?_, letters, long, ?_⟩
      · intro label member
        exact each label (List.mem_reverse.mp member)
      · rw [← pieces, Text.join_pieces]
    · cases hostName
  · rintro ⟨labels, final, nonempty, each, letters, long, rfl⟩
    have undotted : ∀ piece ∈ labels ++ [final], '.' ∉ piece := by
      intro piece member
      rcases List.mem_append.mp member with isLabel | isFinal
      · exact not_mem_of_row (by decide) (each piece isLabel)
      · cases List.mem_singleton.mp isFinal
        intro dot
        exact absurd (letters '.' dot) (by decide)
    have pieces := Text.pieces_join (by simp) undotted
    have sorts : (∀ c ∈ final, Letter c) ∧ ∀ label ∈ labels, Row LabelChar label :=
      ⟨letters, each⟩
    simpa [isHostName, pieces, isLetter_iff, isRowOf_iff isLabelChar_iff, nonempty, long]
      using sorts

theorem isDomain_iff {text : List Char} : isDomain text = true ↔ Domain text := by
  rw [isDomain, Bool.or_eq_true, isAddress_iff, isHostName_iff]
  constructor
  · rintro (⟨groups, four, each, rfl⟩ | ⟨labels, final, nonempty, each, letters, long, rfl⟩)
    · exact .address four each
    · exact .hostName nonempty each letters long
  · rintro (⟨four, each⟩ | ⟨nonempty, each, letters, long⟩)
    · exact .inl ⟨_, four, each, rfl⟩
    · exact .inr ⟨_, _, nonempty, each, letters, long, rfl⟩

def DomainChar (c : Char) : Prop :=
  LabelChar c ∨ c = '.' ∨ c = '[' ∨ c = ']'

instance (c : Char) : Decidable (DomainChar c) :=
  inferInstanceAs (Decidable (_ ∨ _))

theorem Domain.domainChar {text : List Char} (domain : Domain text) :
    ∀ c ∈ text, DomainChar c := by
  intro c member
  cases domain with
  | @address groups four each =>
      simp only [List.cons_append, List.mem_cons, List.mem_append, List.not_mem_nil,
        or_false] at member
      rcases member with rfl | inGroups | rfl
      · decide
      · rcases Text.mem_join inGroups with rfl | ⟨group, isGroup, inside⟩
        · decide
        · exact .inl (.inr (.inl ((each group isGroup).1.2 c inside)))
      · decide
  | @hostName labels final nonempty each letters long =>
      rcases List.mem_append.mp member with inLabels | inFinal
      · obtain ⟨label, isLabel, inside⟩ := List.mem_flatMap.mp inLabels
        rcases List.mem_append.mp inside with inLabel | isDot
        · exact .inl ((each label isLabel).2 c inLabel)
        · exact .inr (.inl (List.mem_singleton.mp isDot))
      · exact .inl (.inl (letters c inFinal))

theorem Domain.not_mem {text : List Char} (domain : Domain text) {c : Char}
    (other : ¬ DomainChar c) : c ∉ text := by
  intro member
  exact other (domain.domainChar c member)

theorem Domain.ne_nil {text : List Char} (domain : Domain text) : text ≠ [] := by
  cases domain with
  | address four each =>
      simp
  | hostName nonempty each letters long =>
      intro empty
      rw [(List.append_eq_nil_iff.mp empty).2] at long
      cases long

/-! ## The last at sign -/

theorem eq_of_cutLast {text localPart domain : List Char}
    (cut : cutLast text = some (localPart, domain)) : text = localPart ++ '@' :: domain := by
  rcases Text.cutFirst_cases '@' text.reverse with
    ⟨-, uncut⟩ | ⟨before, after, backward, -, first⟩
  · simp [cutLast, uncut] at cut
  · simp only [cutLast, first, Option.some.injEq, Prod.mk.injEq] at cut
    obtain ⟨rfl, rfl⟩ := cut
    simpa using congrArg List.reverse backward

/-- Where nothing behind an at sign is one, that at sign is the last. -/
theorem cutLast_append {domain : List Char} (absent : '@' ∉ domain) (localPart : List Char) :
    cutLast (localPart ++ '@' :: domain) = some (localPart, domain) := by
  have backward : (localPart ++ '@' :: domain).reverse =
      domain.reverse ++ '@' :: localPart.reverse := by
    simp
  have absentBackward : '@' ∉ domain.reverse := by
    simpa using absent
  rw [cutLast, backward, Text.cutFirst_append_separator absentBackward]
  simp

theorem accepts_iff {text : List Char} :
    accepts text = true ↔
      ∃ localPart domain, text = localPart ++ '@' :: domain ∧ LocalPart localPart ∧
        Domain domain := by
  constructor
  · intro accepted
    unfold accepts at accepted
    split at accepted
    · next localPart domain cut =>
      rw [Bool.and_eq_true, isLocalPart_iff, isDomain_iff] at accepted
      exact ⟨localPart, domain, eq_of_cutLast cut, accepted⟩
    · cases accepted
  · rintro ⟨localPart, domain, rfl, isLocal, isDomain⟩
    have absent : '@' ∉ domain := isDomain.not_mem (by decide)
    rw [accepts, cutLast_append absent]
    simp [isLocalPart_iff, isDomain_iff, isLocal, isDomain]

theorem domainChar_getLast_of_accepts {text : List Char} (accepted : accepts text = true)
    {c : Char} (last : text.getLast? = some c) : DomainChar c := by
  obtain ⟨localPart, domain, rfl, -, isDomain⟩ := accepts_iff.mp accepted
  apply isDomain.domainChar c
  rw [List.getLast?_append, List.getLast?_cons] at last
  simp only [Option.some_or, Option.some.injEq] at last
  rw [← last]
  cases found : domain.getLast? with
  | none =>
      exact absurd (List.getLast?_eq_none_iff.mp found) isDomain.ne_nil
  | some final =>
      exact List.mem_of_getLast? found

/-! ## Pattern -/

section Pattern

open scoped Computability

def one (sort : Char → Prop) : Language Char :=
  {word | ∃ c, sort c ∧ word = [c]}

def repeated (item : Language Char) : Language Char :=
  item * item∗

/-- Atoms between dots, or one line between quotes. -/
def localPattern : Language Char :=
  repeated (one AtomChar) * (one (· = '.') * repeated (one AtomChar))∗ +
    one (· = '"') * repeated (one (· ≠ '\n')) * one (· = '"')

def groupPattern : Language Char :=
  one Digit * (1 + one Digit) * (1 + one Digit)

/-- Four groups between brackets, or labels with a dot behind each and two letters or more. -/
def domainPattern : Language Char :=
  one (· = '[') * (groupPattern * (one (· = '.') * groupPattern) ^ 3) * one (· = ']') +
    repeated (repeated (one LabelChar) * one (· = '.')) * (one Letter * repeated (one Letter))

/-- Mailboxes as a regular language. -/
def pattern : Language Char :=
  localPattern * one (· = '@') * domainPattern

variable {word : List Char} {item : Language Char} {sort : Char → Prop} {separator : Char}

theorem exists_parts {α : Type} {good : α → Prop} {make : α → List Char}
    {words : List (List Char)}
    (each : ∀ item ∈ words, ∃ part, good part ∧ item = make part) :
    ∃ parts : List α, (∀ part ∈ parts, good part) ∧ words = parts.map make := by
  induction words with
  | nil =>
      exact ⟨[], by simp, rfl⟩
  | cons first rest inductionHypothesis =>
      obtain ⟨⟨part, isGood, rfl⟩, later⟩ := List.forall_mem_cons.mp each
      obtain ⟨parts, allGood, rfl⟩ := inductionHypothesis later
      exact ⟨part :: parts, List.forall_mem_cons.mpr ⟨isGood, allGood⟩, rfl⟩

/-- A text that is put together from words, each made of a part, is made of the parts. -/
theorem exists_words_iff {α : Type} (size : Nat → Prop) (good : α → Prop)
    (make : α → List Char) (word : List Char) :
    (∃ words : List (List Char), size words.length ∧
        (∀ item ∈ words, ∃ part, good part ∧ item = make part) ∧ word = words.flatten) ↔
      ∃ parts : List α, size parts.length ∧ (∀ part ∈ parts, good part) ∧
        word = parts.flatMap make := by
  constructor
  · rintro ⟨words, sized, each, rfl⟩
    obtain ⟨parts, allGood, rfl⟩ := exists_parts each
    exact ⟨parts, by simpa using sized, allGood, rfl⟩
  · rintro ⟨parts, sized, allGood, rfl⟩
    refine ⟨parts.map make, by simpa using sized, ?_, rfl⟩
    intro item member
    obtain ⟨part, isPart, rfl⟩ := List.mem_map.mp member
    exact ⟨part, allGood part isPart, rfl⟩

theorem mem_one_eq {c : Char} : word ∈ one (· = c) ↔ word = [c] := by
  constructor
  · rintro ⟨_, rfl, rfl⟩
    rfl
  · rintro rfl
    exact ⟨c, rfl, rfl⟩

theorem mem_repeated :
    word ∈ repeated item ↔ ∃ words : List (List Char), 0 < words.length ∧
      (∀ part ∈ words, part ∈ item) ∧ word = words.flatten := by
  rw [repeated, Language.mem_mul]
  constructor
  · rintro ⟨first, isFirst, rest, isRest, rfl⟩
    obtain ⟨words, rfl, each⟩ := Language.mem_kstar.mp isRest
    exact ⟨first :: words, by simp, List.forall_mem_cons.mpr ⟨isFirst, each⟩, rfl⟩
  · rintro ⟨words, nonempty, each, rfl⟩
    obtain ⟨first, rest, rfl⟩ := List.exists_cons_of_length_pos nonempty
    obtain ⟨isFirst, isRest⟩ := List.forall_mem_cons.mp each
    exact ⟨first, isFirst, rest.flatten, Language.join_mem_kstar isRest, rfl⟩

theorem mem_repeated_one : word ∈ repeated (one sort) ↔ Row sort word := by
  have sorted : ∀ {part : List Char}, part ∈ one sort ↔ ∃ c, sort c ∧ part = [c] := Iff.rfl
  have flat : ∀ characters : List Char, characters.flatMap (fun c => [c]) = characters := by
    simp
  simp only [mem_repeated, sorted, exists_words_iff, flat, Row, ← List.length_pos_iff]
  constructor
  · rintro ⟨_, nonempty, each, rfl⟩
    exact ⟨nonempty, each⟩
  · rintro ⟨nonempty, each⟩
    exact ⟨word, nonempty, each, rfl⟩

theorem mem_twice : word ∈ one sort * repeated (one sort) ↔
    (∀ c ∈ word, sort c) ∧ 2 ≤ word.length := by
  simp only [Language.mem_mul, mem_repeated_one]
  constructor
  · rintro ⟨_, ⟨first, sorted, rfl⟩, rest, ⟨nonempty, each⟩, rfl⟩
    have more : 0 < rest.length := List.length_pos_iff.mpr nonempty
    refine ⟨List.forall_mem_cons.mpr ⟨sorted, each⟩, ?_⟩
    rw [List.length_append, List.length_singleton]
    omega
  · rintro ⟨each, long⟩
    match word, each, long with
    | first :: second :: rest, each, _ =>
      obtain ⟨sorted, later⟩ := List.forall_mem_cons.mp each
      exact ⟨[first], ⟨first, sorted, rfl⟩, second :: rest, ⟨by simp, later⟩, rfl⟩

theorem mem_behind : word ∈ one (· = separator) * item ↔
    ∃ part, part ∈ item ∧ word = separator :: part := by
  rw [Language.mem_mul]
  constructor
  · rintro ⟨_, ⟨_, rfl, rfl⟩, part, isItem, rfl⟩
    exact ⟨part, isItem, rfl⟩
  · rintro ⟨part, isItem, rfl⟩
    exact ⟨[separator], mem_one_eq.mpr rfl, part, isItem, rfl⟩

theorem mem_before : word ∈ item * one (· = separator) ↔
    ∃ part, part ∈ item ∧ word = part ++ [separator] := by
  simp only [Language.mem_mul, mem_one_eq, exists_eq_left, eq_comm (b := word)]

theorem mem_kstar_behind : word ∈ (one (· = separator) * item)∗ ↔
    ∃ parts : List (List Char), (∀ part ∈ parts, part ∈ item) ∧
      word = parts.flatMap (separator :: ·) := by
  have anySize := exists_words_iff (fun _ => True) (· ∈ item) (separator :: ·) word
  simp only [true_and] at anySize
  rw [← anySize, Language.mem_kstar]
  simp only [mem_behind, and_comm (a := word = _)]

theorem mem_pow_behind {count : Nat} : word ∈ (one (· = separator) * item) ^ count ↔
    ∃ parts : List (List Char), parts.length = count ∧ (∀ part ∈ parts, part ∈ item) ∧
      word = parts.flatMap (separator :: ·) := by
  have sized := exists_words_iff (· = count) (· ∈ item) (separator :: ·) word
  rw [← sized, Language.mem_pow]
  simp only [mem_behind]
  constructor
  · rintro ⟨words, rfl, counted, each⟩
    exact ⟨words, counted, each, rfl⟩
  · rintro ⟨words, counted, each, rfl⟩
    exact ⟨words, rfl, counted, each⟩

theorem mem_localPattern : word ∈ localPattern ↔ LocalPart word := by
  rw [localPattern, Language.mem_add, mul_assoc, mem_behind]
  simp only [Language.mem_mul, mem_kstar_behind, mem_repeated_one, mem_one_eq]
  constructor
  · rintro (⟨first, isFirst, _, ⟨rest, isRest, rfl⟩, rfl⟩ | ⟨_, ⟨body, line, _, rfl, rfl⟩, rfl⟩)
    · rw [← Text.join_cons_eq]
      exact .dotted (by simp) (List.forall_mem_cons.mpr ⟨isFirst, isRest⟩)
    · exact .quoted line
  · rintro (⟨nonempty, each⟩ | ⟨line⟩)
    · obtain ⟨first, rest, rfl⟩ := List.exists_cons_of_ne_nil nonempty
      obtain ⟨isFirst, isRest⟩ := List.forall_mem_cons.mp each
      rw [Text.join_cons_eq]
      exact .inl ⟨first, isFirst, _, ⟨rest, isRest, rfl⟩, rfl⟩
    · exact .inr ⟨_, ⟨_, line, _, rfl, rfl⟩, rfl⟩

theorem mem_groupPattern : word ∈ groupPattern ↔ Group word := by
  simp only [groupPattern, Language.mem_mul, Language.mem_add, Language.mem_one]
  constructor
  · rintro ⟨_, ⟨_, ⟨first, isFirst, rfl⟩, _, (rfl | ⟨second, isSecond, rfl⟩), rfl⟩,
      _, (rfl | ⟨third, isThird, rfl⟩), rfl⟩ <;>
      simp [Group, Row, *]
  · rintro ⟨⟨nonempty, each⟩, short⟩
    match word, nonempty, each, short with
    | [first], _, each, _ =>
      exact ⟨_, ⟨_, ⟨first, each first (by simp), rfl⟩, [], .inl rfl, rfl⟩, [], .inl rfl, rfl⟩
    | [first, second], _, each, _ =>
      exact ⟨_, ⟨_, ⟨first, each first (by simp), rfl⟩,
        _, .inr ⟨second, each second (by simp), rfl⟩, rfl⟩, [], .inl rfl, rfl⟩
    | [first, second, third], _, each, _ =>
      exact ⟨_, ⟨_, ⟨first, each first (by simp), rfl⟩,
        _, .inr ⟨second, each second (by simp), rfl⟩, rfl⟩,
        _, .inr ⟨third, each third (by simp), rfl⟩, rfl⟩

theorem mem_labels : word ∈ repeated (repeated (one LabelChar) * one (· = '.')) ↔
    ∃ labels : List (List Char), 0 < labels.length ∧ (∀ label ∈ labels, Row LabelChar label) ∧
      word = labels.flatMap (· ++ ['.']) := by
  rw [mem_repeated]
  simp only [mem_before, mem_repeated_one, exists_words_iff]

theorem mem_domainPattern : word ∈ domainPattern ↔ Domain word := by
  rw [domainPattern, Language.mem_add, mul_assoc, mem_behind]
  simp only [Language.mem_mul (l := repeated (repeated _ * _)), mem_labels, mem_twice,
    List.length_pos_iff]
  simp only [Language.mem_mul, mem_pow_behind, mem_groupPattern, mem_one_eq]
  constructor
  · rintro (⟨_, ⟨_, ⟨first, isFirst, _, ⟨rest, three, isRest, rfl⟩, rfl⟩, _, rfl, rfl⟩, rfl⟩ |
      ⟨_, ⟨labels, nonempty, each, rfl⟩, final, ⟨letters, long⟩, rfl⟩)
    · rw [← Text.join_cons_eq]
      exact .address (by simp [three]) (List.forall_mem_cons.mpr ⟨isFirst, isRest⟩)
    · exact .hostName nonempty each letters long
  · rintro (⟨four, each⟩ | ⟨nonempty, each, letters, long⟩)
    · rename_i groups
      obtain ⟨first, rest, rfl⟩ := List.exists_cons_of_length_eq_add_one four
      obtain ⟨isFirst, isRest⟩ := List.forall_mem_cons.mp each
      rw [Text.join_cons_eq]
      exact .inl ⟨_, ⟨_, ⟨first, isFirst, _, ⟨rest, by simpa using four, isRest, rfl⟩, rfl⟩,
        _, rfl, rfl⟩, rfl⟩
    · exact .inr ⟨_, ⟨_, nonempty, each, rfl⟩, _, ⟨letters, long⟩, rfl⟩

/-- The recogniser takes the regular language of the pattern. -/
theorem accepts_iff_mem_pattern : accepts word = true ↔ word ∈ pattern := by
  rw [accepts_iff, pattern, mul_assoc, Language.mem_mul]
  simp only [mem_behind, mem_localPattern, mem_domainPattern]
  constructor
  · rintro ⟨localPart, domain, rfl, isLocal, isDomain⟩
    exact ⟨localPart, isLocal, _, ⟨domain, isDomain, rfl⟩, rfl⟩
  · rintro ⟨localPart, isLocal, _, ⟨domain, isDomain, rfl⟩, rfl⟩
    exact ⟨localPart, domain, rfl, isLocal, isDomain⟩

/-! ## The two small sigmas -/

/-- A language does not tell characters apart that become the same. -/
def Blind (change : Char → Char) (language : Language Char) : Prop :=
  ∀ word : List Char, word.map change ∈ language ↔ word ∈ language

section Blind

variable {change : Char → Char} {left right : Language Char}

theorem Blind.one {sort : Char → Prop} (same : ∀ c, sort (change c) ↔ sort c) :
    Blind change (one sort) := by
  intro word
  constructor
  · rintro ⟨c, sorted, changed⟩
    obtain ⟨original, rfl, rfl⟩ := List.map_eq_singleton_iff.mp changed
    exact ⟨original, (same original).mp sorted, rfl⟩
  · rintro ⟨c, sorted, rfl⟩
    exact ⟨change c, (same c).mpr sorted, rfl⟩

theorem Blind.empty : Blind change (1 : Language Char) := by
  intro word
  simp [Language.mem_one]

theorem Blind.or (ofLeft : Blind change left) (ofRight : Blind change right) :
    Blind change (left + right) := by
  intro word
  rw [Language.mem_add, Language.mem_add, ofLeft word, ofRight word]

theorem Blind.andThen (ofLeft : Blind change left) (ofRight : Blind change right) :
    Blind change (left * right) := by
  intro word
  constructor
  · rintro ⟨first, isFirst, second, isSecond, whole⟩
    obtain ⟨front, back, rfl, rfl, rfl⟩ := List.map_eq_append_iff.mp whole.symm
    exact ⟨front, (ofLeft front).mp isFirst, back, (ofRight back).mp isSecond, rfl⟩
  · rintro ⟨first, isFirst, second, isSecond, rfl⟩
    exact ⟨first.map change, (ofLeft first).mpr isFirst, second.map change,
      (ofRight second).mpr isSecond, List.map_append.symm⟩

theorem Blind.star (ofItem : Blind change left) : Blind change left∗ := by
  intro word
  constructor
  · intro changed
    obtain ⟨words, whole, each⟩ := Language.mem_kstar.mp changed
    -- The words of the changed text are those of the text itself, one after another.
    induction words generalizing word with
    | nil =>
        rw [List.map_eq_nil_iff.mp whole]
        exact Language.nil_mem_kstar left
    | cons first rest inductionHypothesis =>
        obtain ⟨isFirst, later⟩ := List.forall_mem_cons.mp each
        obtain ⟨front, back, rfl, rfl, remaining⟩ := List.map_eq_append_iff.mp whole
        have changedBack : back.map change ∈ left∗ :=
          Language.mem_kstar.mpr ⟨rest, remaining, later⟩
        obtain ⟨words, rfl, all⟩ :=
          Language.mem_kstar.mp (inductionHypothesis back changedBack remaining later)
        exact Language.mem_kstar.mpr ⟨front :: words, rfl,
          List.forall_mem_cons.mpr ⟨(ofItem front).mp isFirst, all⟩⟩
  · intro original
    obtain ⟨words, rfl, each⟩ := Language.mem_kstar.mp original
    refine Language.mem_kstar.mpr ⟨words.map (List.map change), List.map_flatten, ?_⟩
    intro item member
    obtain ⟨part, isPart, rfl⟩ := List.mem_map.mp member
    exact (ofItem part).mpr (each part isPart)

theorem Blind.times (ofItem : Blind change left) (count : Nat) : Blind change (left ^ count) := by
  induction count with
  | zero =>
      rw [pow_zero]
      exact .empty
  | succ count inductionHypothesis =>
      rw [pow_succ]
      exact inductionHypothesis.andThen ofItem

theorem Blind.repeated (ofItem : Blind change left) : Blind change (repeated left) :=
  ofItem.andThen ofItem.star

end Blind

/-- A change that keeps digits, letters and marks makes no difference to a domain. -/
theorem blind_domainPattern {change : Char → Char} (digits : ∀ c, Digit (change c) ↔ Digit c)
    (letters : ∀ c, Letter (change c) ↔ Letter c)
    (marks : ∀ separator ∈ ['-', '.', '[', ']'], ∀ c, change c = separator ↔ c = separator) :
    Blind change domainPattern := by
  have mark : ∀ separator ∈ ['-', '.', '[', ']'], Blind change (one (· = separator)) :=
    fun separator member => .one (marks separator member)
  have dot := mark '.' (by decide)
  have digit : Blind change (one Digit) := .one digits
  have letter : Blind change (one Letter) := .one letters
  have label : Blind change (one LabelChar) := .one fun c => by
    rw [LabelChar, letters c, digits c, marks '-' (by decide) c, ← LabelChar]
  have group : Blind change groupPattern :=
    (digit.andThen (Blind.empty.or digit)).andThen (Blind.empty.or digit)
  exact (((mark '[' (by decide)).andThen
      (group.andThen ((dot.andThen group).times 3))).andThen (mark ']' (by decide))).or
    ((label.repeated.andThen dot).repeated.andThen (letter.andThen letter.repeated))

/-- The small sigma for the end of a word as the common one. -/
def oneSigma (c : Char) : Char :=
  if c = 'ς' then 'σ' else c

theorem sort_oneSigma (sort : Char → Prop) (same : sort 'σ' ↔ sort 'ς') (c : Char) :
    sort (oneSigma c) ↔ sort c := by
  by_cases final : c = 'ς'
  · rw [oneSigma, if_pos final, final]
    exact same
  · rw [oneSigma, if_neg final]

theorem mark_oneSigma {separator : Char} (notSigma : separator ≠ 'σ')
    (notFinal : separator ≠ 'ς') : ∀ c, oneSigma c = separator ↔ c = separator :=
  sort_oneSigma (· = separator) (by simp [notSigma.symm, notFinal.symm])

theorem blind_pattern : Blind oneSigma pattern := by
  have mark : ∀ {separator : Char}, separator ≠ 'σ' → separator ≠ 'ς' →
      Blind oneSigma (one (· = separator)) :=
    fun notSigma notFinal => .one (mark_oneSigma notSigma notFinal)
  have quote := mark (by decide : '"' ≠ 'σ') (by decide)
  have atom : Blind oneSigma (one AtomChar) := .one (sort_oneSigma AtomChar (by decide))
  have line : Blind oneSigma (one (· ≠ '\n')) := .one (sort_oneSigma (· ≠ '\n') (by decide))
  have localBlind : Blind oneSigma localPattern :=
    (atom.repeated.andThen
        ((mark (by decide) (by decide)).andThen atom.repeated).star).or
      ((quote.andThen line.repeated).andThen quote)
  have unlike : ∀ separator ∈ ['-', '.', '[', ']'], separator ≠ 'σ' ∧ separator ≠ 'ς' := by
    simp
  have domainBlind : Blind oneSigma domainPattern :=
    blind_domainPattern (sort_oneSigma Digit (by decide)) (sort_oneSigma Letter (by decide))
      fun separator member => mark_oneSigma (unlike separator member).1 (unlike separator member).2
  exact (localBlind.andThen (mark (by decide) (by decide))).andThen domainBlind

end Pattern

/-- The recogniser does not tell the two small sigmas apart. -/
theorem accepts_congr {left right : List Char} (same : left.map oneSigma = right.map oneSigma) :
    accepts left = accepts right := by
  rw [Bool.eq_iff_iff, accepts_iff_mem_pattern, accepts_iff_mem_pattern, ← blind_pattern left,
    same, blind_pattern right]

end Mailbox

namespace BuiltIn

/-- A value is a mailbox exactly when its text in small letters belongs to the grammar, in
whichever form a capital sigma was made small.  No text with a line feed at its end is one. -/
theorem isEmail_iff_grammar :
    (∀ (value : Value) (lowered : List Char),
      lowered.map Mailbox.oneSigma = (Text.lower value.display).map Mailbox.oneSigma →
      (isEmail value = true ↔
        ∃ localPart domain, lowered = localPart ++ '@' :: domain ∧
          Mailbox.LocalPart localPart ∧ Mailbox.Domain domain)) ∧
      ∀ text : String, isEmail (.text (text ++ "\n")) = false := by
  refine ⟨fun value lowered same => ?_, fun text => ?_⟩
  · rw [isEmail, ← Mailbox.accepts_congr same]
    exact Mailbox.accepts_iff
  rw [Bool.eq_false_iff]
  intro accepted
  have lowered : Text.lower (text ++ "\n").toList = Text.lower text.toList ++ ['\n'] := by
    rw [String.toList_append, Text.lower, List.flatMap_append]
    rfl
  have last : (Text.lower (text ++ "\n").toList).getLast? = some '\n' := by
    rw [lowered, List.getLast?_concat]
  exact absurd (Mailbox.domainChar_getLast_of_accepts accepted last) (by decide)

/-- A capital sigma before the at sign may be made small as one at the end of a word. -/
theorem final_sigma_is_an_atom :
    isEmail (.text "ΑΣ@x.gr") = true ∧
      ∃ localPart domain, "ας@x.gr".toList = localPart ++ '@' :: domain ∧
        Mailbox.LocalPart localPart ∧ Mailbox.Domain domain := by
  have accepted : isEmail (.text "ΑΣ@x.gr") = true := by
    decide +kernel
  exact ⟨accepted, (isEmail_iff_grammar.1 (.text "ΑΣ@x.gr") _ (by decide +kernel)).mp accepted⟩

/-- An at sign between quotes does not end the local part, and no atom is empty. -/
example : isEmail (.text "\"a@b\"@c.org") = true ∧ isEmail (.text "a..b@c.org") = false := by
  decide +kernel

end BuiltIn

end FormCheck
