import FormCheck.Value
import Mathlib.Data.List.Forall2
import Mathlib.Data.List.Pairwise
import Mathlib.Data.List.Perm.Subperm

/-!
# Equality of values

Values without parts are compared by a mark: their place on the line of numbers, or, where they
have none, what they are.  Lists and tuples are compared item by item, and records by their
entries in any order.

Sameness is symmetric and transitive wherever no record has a key twice.  The two laws are
proved together, from the parts of values: that two records are the same the other way round
takes transitivity for their keys, because two entries of one record must not lead to the
same entry of the other one.  Equality follows: it is sameness, but for what is not a number.
-/

namespace FormCheck.Value

/-! ## Values without parts -/

/-- A value is neither a list nor a tuple nor a record. -/
def isFlat : Value → Bool
  | .list _ | .tuple _ | .record _ => false
  | _ => true

/-- What values without parts are compared by. -/
inductive Mark where
  | place (position : Position)
  | itself (value : Value)

def mark? (value : Value) : Option Mark :=
  match value.position? with
  | some position => some (.place position)
  | none => if value.isFlat then some (.itself value) else none

/-- Two values have the same mark. -/
def SameMark (left right : Value) : Prop :=
  ∃ mark, left.mark? = some mark ∧ right.mark? = some mark

theorem SameMark.symm {left right : Value} (same : left.SameMark right) :
    right.SameMark left := by
  obtain ⟨mark, ofLeft, ofRight⟩ := same
  exact ⟨mark, ofRight, ofLeft⟩

theorem SameMark.trans {left middle right : Value} (first : left.SameMark middle)
    (second : middle.SameMark right) : left.SameMark right := by
  obtain ⟨mark, ofLeft, ofMiddle⟩ := first
  obtain ⟨other, again, ofRight⟩ := second
  have sameMark : mark = other := Option.some.inj (ofMiddle.symm.trans again)
  exact ⟨mark, ofLeft, sameMark ▸ ofRight⟩

theorem mark?_eq_place_iff {value : Value} {position : Position} :
    value.mark? = some (.place position) ↔ value.position? = some position := by
  cases placed : value.position? with
  | some place =>
      simp [mark?, placed]
  | none =>
      simp [mark?, placed]

theorem mark?_eq_itself_iff {value other : Value} (flat : other.isFlat = true)
    (unplaced : other.position? = none) : value.mark? = some (.itself other) ↔ other = value := by
  constructor
  · intro marked
    rw [mark?] at marked
    split at marked
    · cases marked
    · split at marked
      · cases marked
        rfl
      · cases marked
  · rintro rfl
    rw [mark?, unplaced, if_pos flat]

/-- Two places that are both there and the same. -/
def samePlace : Option Position → Option Position → Bool
  | some left, some right => left == right
  | _, _ => false

theorem samePlace_iff {left? right? : Option Position} :
    samePlace left? right? = true ↔ ∃ position, left? = some position ∧ right? = some position := by
  cases left? with
  | none =>
      simp [samePlace]
  | some left =>
      cases right? with
      | none =>
          simp [samePlace]
      | some right =>
          simp [samePlace, eq_comm (a := left)]

/-- Numbers and truth values are the same as what has the same place. -/
theorem same_eq_samePlace {left : Value} {place : Position} (placed : left.position? = some place)
    (right : Value) : left.same right = samePlace left.position? right.position? := by
  cases left with
  | integer number =>
      cases right with
      | integer other =>
          rw [Bool.eq_iff_iff]
          simp only [Value.same, position?, samePlace, beq_iff_eq, Position.ofInt_eq_ofInt_iff]
      | _ =>
          rfl
  | boolean truth =>
      cases right <;> rfl
  | real number =>
      cases number with
      | nan object =>
          cases placed
      | _ =>
          cases right <;> rfl
  | _ =>
      cases placed

/-- Values of no place are the same as nothing but their like. -/
theorem same_of_unplaced_iff {left : Value} (flat : left.isFlat = true)
    (unplaced : left.position? = none) (right : Value) :
    left.same right = true ↔ left = right := by
  cases left with
  | null | text | octets =>
      cases right <;> simp [Value.same, position?]
  | real number =>
      cases number with
      | nan object =>
          cases right with
          | real other =>
              cases other <;> simp [Value.same, position?, Binary64.position?]
          | _ =>
              simp [Value.same, position?, Binary64.position?]
      | infinite negative | finite negative =>
          cases negative <;> cases unplaced
  | boolean | integer =>
      cases unplaced
  | list | tuple | record =>
      cases flat

theorem same_iff_sameMark {left : Value} (flat : left.isFlat = true) (right : Value) :
    left.same right = true ↔ left.SameMark right := by
  cases placed : left.position? with
  | some place =>
      have marked : left.mark? = some (.place place) := mark?_eq_place_iff.mpr placed
      rw [same_eq_samePlace placed, samePlace_iff]
      simp [SameMark, marked, mark?_eq_place_iff, placed]
  | none =>
      have marked : left.mark? = some (.itself left) := (mark?_eq_itself_iff flat placed).mpr rfl
      rw [same_of_unplaced_iff flat placed]
      simp [SameMark, marked, mark?_eq_itself_iff flat placed]

theorem sameMark_isFlat {left right : Value} (same : left.SameMark right) :
    right.isFlat = true := by
  obtain ⟨mark, -, marked⟩ := same
  cases right with
  | list | tuple | record =>
      cases marked
  | _ =>
      rfl

/-! ## Values with parts -/

/-- Items that are equal one by one. -/
def SameItems : List Value → List Value → Prop :=
  List.Forall₂ fun left right => left.same right = true

theorem sameItems_iff {lefts rights : List Value} :
    sameItems lefts rights = true ↔ SameItems lefts rights := by
  induction lefts generalizing rights with
  | nil =>
      cases rights <;> simp [sameItems, SameItems]
  | cons left lefts inductionHypothesis =>
      cases rights with
      | nil =>
          simp [sameItems, SameItems]
      | cons right rights =>
          simp only [sameItems, SameItems, Bool.and_eq_true, List.forall₂_cons]
          rw [inductionHypothesis]
          rfl

theorem same_list_iff {items : List Value} {right : Value} :
    (Value.list items).same right = true ↔
      ∃ others, right = .list others ∧ SameItems items others := by
  cases right <;> simp [Value.same, position?, sameItems_iff]

theorem same_tuple_iff {items : List Value} {right : Value} :
    (Value.tuple items).same right = true ↔
      ∃ others, right = .tuple others ∧ SameItems items others := by
  cases right <;> simp [Value.same, position?, sameItems_iff]

theorem same_record_iff {entries : List (Value × Value)} {right : Value} :
    (Value.record entries).same right = true ↔
      ∃ others, right = .record others ∧ entries.length = others.length ∧
        hasEntries others entries = true := by
  cases right <;> simp [Value.same, position?]

/-! ## Keys -/

/-- No key equals an earlier one. -/
def DistinctKeys (entries : List (Value × Value)) : Prop :=
  (entries.map (·.1)).Pairwise fun earlier later => earlier.same later = false

/-- The values that a value is made of. -/
def parts : Value → List Value
  | .list items | .tuple items => items
  | .record entries => entries.map (·.1) ++ entries.map (·.2)
  | _ => []

/-- No record in a value has a key twice. -/
inductive WellKeyed : Value → Prop where
  | intro {value : Value}
      (distinct : ∀ entries, value = .record entries → DistinctKeys entries)
      (parts : ∀ part ∈ value.parts, part.WellKeyed) : WellKeyed value

theorem WellKeyed.part {value part : Value} (keyed : value.WellKeyed)
    (member : part ∈ value.parts) : part.WellKeyed := by
  cases keyed with
  | intro distinct parts =>
      exact parts part member

theorem WellKeyed.distinctKeys {entries : List (Value × Value)}
    (keyed : (Value.record entries).WellKeyed) : DistinctKeys entries := by
  cases keyed with
  | intro distinct parts =>
      exact distinct entries rfl

theorem key_mem_parts {entries : List (Value × Value)} {entry : Value × Value}
    (member : entry ∈ entries) : entry.1 ∈ (Value.record entries).parts :=
  List.mem_append_left _ (List.mem_map_of_mem member)

theorem value_mem_parts {entries : List (Value × Value)} {entry : Value × Value}
    (member : entry ∈ entries) : entry.2 ∈ (Value.record entries).parts :=
  List.mem_append_right _ (List.mem_map_of_mem member)

theorem sizeOf_part_lt {value part : Value} (member : part ∈ value.parts) :
    sizeOf part < sizeOf value := by
  cases value with
  | list items | tuple items =>
      have smaller : sizeOf part < sizeOf items := List.sizeOf_lt_of_mem member
      simp only [Value.list.sizeOf_spec, Value.tuple.sizeOf_spec]
      omega
  | record entries =>
      have ofEntry : ∃ entry ∈ entries, part = entry.1 ∨ part = entry.2 := by
        rcases List.mem_append.mp member with isKey | isValue
        · obtain ⟨entry, held, rfl⟩ := List.mem_map.mp isKey
          exact ⟨entry, held, .inl rfl⟩
        · obtain ⟨entry, held, rfl⟩ := List.mem_map.mp isValue
          exact ⟨entry, held, .inr rfl⟩
      obtain ⟨⟨key, value⟩, held, isPart⟩ := ofEntry
      have smaller : sizeOf (key, value) < sizeOf entries := List.sizeOf_lt_of_mem held
      simp only [Prod.mk.sizeOf_spec] at smaller
      simp only [Value.record.sizeOf_spec]
      rcases isPart with rfl | rfl
      · omega
      · omega
  | _ =>
      cases member

theorem wellKeyed_of_isFlat {value : Value} (flat : value.isFlat = true) : value.WellKeyed := by
  cases value with
  | list | tuple | record =>
      cases flat
  | _ =>
      exact .intro nofun nofun

theorem wellKeyed_list {items : List Value} (keyed : ∀ item ∈ items, item.WellKeyed) :
    (Value.list items).WellKeyed :=
  .intro nofun keyed

theorem mem_putEntry {entries : List (Value × Value)} {key value : Value}
    {entry : Value × Value} (member : entry ∈ putEntry entries key value) :
    (entry.1 = key ∨ entry.1 ∈ entries.map (·.1)) ∧
      (entry.2 = value ∨ entry.2 ∈ entries.map (·.2)) := by
  induction entries with
  | nil =>
      cases List.mem_singleton.mp member
      exact ⟨.inl rfl, .inl rfl⟩
  | cons first rest inductionHypothesis =>
      obtain ⟨known, old⟩ := first
      have later (held : entry ∈ rest) :
          entry.1 ∈ rest.map (·.1) ∧ entry.2 ∈ rest.map (·.2) :=
        ⟨List.mem_map_of_mem held, List.mem_map_of_mem held⟩
      simp only [List.map_cons, List.mem_cons]
      rw [putEntry] at member
      split at member
      · rcases List.mem_cons.mp member with rfl | held
        · exact ⟨.inr (.inl rfl), .inl rfl⟩
        · exact ⟨.inr (.inr (later held).1), .inr (.inr (later held).2)⟩
      · rcases List.mem_cons.mp member with rfl | held
        · exact ⟨.inr (.inl rfl), .inr (.inl rfl)⟩
        · have ofRest := inductionHypothesis held
          exact ⟨ofRest.1.imp_right .inr, ofRest.2.imp_right .inr⟩

theorem distinctKeys_putEntry {entries : List (Value × Value)} (distinct : DistinctKeys entries)
    (key value : Value) : DistinctKeys (putEntry entries key value) := by
  induction entries with
  | nil =>
      exact List.pairwise_singleton _ _
  | cons first rest inductionHypothesis =>
      obtain ⟨known, old⟩ := first
      obtain ⟨fresh, distinctRest⟩ := List.pairwise_cons.mp distinct
      rw [putEntry]
      split
      · exact distinct
      · next unequal =>
        refine List.pairwise_cons.mpr ⟨?_, inductionHypothesis distinctRest⟩
        intro other member
        obtain ⟨entry, held, rfl⟩ := List.mem_map.mp member
        rcases (mem_putEntry held).1 with same | ofRest
        · exact same ▸ Bool.eq_false_iff.mpr unequal
        · exact fresh entry.1 ofRest

/-- A record that is built entry by entry has no key twice. -/
theorem wellKeyed_recordOf {entries : List (Value × Value)}
    (keyed : ∀ entry ∈ entries, entry.1.WellKeyed ∧ entry.2.WellKeyed) :
    (recordOf entries).WellKeyed := by
  refine List.foldlRecOn (motive := fun built => (Value.record built).WellKeyed) _ _
    (.intro (fun _ same => by cases same; exact .nil) nofun) ?_
  intro built inductionHypothesis entry member
  obtain ⟨keyKeyed, valueKeyed⟩ := keyed entry member
  refine .intro ?_ ?_
  · rintro _ ⟨⟩
    exact distinctKeys_putEntry inductionHypothesis.distinctKeys entry.1 entry.2
  · intro part partMember
    rcases List.mem_append.mp partMember with isKey | isValue
    · obtain ⟨held, heldMember, rfl⟩ := List.mem_map.mp isKey
      rcases (mem_putEntry heldMember).1 with same | old
      · exact same ▸ keyKeyed
      · exact inductionHypothesis.part (List.mem_append_left _ old)
    · obtain ⟨held, heldMember, rfl⟩ := List.mem_map.mp isValue
      rcases (mem_putEntry heldMember).2 with same | old
      · exact same ▸ valueKeyed
      · exact inductionHypothesis.part (List.mem_append_right _ old)

/-! ## Symmetry and transitivity -/

/-- Sameness is symmetric and transitive on the values with a property. -/
structure Regular (holds : Value → Prop) : Prop where
  symm : ∀ {left right}, holds left → holds right → left.same right = true →
    right.same left = true
  trans : ∀ {left middle right}, holds left → holds middle → holds right →
    left.same middle = true → middle.same right = true → left.same right = true

namespace Regular

variable {holds : Value → Prop} (regular : Regular holds)

include regular

theorem symm_items {lefts rights : List Value} (onLeft : ∀ item ∈ lefts, holds item)
    (onRight : ∀ item ∈ rights, holds item) (same : SameItems lefts rights) :
    SameItems rights lefts := by
  induction same with
  | nil =>
      exact .nil
  | cons equal later inductionHypothesis =>
      obtain ⟨left, lefts⟩ := List.forall_mem_cons.mp onLeft
      obtain ⟨right, rights⟩ := List.forall_mem_cons.mp onRight
      exact .cons (regular.symm left right equal) (inductionHypothesis lefts rights)

theorem trans_items {lefts middles rights : List Value} (onLeft : ∀ item ∈ lefts, holds item)
    (onMiddle : ∀ item ∈ middles, holds item) (onRight : ∀ item ∈ rights, holds item)
    (first : SameItems lefts middles) (second : SameItems middles rights) :
    SameItems lefts rights := by
  induction first generalizing rights with
  | nil =>
      exact second
  | cons equal later inductionHypothesis =>
      cases second with
      | cons otherEqual otherLater =>
          obtain ⟨left, lefts⟩ := List.forall_mem_cons.mp onLeft
          obtain ⟨middle, middles⟩ := List.forall_mem_cons.mp onMiddle
          obtain ⟨right, rights⟩ := List.forall_mem_cons.mp onRight
          exact .cons (regular.trans left middle right equal otherEqual)
            (inductionHypothesis lefts middles rights otherLater)

variable {entries others : List (Value × Value)}

/-- Two entries of a record with equal keys are one entry. -/
theorem eq_of_same_keys (distinct : DistinctKeys entries)
    (keys : ∀ entry ∈ entries, holds entry.1) {first second : Value × Value}
    (firstMember : first ∈ entries) (secondMember : second ∈ entries)
    (equal : first.1.same second.1 = true) : first = second := by
  let Apart (one other : Value × Value) : Prop :=
    one.1.same other.1 = false ∧ other.1.same one.1 = false
  have symmetric : Std.Symm Apart := ⟨fun _ _ both => ⟨both.2, both.1⟩⟩
  have apart : entries.Pairwise Apart := by
    refine (List.pairwise_map.mp distinct).imp_of_mem ?_
    intro one other oneMember otherMember unequal
    refine ⟨unequal, Bool.eq_false_iff.mpr fun backward => ?_⟩
    rw [regular.symm (keys other otherMember) (keys one oneMember) backward] at unequal
    cases unequal
  by_contra different
  have unequal : first.1.same second.1 = false :=
    (apart.forall firstMember secondMember different).1
  rw [unequal] at equal
  cases equal

/-- Keys are looked up in order, but a key is found in one place only. -/
theorem hasEntries_iff (distinct : DistinctKeys others)
    (onEntries : ∀ entry ∈ entries, holds entry.1) (onOthers : ∀ entry ∈ others, holds entry.1) :
    hasEntries others entries = true ↔
      ∀ entry ∈ entries, ∃ other ∈ others,
        entry.1.same other.1 = true ∧ entry.2.same other.2 = true := by
  induction entries with
  | nil =>
      simp [hasEntries]
  | cons entry rest inductionHypothesis =>
      obtain ⟨key, value⟩ := entry
      obtain ⟨onKey, onRest⟩ := List.forall_mem_cons.mp onEntries
      rw [hasEntries, Bool.and_eq_true, inductionHypothesis onRest, List.forall_mem_cons]
      refine and_congr_left fun _ => ?_
      constructor
      · intro found
        cases lookup : others.find? fun other => key.same other.1 with
        | none =>
            simp [lookup] at found
        | some other =>
            refine ⟨other, List.mem_of_find?_eq_some lookup, ?_, by simpa [lookup] using found⟩
            exact List.find?_some (p := fun other : Value × Value => key.same other.1) lookup
      · rintro ⟨other, member, sameKey, sameValue⟩
        cases lookup : others.find? fun other => key.same other.1 with
        | none =>
            exact absurd sameKey (List.find?_eq_none.mp lookup other member)
        | some found =>
            have foundMember : found ∈ others := List.mem_of_find?_eq_some lookup
            have foundKey : key.same found.1 = true :=
              List.find?_some (p := fun other : Value × Value => key.same other.1) lookup
            have sameKeys : other.1.same found.1 = true :=
              regular.trans (onOthers other member) onKey (onOthers found foundMember)
                (regular.symm onKey (onOthers other member) sameKey) foundKey
            have one : other = found :=
              regular.eq_of_same_keys distinct onOthers member foundMember sameKeys
            simpa [one] using sameValue

/-- Entries that all lead to others lead to all of the others. -/
theorem symm_entries (sameLength : entries.length = others.length)
    (distinct : DistinctKeys entries) (onEntries : ∀ entry ∈ entries, holds entry.1)
    (onOthers : ∀ entry ∈ others, holds entry.1)
    (led : ∀ entry ∈ entries, ∃ other ∈ others,
      entry.1.same other.1 = true ∧ entry.2.same other.2 = true) :
    ∀ other ∈ others, ∃ entry ∈ entries,
      entry.1.same other.1 = true ∧ entry.2.same other.2 = true := by
  choose! partner isOther sameKey sameValue using led
  have apart : (entries.map partner).Nodup := by
    refine List.pairwise_map.mpr ((List.pairwise_map.mp distinct).imp_of_mem ?_)
    intro first second firstMember secondMember unequal samePartner
    have back : (partner first).1.same second.1 = true := by
      rw [samePartner]
      exact regular.symm (onEntries second secondMember)
        (onOthers _ (isOther second secondMember)) (sameKey second secondMember)
    have equal : first.1.same second.1 = true :=
      regular.trans (onEntries first firstMember) (onOthers _ (isOther first firstMember))
        (onEntries second secondMember) (sameKey first firstMember) back
    rw [equal] at unequal
    cases unequal
  have within : entries.map partner ⊆ others := by
    intro other member
    obtain ⟨entry, entryMember, rfl⟩ := List.mem_map.mp member
    exact isOther entry entryMember
  have all : (entries.map partner).Perm others := by
    refine (List.subperm_of_subset apart within).perm_of_length_le ?_
    simp [sameLength]
  intro other member
  obtain ⟨entry, entryMember, rfl⟩ := List.mem_map.mp (all.mem_iff.mpr member)
  exact ⟨entry, entryMember, sameKey entry entryMember, sameValue entry entryMember⟩

theorem symm_record (distinct : DistinctKeys entries) (otherDistinct : DistinctKeys others)
    (onEntries : ∀ part ∈ (Value.record entries).parts, holds part)
    (onOthers : ∀ part ∈ (Value.record others).parts, holds part)
    (equal : (Value.record entries).same (.record others) = true) :
    (Value.record others).same (.record entries) = true := by
  have keys : ∀ entry ∈ entries, holds entry.1 := fun _ member =>
    onEntries _ (key_mem_parts member)
  have otherKeys : ∀ entry ∈ others, holds entry.1 := fun _ member =>
    onOthers _ (key_mem_parts member)
  obtain ⟨_, same, sameLength, has⟩ := same_record_iff.mp equal
  cases same
  have led := (regular.hasEntries_iff otherDistinct keys otherKeys).mp has
  have back := regular.symm_entries sameLength distinct keys otherKeys led
  refine same_record_iff.mpr ⟨entries, rfl, sameLength.symm, ?_⟩
  refine (regular.hasEntries_iff distinct otherKeys keys).mpr ?_
  intro other otherMember
  obtain ⟨entry, member, sameKey, sameValue⟩ := back other otherMember
  exact ⟨entry, member,
    regular.symm (keys entry member) (otherKeys other otherMember) sameKey,
    regular.symm (onEntries _ (value_mem_parts member)) (onOthers _ (value_mem_parts otherMember))
      sameValue⟩

theorem trans_record {lefts middles rights : List (Value × Value)}
    (middleDistinct : DistinctKeys middles) (rightDistinct : DistinctKeys rights)
    (onLeft : ∀ part ∈ (Value.record lefts).parts, holds part)
    (onMiddle : ∀ part ∈ (Value.record middles).parts, holds part)
    (onRight : ∀ part ∈ (Value.record rights).parts, holds part)
    (first : (Value.record lefts).same (.record middles) = true)
    (second : (Value.record middles).same (.record rights) = true) :
    (Value.record lefts).same (.record rights) = true := by
  have leftKeys : ∀ entry ∈ lefts, holds entry.1 := fun _ member =>
    onLeft _ (key_mem_parts member)
  have middleKeys : ∀ entry ∈ middles, holds entry.1 := fun _ member =>
    onMiddle _ (key_mem_parts member)
  have rightKeys : ∀ entry ∈ rights, holds entry.1 := fun _ member =>
    onRight _ (key_mem_parts member)
  obtain ⟨_, same, firstLength, firstHas⟩ := same_record_iff.mp first
  cases same
  obtain ⟨_, same, secondLength, secondHas⟩ := same_record_iff.mp second
  cases same
  refine same_record_iff.mpr ⟨rights, rfl, firstLength.trans secondLength, ?_⟩
  refine (regular.hasEntries_iff rightDistinct leftKeys rightKeys).mpr ?_
  intro left leftMember
  obtain ⟨middle, middleMember, firstKey, firstValue⟩ :=
    (regular.hasEntries_iff middleDistinct leftKeys middleKeys).mp firstHas left leftMember
  obtain ⟨right, rightMember, secondKey, secondValue⟩ :=
    (regular.hasEntries_iff rightDistinct middleKeys rightKeys).mp secondHas middle middleMember
  refine ⟨right, rightMember, ?_, ?_⟩
  · exact regular.trans (leftKeys left leftMember) (middleKeys middle middleMember)
      (rightKeys right rightMember) firstKey secondKey
  · exact regular.trans (onLeft _ (value_mem_parts leftMember))
      (onMiddle _ (value_mem_parts middleMember)) (onRight _ (value_mem_parts rightMember))
      firstValue secondValue

end Regular

/-- Values whose parts are compared in a regular way are compared so themselves. -/
theorem regular_of_parts {holds : Value → Prop} (regular : Regular holds) :
    Regular fun value => value.WellKeyed ∧ ∀ part ∈ value.parts, holds part where
  symm := by
    rintro left right ⟨leftKeyed, onLeft⟩ ⟨rightKeyed, onRight⟩ equal
    cases left with
    | list items =>
        obtain ⟨others, rfl, same⟩ := same_list_iff.mp equal
        exact same_list_iff.mpr ⟨items, rfl, regular.symm_items onLeft onRight same⟩
    | tuple items =>
        obtain ⟨others, rfl, same⟩ := same_tuple_iff.mp equal
        exact same_tuple_iff.mpr ⟨items, rfl, regular.symm_items onLeft onRight same⟩
    | record entries =>
        obtain ⟨others, rfl, -⟩ := same_record_iff.mp equal
        exact regular.symm_record leftKeyed.distinctKeys rightKeyed.distinctKeys onLeft onRight
          equal
    | _ =>
        have same := (same_iff_sameMark rfl right).mp equal
        exact (same_iff_sameMark (sameMark_isFlat same) _).mpr same.symm
  trans := by
    rintro left middle right ⟨leftKeyed, onLeft⟩ ⟨middleKeyed, onMiddle⟩ ⟨rightKeyed, onRight⟩
      first second
    cases left with
    | list items =>
        obtain ⟨others, rfl, same⟩ := same_list_iff.mp first
        obtain ⟨last, rfl, again⟩ := same_list_iff.mp second
        exact same_list_iff.mpr
          ⟨last, rfl, regular.trans_items onLeft onMiddle onRight same again⟩
    | tuple items =>
        obtain ⟨others, rfl, same⟩ := same_tuple_iff.mp first
        obtain ⟨last, rfl, again⟩ := same_tuple_iff.mp second
        exact same_tuple_iff.mpr
          ⟨last, rfl, regular.trans_items onLeft onMiddle onRight same again⟩
    | record entries =>
        obtain ⟨others, rfl, -⟩ := same_record_iff.mp first
        obtain ⟨last, rfl, -⟩ := same_record_iff.mp second
        exact regular.trans_record middleKeyed.distinctKeys rightKeyed.distinctKeys onLeft onMiddle
          onRight first second
    | _ =>
        have same := (same_iff_sameMark rfl middle).mp first
        have again := (same_iff_sameMark (sameMark_isFlat same) right).mp second
        exact (same_iff_sameMark rfl right).mpr (same.trans again)

/-- Sameness is symmetric and transitive on values in which no record has a key twice. -/
theorem regular_wellKeyed : Regular WellKeyed := by
  -- The induction is on a bound for the size, as both laws compare several values at once.
  have below : ∀ bound, Regular fun value => value.WellKeyed ∧ sizeOf value < bound := by
    intro bound
    induction bound with
    | zero =>
        constructor <;> intros <;> omega
    | succ bound inductionHypothesis =>
        have step := regular_of_parts inductionHypothesis
        have within {value : Value} (small : value.WellKeyed ∧ sizeOf value < bound + 1) :
            value.WellKeyed ∧ ∀ part ∈ value.parts, part.WellKeyed ∧ sizeOf part < bound := by
          refine ⟨small.1, fun part member => ⟨small.1.part member, ?_⟩⟩
          have smaller := sizeOf_part_lt member
          omega
        exact ⟨fun left right => step.symm (within left) (within right),
          fun left middle right => step.trans (within left) (within middle) (within right)⟩
  constructor
  · intro left right leftKeyed rightKeyed
    exact (below (sizeOf left + sizeOf right + 1)).symm ⟨leftKeyed, by omega⟩ ⟨rightKeyed, by omega⟩
  · intro left middle right leftKeyed middleKeyed rightKeyed
    exact (below (sizeOf left + sizeOf middle + sizeOf right + 1)).trans ⟨leftKeyed, by omega⟩
      ⟨middleKeyed, by omega⟩ ⟨rightKeyed, by omega⟩

/-! ## Equality -/

section

variable {left middle right : Value}

theorem equal_iff : left.equal right = true ↔ left.same right = true ∧ left.isNan = false := by
  simp [Value.equal]

/-- What is the same as no number is no number. -/
theorem isNan_eq_of_same (same : left.same right = true) : left.isNan = right.isNan := by
  cases placed : left.position? with
  | some place =>
      rw [same_eq_samePlace placed, samePlace_iff] at same
      obtain ⟨position, ofLeft, ofRight⟩ := same
      have numbered {value : Value} (held : value.position? = some position) :
          value.isNan = false := by
        cases value with
        | real number =>
            cases number with
            | nan object =>
                cases held
            | _ =>
                rfl
        | _ =>
            rfl
      rw [numbered ofLeft, numbered ofRight]
  | none =>
      cases left with
      | list | tuple | record =>
          cases right with
          | list | tuple | record =>
              rfl
          | _ =>
              simp [Value.same, position?] at same
      | _ =>
          rw [(same_of_unplaced_iff rfl placed right).mp same]

theorem equal_symm (leftKeyed : left.WellKeyed) (rightKeyed : right.WellKeyed)
    (equal : left.equal right = true) : right.equal left = true := by
  obtain ⟨same, numbered⟩ := equal_iff.mp equal
  exact equal_iff.mpr
    ⟨regular_wellKeyed.symm leftKeyed rightKeyed same, isNan_eq_of_same same ▸ numbered⟩

theorem equal_trans (leftKeyed : left.WellKeyed) (middleKeyed : middle.WellKeyed)
    (rightKeyed : right.WellKeyed) (first : left.equal middle = true)
    (second : middle.equal right = true) : left.equal right = true := by
  obtain ⟨same, numbered⟩ := equal_iff.mp first
  obtain ⟨again, -⟩ := equal_iff.mp second
  exact equal_iff.mpr
    ⟨regular_wellKeyed.trans leftKeyed middleKeyed rightKeyed same again, numbered⟩

end

end FormCheck.Value
