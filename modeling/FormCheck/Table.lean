/-!
# Tables in order of arrival

A table maps texts to things and remembers the order in which its keys came.
Setting a key that is there keeps its place; a new key goes to the end.  So the
keys are distinct, and a table is determined by its keys in order and by what
each of them leads to.
-/

namespace FormCheck

/-- Distinct keys in order of arrival, each with what it leads to. -/
structure Table (α : Type) where
  entries : List (String × α)
  keys_distinct : (entries.map (·.1)).Nodup

namespace Table

variable {α β : Type}

def keys (table : Table α) : List String :=
  table.entries.map (·.1)

/-- What a list of entries has under a key. -/
def find? (key : String) : List (String × α) → Option α
  | [] => none
  | (known, item) :: rest => if known = key then some item else find? key rest

def get? (table : Table α) (key : String) : Option α :=
  find? key table.entries

def contains (table : Table α) (key : String) : Bool :=
  (table.get? key).isSome

def put (key : String) (item : α) : List (String × α) → List (String × α)
  | [] => [(key, item)]
  | (known, old) :: rest =>
      if known = key then
        (known, item) :: rest
      else
        (known, old) :: put key item rest

theorem keys_put (key : String) (item : α) (entries : List (String × α)) :
    (put key item entries).map (·.1) =
      if key ∈ entries.map (·.1) then entries.map (·.1) else entries.map (·.1) ++ [key] := by
  induction entries with
  | nil => simp [put]
  | cons entry rest inductionHypothesis =>
      obtain ⟨known, old⟩ := entry
      by_cases same : known = key
      · simp [put, same]
      · simp only [put, same, ↓reduceIte, List.map_cons, inductionHypothesis, List.mem_cons,
          Ne.symm same, false_or]
        split <;> simp

theorem find?_put (key other : String) (item : α) (entries : List (String × α)) :
    find? other (put key item entries) =
      if key = other then some item else find? other entries := by
  induction entries with
  | nil => simp [put, find?]
  | cons entry rest inductionHypothesis =>
      obtain ⟨known, old⟩ := entry
      by_cases same : known = key
      · subst same
        by_cases equal : known = other <;> simp [put, find?, equal]
      · by_cases equal : known = other
        · subst equal
          simp [put, find?, same, Ne.symm same]
        · simp [put, find?, same, equal, inductionHypothesis]

theorem find?_eq_none_iff {key : String} {entries : List (String × α)} :
    find? key entries = none ↔ key ∉ entries.map (·.1) := by
  induction entries with
  | nil => simp [find?]
  | cons entry rest inductionHypothesis =>
      obtain ⟨known, item⟩ := entry
      by_cases same : known = key
      · simp [find?, same]
      · simp [find?, same, Ne.symm same, inductionHypothesis]

theorem put_of_not_mem {key : String} {item : α} {entries : List (String × α)}
    (absent : key ∉ entries.map (·.1)) : put key item entries = entries ++ [(key, item)] := by
  induction entries with
  | nil =>
      rfl
  | cons entry rest inductionHypothesis =>
      obtain ⟨known, old⟩ := entry
      simp only [List.map_cons, List.mem_cons, not_or] at absent
      simp [put, Ne.symm absent.1, inductionHypothesis absent.2]

theorem find?_eq_some_iff {key : String} {item : α} {entries : List (String × α)}
    (distinct : (entries.map (·.1)).Nodup) :
    find? key entries = some item ↔ (key, item) ∈ entries := by
  induction entries with
  | nil =>
      simp [find?]
  | cons entry rest inductionHypothesis =>
      obtain ⟨known, first⟩ := entry
      obtain ⟨fresh, distinctRest⟩ := List.nodup_cons.mp distinct
      by_cases same : known = key
      · subst same
        have notLater : (known, item) ∉ rest := by
          intro member
          exact fresh (List.mem_map.mpr ⟨_, member, rfl⟩)
        simp [find?, notLater, eq_comm]
      · simp [find?, same, Ne.symm same, inductionHypothesis distinctRest]

theorem find?_append (key : String) (left right : List (String × α)) :
    find? key (left ++ right) = (find? key left).or (find? key right) := by
  induction left with
  | nil =>
      rfl
  | cons entry rest inductionHypothesis =>
      obtain ⟨known, item⟩ := entry
      by_cases same : known = key
      · simp [find?, same]
      · simp [find?, same, inductionHypothesis]

/-- Distinct keys in order, and what each of them leads to, determine the entries. -/
theorem eq_of_find?_eq {left right : List (String × α)}
    (distinct : (left.map (·.1)).Nodup) (sameKeys : left.map (·.1) = right.map (·.1))
    (same : ∀ key, find? key left = find? key right) : left = right := by
  induction left generalizing right with
  | nil =>
      exact (List.map_eq_nil_iff.mp sameKeys.symm).symm
  | cons entry rest inductionHypothesis =>
      cases right with
      | nil =>
          simp at sameKeys
      | cons other others =>
          obtain ⟨key, item⟩ := entry
          obtain ⟨otherKey, otherItem⟩ := other
          simp only [List.map_cons, List.cons.injEq] at sameKeys
          obtain ⟨rfl, sameRest⟩ := sameKeys
          obtain ⟨fresh, distinctRest⟩ := List.nodup_cons.mp distinct
          have sameItem : item = otherItem := by
            simpa [find?] using same key
          have sameOthers : ∀ tested, find? tested rest = find? tested others := by
            intro tested
            by_cases equal : key = tested
            · subst equal
              rw [find?_eq_none_iff.mpr fresh, find?_eq_none_iff.mpr (sameRest ▸ fresh)]
            · simpa [find?, equal] using same tested
          rw [sameItem, inductionHypothesis distinctRest sameRest sameOthers]

def empty : Table α where
  entries := []
  keys_distinct := by simp

instance : Inhabited (Table α) :=
  ⟨empty⟩

def insert (table : Table α) (key : String) (item : α) : Table α where
  entries := put key item table.entries
  keys_distinct := by
    rw [keys_put]
    split
    · exact table.keys_distinct
    · next absent =>
        refine List.nodup_append.mpr ⟨table.keys_distinct, by simp, ?_⟩
        intro known member other single
        rintro rfl
        exact absent (List.mem_singleton.mp single ▸ member)

/-- Set keys one after another. -/
def insertAll (table : Table α) (entries : List (String × α)) : Table α :=
  entries.foldl (fun sofar entry => sofar.insert entry.1 entry.2) table

/-- The table that arises from setting keys one after another. -/
def ofList (entries : List (String × α)) : Table α :=
  empty.insertAll entries

/-- Replace what the keys lead to. -/
def mapWithKey (change : String → α → β) (table : Table α) : Table β where
  entries := table.entries.map fun entry => (entry.1, change entry.1 entry.2)
  keys_distinct := by
    simpa [List.map_map, Function.comp_def] using table.keys_distinct

/-- Replace what the keys lead to by a function of it alone. -/
def map (change : α → β) (table : Table α) : Table β :=
  table.mapWithKey fun _ => change

def size (table : Table α) : Nat :=
  table.entries.length

def isEmpty (table : Table α) : Bool :=
  table.entries.isEmpty

@[simp]
theorem get?_empty (key : String) : (empty : Table α).get? key = none := rfl

theorem get?_insert (table : Table α) (key other : String) (item : α) :
    (table.insert key item).get? other =
      if key = other then some item else table.get? other :=
  find?_put key other item table.entries

theorem keys_insert (table : Table α) (key : String) (item : α) :
    (table.insert key item).keys =
      if key ∈ table.keys then table.keys else table.keys ++ [key] :=
  keys_put key item table.entries

theorem get?_eq_none_iff {table : Table α} {key : String} :
    table.get? key = none ↔ key ∉ table.keys :=
  find?_eq_none_iff

theorem get?_eq_some_iff {table : Table α} {key : String} {item : α} :
    table.get? key = some item ↔ (key, item) ∈ table.entries :=
  find?_eq_some_iff table.keys_distinct

theorem entries_insert_of_not_mem {table : Table α} {key : String} (absent : key ∉ table.keys)
    (item : α) : (table.insert key item).entries = table.entries ++ [(key, item)] :=
  put_of_not_mem absent

theorem eq_of_entries_eq {left right : Table α} (same : left.entries = right.entries) :
    left = right := by
  cases left
  cases right
  cases same
  rfl

theorem map_insert (change : α → β) (table : Table α) (key : String) (item : α) :
    (table.insert key item).map change = (table.map change).insert key (change item) := by
  have entries : ∀ entries : List (String × α),
      (put key item entries).map (fun entry => (entry.1, change entry.2)) =
        put key (change item) (entries.map fun entry => (entry.1, change entry.2)) := by
    intro entries
    induction entries with
    | nil =>
        rfl
    | cons entry rest inductionHypothesis =>
        obtain ⟨known, old⟩ := entry
        by_cases same : known = key
        · simp [put, same]
        · simp [put, same, inductionHypothesis]
  exact eq_of_entries_eq (entries table.entries)

theorem keys_map (change : α → β) (table : Table α) : (table.map change).keys = table.keys := by
  simp [keys, map, mapWithKey, Function.comp_def]

theorem get?_map (change : α → β) (table : Table α) (key : String) :
    (table.map change).get? key = (table.get? key).map change := by
  have entries : ∀ entries : List (String × α),
      find? key (entries.map fun entry => (entry.1, change entry.2)) =
        (find? key entries).map change := by
    intro entries
    induction entries with
    | nil =>
        rfl
    | cons entry rest inductionHypothesis =>
        obtain ⟨known, item⟩ := entry
        by_cases same : known = key
        · simp [find?, same]
        · simp [find?, same, inductionHypothesis]
  exact entries table.entries

/-- Tables with the same keys in the same order, which lead to the same things, are equal. -/
theorem eq_of_get?_eq {left right : Table α} (sameKeys : left.keys = right.keys)
    (same : ∀ key, left.get? key = right.get? key) : left = right :=
  eq_of_entries_eq (eq_of_find?_eq left.keys_distinct sameKeys same)

theorem map_map_of_inverse {change : α → β} {back : β → α}
    (inverse : ∀ item, back (change item) = item) (table : Table α) :
    (table.map change).map back = table := by
  refine eq_of_get?_eq (by rw [keys_map, keys_map]) fun key => ?_
  rw [get?_map, get?_map, Option.map_map]
  cases table.get? key with
  | none =>
      rfl
  | some item =>
      exact congrArg some (inverse item)

/-- Setting a key to what it leads to changes nothing. -/
theorem insert_of_get? {table : Table α} {key : String} {item : α}
    (held : table.get? key = some item) : table.insert key item = table := by
  have present : key ∈ table.keys := by
    rw [← Decidable.not_not (p := key ∈ table.keys), ← get?_eq_none_iff, held]
    exact Option.some_ne_none item
  refine eq_of_get?_eq ?_ ?_
  · rw [keys_insert, if_pos present]
  · intro other
    rw [get?_insert]
    by_cases same : key = other
    · rw [if_pos same, ← same, held]
    · rw [if_neg same]

/-- The last entry with a key decides what the key leads to. -/
theorem get?_insertAll (table : Table α) (entries : List (String × α)) (key : String) :
    (table.insertAll entries).get? key = (find? key entries.reverse).or (table.get? key) := by
  induction entries generalizing table with
  | nil =>
      rfl
  | cons entry rest inductionHypothesis =>
      obtain ⟨known, item⟩ := entry
      have step : table.insertAll ((known, item) :: rest) =
          (table.insert known item).insertAll rest := rfl
      rw [step, inductionHypothesis, List.reverse_cons, find?_append, Option.or_assoc, get?_insert]
      by_cases same : known = key <;> simp [find?, same]

/-- Keys keep their places, and new ones follow in the order in which they first come. -/
theorem keys_insertAll (table : Table α) (entries : List (String × α)) :
    (table.insertAll entries).keys =
      table.keys ++ ((entries.map (·.1)).removeAll table.keys).eraseDups := by
  induction entries generalizing table with
  | nil =>
      simp [insertAll, List.removeAll]
  | cons entry rest inductionHypothesis =>
      obtain ⟨key, item⟩ := entry
      have step : table.insertAll ((key, item) :: rest) =
          (table.insert key item).insertAll rest := rfl
      rw [step, inductionHypothesis, keys_insert, List.map_cons, List.cons_removeAll]
      by_cases present : key ∈ table.keys
      · simp [present]
      · have later : (rest.map (·.1)).removeAll (table.keys ++ [key]) =
            ((rest.map (·.1)).removeAll table.keys).filter fun other => !other == key := by
          simp only [List.removeAll, List.filter_filter]
          refine List.filter_congr fun other _ => ?_
          by_cases same : other = key <;> simp [same]
        simp [present, later, List.eraseDups_cons]

theorem entries_insertAll_of_nodup {table : Table α} {entries : List (String × α)}
    (distinct : (table.keys ++ entries.map (·.1)).Nodup) :
    (table.insertAll entries).entries = table.entries ++ entries := by
  induction entries generalizing table with
  | nil =>
      simp [insertAll]
  | cons entry rest inductionHypothesis =>
      obtain ⟨key, item⟩ := entry
      have absent : key ∉ table.keys := by
        intro present
        exact (List.nodup_append.mp distinct).2.2 key present key (by simp) rfl
      have next : (table.insert key item).keys ++ rest.map (·.1) =
          table.keys ++ ((key, item) :: rest).map (·.1) := by
        rw [keys_insert, if_neg absent]
        simp
      have step : table.insertAll ((key, item) :: rest) =
          (table.insert key item).insertAll rest := rfl
      rw [step, inductionHypothesis (next ▸ distinct), entries_insert_of_not_mem absent]
      simp

theorem entries_ofList {entries : List (String × α)} (distinct : (entries.map (·.1)).Nodup) :
    (ofList entries).entries = entries := by
  have all : (empty.insertAll entries).entries = empty.entries ++ entries :=
    entries_insertAll_of_nodup distinct
  exact all

theorem ofList_entries (table : Table α) : ofList table.entries = table :=
  eq_of_entries_eq (entries_ofList table.keys_distinct)

/-- What is set from another table decides, and otherwise what was there before. -/
theorem get?_insertAll_entries (table added : Table α) (key : String) :
    (table.insertAll added.entries).get? key = (added.get? key).or (table.get? key) := by
  have distinct : (added.entries.reverse.map (·.1)).Nodup := by
    rw [List.map_reverse]
    exact (List.reverse_perm _).nodup_iff.mpr added.keys_distinct
  have found : find? key added.entries.reverse = added.get? key := by
    refine Option.ext fun item => ?_
    rw [find?_eq_some_iff distinct, get?_eq_some_iff, List.mem_reverse]
  rw [get?_insertAll, found]

theorem contains_iff {table : Table α} {key : String} :
    table.contains key = true ↔ key ∈ table.keys := by
  rw [contains, Option.isSome_iff_ne_none, ne_eq, get?_eq_none_iff, Decidable.not_not]

theorem mem_keys_iff {table : Table α} {key : String} :
    key ∈ table.keys ↔ ∃ item, table.get? key = some item := by
  rw [← contains_iff, contains, Option.isSome_iff_exists]

/-- Everything that the keys lead to has a property. -/
def All (property : α → Prop) (table : Table α) : Prop :=
  ∀ key item, table.get? key = some item → property item

theorem map_congr {change other : α → β} {table : Table α}
    (same : table.All fun item => change item = other item) :
    table.map change = table.map other := by
  refine eq_of_get?_eq (by rw [keys_map, keys_map]) fun key => ?_
  rw [get?_map, get?_map]
  cases held : table.get? key with
  | none =>
      rfl
  | some item =>
      exact congrArg some (same key item held)

theorem all_empty (property : α → Prop) : (empty : Table α).All property := by
  intro key item held
  cases held

theorem All.insert {property : α → Prop} {table : Table α} (all : table.All property)
    (key : String) {item : α} (holds : property item) : (table.insert key item).All property := by
  intro other found held
  rw [get?_insert] at held
  split at held
  · cases held
    exact holds
  · exact all other found held

theorem All.insertAll {property : α → Prop} {table : Table α} (all : table.All property)
    {entries : List (String × α)} (each : ∀ entry ∈ entries, property entry.2) :
    (table.insertAll entries).All property := by
  induction entries generalizing table with
  | nil =>
      exact all
  | cons entry rest inductionHypothesis =>
      obtain ⟨first, later⟩ := List.forall_mem_cons.mp each
      exact inductionHypothesis (all.insert entry.1 first) later

end Table

end FormCheck
