/-!
# Steps that may fail

One step after another fails as the first one that fails.  A pass over a list that stops at
the first bad item stops exactly when there is a bad item behind good ones, and what it meets
is the good items and this one (`upToFirst`).
-/

namespace FormCheck

section Steps

variable {ε α β : Type} {failure : ε}

theorem ok_bind (result : α) (next : α → Except ε β) :
    (Except.ok result >>= next) = next result := rfl

theorem error_bind (reason : ε) (next : α → Except ε β) :
    (Except.error reason >>= next) = .error reason := rfl

theorem bind_error_cases {first : Except ε α} {next : α → Except ε β}
    (failed : first >>= next = .error failure) :
    first = .error failure ∨ ∃ result, first = .ok result ∧ next result = .error failure := by
  cases first with
  | error reason =>
      cases failed
      exact .inl rfl
  | ok result =>
      exact .inr ⟨result, rfl, failed⟩

theorem exists_of_bind_eq_ok {first : Except ε α} {next : α → Except ε β} {last : β}
    (ended : first >>= next = .ok last) :
    ∃ result, first = .ok result ∧ next result = .ok last := by
  cases first with
  | error reason =>
      cases ended
  | ok result =>
      exact ⟨result, rfl, ended⟩

theorem map_eq_error_iff {outcome : Except ε α} {change : α → β} :
    outcome.map change = .error failure ↔ outcome = .error failure := by
  cases outcome <;> simp [Except.map]

theorem map_eq_ok_iff {outcome : Except ε α} {change : α → β} {result : β} :
    outcome.map change = .ok result ↔ ∃ given, outcome = .ok given ∧ change given = result := by
  cases outcome <;> simp [Except.map]

@[simp]
theorem mapError_error (reason : ε) (change : ε → β) :
    (Except.error reason : Except ε α).mapError change = .error (change reason) := rfl

@[simp]
theorem mapError_ok (result : α) (change : ε → β) :
    (Except.ok result : Except ε α).mapError change = .ok result := rfl

end Steps

/-- What stops at the first bad item, and goes on behind a good one, stops exactly when
there is a bad item behind good ones. -/
theorem stops_iff_exists_split {α : Type} (stops : List α → Prop) (good bad : α → Prop)
    (stops_nil : ¬ stops [])
    (stops_cons : ∀ first rest, stops (first :: rest) ↔ bad first ∨ good first ∧ stops rest)
    {items : List α} :
    stops items ↔ ∃ before item after, items = before ++ item :: after ∧
      (∀ earlier ∈ before, good earlier) ∧ bad item := by
  induction items with
  | nil =>
      constructor
      · intro stopped
        exact absurd stopped stops_nil
      · rintro ⟨before, item, after, split, -⟩
        simp at split
  | cons first rest inductionHypothesis =>
      rw [stops_cons, inductionHypothesis]
      constructor
      · rintro (isBad | ⟨isGood, before, item, after, rfl, allGood, isBad⟩)
        · exact ⟨[], first, rest, rfl, by simp, isBad⟩
        · exact ⟨first :: before, item, after, rfl, by simpa using ⟨isGood, allGood⟩, isBad⟩
      · rintro ⟨before, item, after, split, allGood, isBad⟩
        cases before with
        | nil =>
            obtain ⟨rfl, -⟩ := List.cons.inj split
            exact .inl isBad
        | cons head tail =>
            obtain ⟨rfl, rfl⟩ := List.cons.inj split
            exact .inr ⟨allGood first List.mem_cons_self, tail, item, after, rfl,
              fun earlier member => allGood earlier (List.mem_cons_of_mem first member), isBad⟩

/-- Where there is a good item there is a first one. -/
theorem exists_mem_iff_exists_first {α : Type} {good : α → Prop} {items : List α} :
    (∃ item ∈ items, good item) ↔ ∃ before item after, items = before ++ item :: after ∧
      (∀ earlier ∈ before, ¬ good earlier) ∧ good item := by
  refine stops_iff_exists_split (fun items => ∃ item ∈ items, good item)
    (fun item => ¬ good item) good (by simp) fun first rest => ?_
  by_cases isGood : good first <;> simp [isGood]

/-! ## What a pass meets -/

section Passes

variable {α : Type} {goesOn : α → Bool}

/-- The items up to the first one at which a pass does not go on, this one included. -/
def upToFirst (goesOn : α → Bool) : List α → List α
  | [] => []
  | item :: rest => item :: if goesOn item then upToFirst goesOn rest else []

theorem upToFirst_of_forall {items : List α} (all : ∀ item ∈ items, goesOn item = true) :
    upToFirst goesOn items = items := by
  induction items with
  | nil =>
      rfl
  | cons item rest inductionHypothesis =>
      obtain ⟨here, later⟩ := List.forall_mem_cons.mp all
      rw [upToFirst, here, if_pos rfl, inductionHypothesis later]

theorem upToFirst_append {before : List α} {item : α}
    (all : ∀ earlier ∈ before, goesOn earlier = true) (stops : goesOn item = false)
    (after : List α) : upToFirst goesOn (before ++ item :: after) = before ++ [item] := by
  induction before with
  | nil =>
      simp [upToFirst, stops]
  | cons first rest inductionHypothesis =>
      obtain ⟨here, later⟩ := List.forall_mem_cons.mp all
      rw [List.cons_append, upToFirst, here, if_pos rfl, inductionHypothesis later,
        List.cons_append]

end Passes

end FormCheck
