import FormCheck.Failure

/-!
# Traced results

An operation leaves a trace: notes, in the order in which they were made.  It
ends with a result or with a failure, and the notes made before a failure stay.
Doing one thing after another puts their traces one after another, and stops at
the first failure.
-/

namespace FormCheck

/-- What an operation noted, and how it ended. -/
structure Traced (Note α : Type) where
  trace : List Note
  outcome : Except Failure α

namespace Traced

variable {Note α β : Type}

def done (result : α) : Traced Note α where
  trace := []
  outcome := .ok result

def fail (failure : Failure) : Traced Note α where
  trace := []
  outcome := .error failure

def notes (made : List Note) : Traced Note Unit where
  trace := made
  outcome := .ok ()

def note (made : Note) : Traced Note Unit :=
  notes [made]

def ofExcept (outcome : Except Failure α) : Traced Note α where
  trace := []
  outcome := outcome

/-- Go on with the result, if there is one. -/
def andThen (first : Traced Note α) (next : α → Traced Note β) : Traced Note β :=
  match first.outcome with
  | .ok result =>
      { trace := first.trace ++ (next result).trace, outcome := (next result).outcome }
  | .error failure => { trace := first.trace, outcome := .error failure }

instance : Monad (Traced Note) where
  pure := done
  bind := andThen

instance : MonadExceptOf Failure (Traced Note) where
  throw := fail
  tryCatch first handle :=
    match first.outcome with
    | .ok _ => first
    | .error failure =>
        { trace := first.trace ++ (handle failure).trace, outcome := (handle failure).outcome }

instance : MonadLift (Except Failure) (Traced Note) where
  monadLift := ofExcept

theorem ext {left right : Traced Note α} (traces : left.trace = right.trace)
    (outcomes : left.outcome = right.outcome) : left = right := by
  cases left
  cases right
  simp_all

@[simp]
theorem pure_eq (result : α) : (pure result : Traced Note α) = done result := rfl

@[simp]
theorem bind_eq (first : Traced Note α) (next : α → Traced Note β) :
    first >>= next = first.andThen next := rfl

@[simp]
theorem done_andThen (result : α) (next : α → Traced Note β) :
    (done result).andThen next = next result := by
  simp [andThen, done]

@[simp]
theorem fail_andThen (failure : Failure) (next : α → Traced Note β) :
    (fail failure : Traced Note α).andThen next = fail failure := rfl

theorem outcome_andThen (first : Traced Note α) (next : α → Traced Note β) :
    (first.andThen next).outcome = first.outcome.bind fun result => (next result).outcome := by
  unfold andThen
  cases first.outcome <;> rfl

theorem outcome_liftM_andThen (first : Except Failure α) (next : α → Traced Note β) :
    ((liftM first : Traced Note α).andThen next).outcome =
      first.bind fun result => (next result).outcome :=
  outcome_andThen (ofExcept first) next

theorem andThen_done (first : Traced Note α) : first.andThen done = first := by
  obtain ⟨trace, outcome⟩ := first
  cases outcome <;> simp [andThen, done]

theorem andThen_done_of (first : Traced Note α) (change : α → β) :
    (first.andThen fun result => done (change result)) =
      { trace := first.trace, outcome := first.outcome.map change } := by
  obtain ⟨trace, outcome⟩ := first
  cases outcome <;> simp [andThen, done, Except.map]

theorem andThen_assoc {γ : Type} (first : Traced Note α) (next : α → Traced Note β)
    (last : β → Traced Note γ) :
    (first.andThen next).andThen last = first.andThen fun result => (next result).andThen last := by
  obtain ⟨trace, outcome⟩ := first
  cases outcome with
  | error failure => rfl
  | ok result =>
      simp only [andThen]
      cases (next result).outcome <;> simp

instance : LawfulMonad (Traced Note) :=
  LawfulMonad.mk' (Traced Note)
    (fun first => andThen_done first)
    (fun result next => done_andThen result next)
    (fun first next last => andThen_assoc first next last)

end Traced

end FormCheck
