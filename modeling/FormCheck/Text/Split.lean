/-!
# Cutting a text at a character

`pieces` cuts a text at every occurrence of a separator, so a text with `n`
separators has `n + 1` pieces, empty ones included.  `cutFirst` cuts at the
first occurrence only.  Joining the pieces with the separator gives the text
back.
-/

namespace FormCheck.Text

/-- The stretches between the occurrences of a separator, in order. -/
def pieces (separator : Char) : List Char → List (List Char)
  | [] => [[]]
  | c :: rest =>
      if c = separator then
        [] :: pieces separator rest
      else
        match pieces separator rest with
        | [] => [[c]]
        | first :: others => (c :: first) :: others

/-- Put texts one after another with a separator between neighbours. -/
def join (separator : Char) (texts : List (List Char)) : List Char :=
  [separator].intercalate texts

/-- What stands before the first separator and, when there is one, what stands
after it. -/
def cutFirst (separator : Char) : List Char → List Char × Option (List Char)
  | [] => ([], none)
  | c :: rest =>
      if c = separator then
        ([], some rest)
      else
        let (before, after) := cutFirst separator rest
        (c :: before, after)

theorem pieces_ne_nil (separator : Char) (text : List Char) :
    pieces separator text ≠ [] := by
  cases text with
  | nil => simp [pieces]
  | cons c rest =>
      simp only [pieces]
      split
      · simp
      · split <;> simp

/-- Cutting loses nothing. -/
theorem join_pieces (separator : Char) (text : List Char) :
    join separator (pieces separator text) = text := by
  induction text with
  | nil => simp [join, pieces, List.intercalate]
  | cons c rest inductionHypothesis =>
      simp only [join, pieces] at *
      split
      · next same =>
          subst same
          cases others : pieces c rest with
          | nil => exact absurd others (pieces_ne_nil c rest)
          | cons first remaining =>
              rw [others] at inductionHypothesis
              simp only [List.intercalate, List.intersperse_cons_cons, List.flatten_cons] at *
              rw [inductionHypothesis]
              simp
      · cases others : pieces separator rest with
        | nil => exact absurd others (pieces_ne_nil separator rest)
        | cons first remaining =>
            rw [others] at inductionHypothesis
            cases remaining with
            | nil => simpa [List.intercalate] using inductionHypothesis
            | cons second more =>
                simp only [List.intercalate, List.intersperse_cons_cons, List.flatten_cons] at *
                simp [← inductionHypothesis]

end FormCheck.Text
