import FormCheck.Text.Blank
import FormCheck.Text.Split
import Mathlib.Data.List.TakeWhile

/-!
# Laws of cutting and trimming

Cutting texts that were joined gives the texts back when none of them has the separator
in it, and no piece of a cut text has it.  Trimming leaves a text without blanks at its
ends, and leaves such a text as it is; blanks that are put round a text make no difference to
what is left of it.
-/

namespace FormCheck.Text

/-! ## Pieces -/

/-- Texts on both sides of a separator are cut on their own. -/
theorem pieces_append_separator (separator : Char) (left right : List Char) :
    pieces separator (left ++ separator :: right) =
      pieces separator left ++ pieces separator right := by
  induction left with
  | nil =>
      simp [pieces]
  | cons c rest inductionHypothesis =>
      by_cases same : c = separator
      · simp [pieces, same, inductionHypothesis]
      · cases cut : pieces separator rest with
        | nil =>
            exact absurd cut (pieces_ne_nil separator rest)
        | cons first others =>
            simp [pieces, same, inductionHypothesis, cut]

theorem pieces_of_not_mem {separator : Char} {text : List Char} (absent : separator ∉ text) :
    pieces separator text = [text] := by
  induction text with
  | nil =>
      rfl
  | cons c rest inductionHypothesis =>
      simp only [List.mem_cons, not_or] at absent
      simp [pieces, Ne.symm absent.1, inductionHypothesis absent.2]

theorem not_mem_of_mem_pieces {separator : Char} {text piece : List Char}
    (member : piece ∈ pieces separator text) : separator ∉ piece := by
  induction text generalizing piece with
  | nil =>
      have empty : piece = [] := by
        simpa [pieces] using member
      simp [empty]
  | cons c rest inductionHypothesis =>
      by_cases same : c = separator
      · simp only [pieces, same, ↓reduceIte, List.mem_cons] at member
        rcases member with rfl | later
        · exact List.not_mem_nil
        · exact inductionHypothesis later
      · cases cut : pieces separator rest with
        | nil =>
            exact absurd cut (pieces_ne_nil separator rest)
        | cons first others =>
            simp only [pieces, same, ↓reduceIte, cut, List.mem_cons] at member
            rcases member with rfl | later
            · have absent : separator ∉ first := by
                apply inductionHypothesis
                simp [cut]
              simp [Ne.symm same, absent]
            · apply inductionHypothesis
              simp [cut, later]

/-! ## Joined texts -/

theorem join_singleton (separator : Char) (text : List Char) : join separator [text] = text := by
  simp [join, List.intercalate]

theorem join_cons_cons (separator : Char) (first second : List Char) (rest : List (List Char)) :
    join separator (first :: second :: rest) =
      first ++ separator :: join separator (second :: rest) := by
  simp [join, List.intercalate]

theorem join_cons {separator : Char} (first : List Char) {rest : List (List Char)}
    (more : rest ≠ []) :
    join separator (first :: rest) = first ++ separator :: join separator rest := by
  cases rest with
  | nil =>
      exact absurd rfl more
  | cons second others =>
      exact join_cons_cons separator first second others

theorem join_cons_eq (separator : Char) (first : List Char) (rest : List (List Char)) :
    join separator (first :: rest) = first ++ rest.flatMap (separator :: ·) := by
  induction rest generalizing first with
  | nil =>
      simp [join_singleton]
  | cons second others inductionHypothesis =>
      rw [join_cons_cons, inductionHypothesis second]
      rfl

/-- What follows joined texts belongs to the last of them. -/
theorem join_append (separator : Char) (before : List (List Char)) (last behind : List Char) :
    join separator (before ++ [last]) ++ behind = join separator (before ++ [last ++ behind]) := by
  induction before with
  | nil =>
      rw [List.nil_append, List.nil_append, join_singleton, join_singleton]
  | cons first rest inductionHypothesis =>
      cases rest with
      | nil =>
          simp only [List.cons_append, List.nil_append, join_cons_cons, join_singleton,
            List.append_assoc]
      | cons second others =>
          simp only [List.cons_append, join_cons_cons, List.append_assoc] at *
          rw [inductionHypothesis]

/-- Cutting joined texts gives them back when none has the separator in it. -/
theorem pieces_join {separator : Char} {texts : List (List Char)} (nonempty : texts ≠ [])
    (absent : ∀ text ∈ texts, separator ∉ text) :
    pieces separator (join separator texts) = texts := by
  induction texts with
  | nil =>
      exact absurd rfl nonempty
  | cons first rest inductionHypothesis =>
      have firstPiece : pieces separator first = [first] :=
        pieces_of_not_mem (absent first List.mem_cons_self)
      cases rest with
      | nil =>
          rw [join_singleton, firstPiece]
      | cons second others =>
          have later := inductionHypothesis (by simp) fun text member =>
            absent text (List.mem_cons_of_mem first member)
          rw [join_cons_cons, pieces_append_separator, firstPiece, later]
          rfl

theorem mem_join {separator c : Char} {texts : List (List Char)}
    (member : c ∈ join separator texts) : c = separator ∨ ∃ text ∈ texts, c ∈ text := by
  induction texts with
  | nil =>
      simp [join, List.intercalate] at member
  | cons first rest inductionHypothesis =>
      cases rest with
      | nil =>
          rw [join_singleton] at member
          exact .inr ⟨first, List.mem_cons_self, member⟩
      | cons second others =>
          rw [join_cons_cons] at member
          rcases List.mem_append.mp member with inFirst | behind
          · exact .inr ⟨first, List.mem_cons_self, inFirst⟩
          · rcases List.mem_cons.mp behind with same | later
            · exact .inl same
            · rcases inductionHypothesis later with same | ⟨text, inRest, inside⟩
              · exact .inl same
              · exact .inr ⟨text, List.mem_cons_of_mem first inRest, inside⟩

theorem mem_join_of_mem {separator c : Char} {texts : List (List Char)} {text : List Char}
    (member : text ∈ texts) (inside : c ∈ text) : c ∈ join separator texts := by
  induction texts with
  | nil =>
      cases member
  | cons first rest inductionHypothesis =>
      cases rest with
      | nil =>
          cases List.mem_singleton.mp member
          rw [join_singleton]
          exact inside
      | cons second others =>
          rw [join_cons_cons]
          rcases List.mem_cons.mp member with rfl | later
          · exact List.mem_append_left _ inside
          · exact List.mem_append_right _ (List.mem_cons_of_mem _ (inductionHypothesis later))

theorem mem_of_mem_pieces {separator c : Char} {text piece : List Char}
    (member : piece ∈ pieces separator text) (inside : c ∈ piece) : c ∈ text := by
  rw [← join_pieces separator text]
  exact mem_join_of_mem member inside

/-! ## The first cut -/

theorem cutFirst_of_not_mem {separator : Char} {text : List Char} (absent : separator ∉ text) :
    cutFirst separator text = (text, none) := by
  induction text with
  | nil =>
      rfl
  | cons c rest inductionHypothesis =>
      simp only [List.mem_cons, not_or] at absent
      simp [cutFirst, Ne.symm absent.1, inductionHypothesis absent.2]

theorem cutFirst_append_separator {separator : Char} {before : List Char}
    (absent : separator ∉ before) (after : List Char) :
    cutFirst separator (before ++ separator :: after) = (before, some after) := by
  induction before with
  | nil =>
      simp [cutFirst]
  | cons c rest inductionHypothesis =>
      simp only [List.mem_cons, not_or] at absent
      simp [cutFirst, Ne.symm absent.1, inductionHypothesis absent.2]

/-- Either there is no separator, or what stands before the first one has none. -/
theorem cutFirst_cases (separator : Char) (text : List Char) :
    (separator ∉ text ∧ cutFirst separator text = (text, none)) ∨
      ∃ before after, text = before ++ separator :: after ∧ separator ∉ before ∧
        cutFirst separator text = (before, some after) := by
  by_cases present : separator ∈ text
  · obtain ⟨before, after, rfl, absent⟩ := List.eq_append_cons_of_mem present
    exact .inr ⟨before, after, rfl, absent, cutFirst_append_separator absent after⟩
  · exact .inl ⟨present, cutFirst_of_not_mem present⟩

/-! ## Small letters -/

/-- Only the capital letters of ASCII become other characters. -/
theorem toLower_cases (c : Char) :
    c.toLower = c ∨ 65 ≤ c.toNat ∧ c.toNat ≤ 90 ∧ c.toLower.toNat = c.toNat + 32 := by
  by_cases capital : c.val ≥ 'A'.val ∧ c.val ≤ 'Z'.val
  · right
    have least : 65 ≤ c.toNat := UInt32.le_iff_toNat_le.mp capital.1
    have most : c.toNat ≤ 90 := UInt32.le_iff_toNat_le.mp capital.2
    have moved : c.toLower.toNat = (c.val + ('a'.val - 'A'.val)).toNat :=
      congrArg Char.toNat (dif_pos capital)
    have distance : ('a'.val - 'A'.val).toNat = 32 := rfl
    have small : c.val.toNat + 32 < 2 ^ 32 := by
      change c.toNat + 32 < 2 ^ 32
      omega
    rw [UInt32.toNat_add, distance, Nat.mod_eq_of_lt small] at moved
    exact ⟨least, most, moved⟩
  · exact .inl (dif_neg capital)

/-! ## Trimmed texts -/

theorem mem_of_mem_trim {c : Char} {text : List Char} (member : c ∈ trim text) : c ∈ text := by
  have inEnd : c ∈ (text.dropWhile isBlank).reverse := by
    apply (List.dropWhile_suffix isBlank).subset
    simpa [trim, trimEnd] using member
  exact (List.dropWhile_suffix isBlank).subset (List.mem_reverse.mp inEnd)

theorem dropWhile_of_head {sort : Char → Bool} {text : List Char}
    (other : ∀ c, text.head? = some c → sort c = false) : text.dropWhile sort = text := by
  cases text with
  | nil =>
      rfl
  | cons c rest =>
      simp [other c rfl]

theorem dropWhile_of_inner {sort : Char → Bool} {text : List Char}
    (inner : ∀ c ∈ text, sort c = false) : text.dropWhile sort = text :=
  dropWhile_of_head fun c first => inner c (List.mem_of_head? first)

private theorem isBlank_head_dropWhile (text : List Char) (c : Char)
    (first : (text.dropWhile isBlank).head? = some c) : isBlank c = false := by
  have stopped := List.head?_dropWhile_not isBlank text
  rw [first] at stopped
  simpa using stopped

/-- A text without blanks at its ends stays as it is. -/
theorem trim_of_trimmed {text : List Char} (trimmed : Trimmed text) : trim text = text := by
  obtain ⟨start, finish⟩ := trimmed
  have backward : text.reverse.dropWhile isBlank = text.reverse := by
    apply dropWhile_of_head
    simpa using finish
  rw [trim, dropWhile_of_head start, trimEnd, backward, List.reverse_reverse]

/-- Trimming leaves no blanks at the ends. -/
theorem trimmed_trim (text : List Char) : Trimmed (trim text) := by
  have kept : trim text <+: text.dropWhile isBlank := by
    have suffix := List.dropWhile_suffix (l := (text.dropWhile isBlank).reverse) isBlank
    simpa [trim, trimEnd] using List.reverse_prefix.mpr suffix
  constructor
  · intro c first
    apply isBlank_head_dropWhile text c
    obtain ⟨tail, whole⟩ := kept
    cases trimmed : trim text with
    | nil =>
        simp [trimmed] at first
    | cons head rest =>
        rw [← whole, trimmed]
        simpa [trimmed] using first
  · intro c last
    rw [trim, trimEnd, List.getLast?_reverse] at last
    exact isBlank_head_dropWhile _ c last

/-- Nothing is left exactly of a blank text. -/
theorem trim_eq_nil_iff {text : List Char} : trim text = [] ↔ ∀ c ∈ text, isBlank c = true := by
  rw [trim, trimEnd, List.reverse_eq_nil_iff, List.dropWhile_eq_nil_iff]
  constructor
  · intro blank
    cases rest : text.dropWhile isBlank with
    | nil =>
        exact List.dropWhile_eq_nil_iff.mp rest
    | cons c others =>
        have unblank := isBlank_head_dropWhile text c (by rw [rest]; rfl)
        rw [blank c (by simp [rest])] at unblank
        cases unblank
  · intro blank c member
    rw [List.dropWhile_eq_nil_iff.mpr blank] at member
    cases member

/-! ## Blank texts -/

/-- A text has nothing but blanks in it. -/
def Blank (text : List Char) : Prop :=
  ∀ c ∈ text, isBlank c = true

instance (text : List Char) : Decidable (Blank text) :=
  List.decidableBAll _ text

theorem blank_nil : Blank [] := by
  simp [Blank]

theorem Blank.not_mem {text : List Char} (blank : Blank text) {c : Char}
    (solid : isBlank c = false) : c ∉ text := by
  intro member
  rw [blank c member] at solid
  cases solid

/-- Blanks round a text do not count. -/
theorem trim_surrounded {left right : List Char} (blankLeft : Blank left)
    (blankRight : Blank right) (text : List Char) : trim (left ++ text ++ right) = trim text := by
  have start : (left ++ text ++ right).dropWhile isBlank = (text ++ right).dropWhile isBlank := by
    rw [List.append_assoc, List.dropWhile_append_of_pos blankLeft]
  rw [trim, trim, start, List.dropWhile_append]
  split
  · next nothing =>
      have empty : text.dropWhile isBlank = [] := by
        simpa using nothing
      rw [List.dropWhile_eq_nil_iff.mpr blankRight, empty]
  · have finish : ∀ c ∈ right.reverse, isBlank c = true := by
      intro c member
      exact blankRight c (List.mem_reverse.mp member)
    rw [trimEnd, trimEnd, List.reverse_append, List.dropWhile_append_of_pos finish]

end FormCheck.Text
