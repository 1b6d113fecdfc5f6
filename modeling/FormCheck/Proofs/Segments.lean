import FormCheck.Proofs.RoundTrip

/-!
# Reading an expression segment by segment

What stands on both sides of a bar is read on its own, so an expression that is put together
with bars gives the clauses of its parts, or the mistake of the first part that cannot be
read.  Only one thing is ever wrong with an expression: a segment that is not blank has no
name before its first colon.

Blanks round a segment, round the name of a clause or round an argument make no difference
to the clauses.  They do show in a mistake, which repeats its segment as it was given.
-/

namespace FormCheck

namespace Clause

/-- A segment has nothing but blanks before its first colon, though it is not blank. -/
def Unnamed (segment : List Char) : Prop :=
  ¬ Text.Blank segment ∧
    ∃ before after, segment = before ++ ':' :: after ∧ ':' ∉ before ∧ Text.Blank before

theorem unnamed_iff {segment : List Char} (solid : ¬ Text.Blank segment) :
    Unnamed segment ↔ Text.trim (Text.cutFirst ':' segment).1 = [] := by
  rcases Text.cutFirst_cases ':' segment with ⟨uncut, cut⟩ | ⟨before, after, split, uncut, cut⟩
  · rw [cut, Text.trim_eq_nil_iff]
    constructor
    · rintro ⟨-, before, after, split, -, -⟩
      exact absurd (by simp [split]) uncut
    · intro blank
      exact absurd blank solid
  · rw [cut, Text.trim_eq_nil_iff]
    constructor
    · rintro ⟨-, start, rest, sameSplit, startUncut, blank⟩
      have sameCut := Text.cutFirst_append_separator startUncut rest
      rw [← sameSplit, cut] at sameCut
      exact (Prod.mk.inj sameCut).1 ▸ blank
    · intro blank
      exact ⟨solid, before, after, split, uncut, blank⟩

/-- A segment that is not blank cannot be read exactly when it is unnamed. -/
theorem read_eq_error_iff {segment : List Char} {mistake : Mistake}
    (solid : ¬ Text.Blank segment) :
    read segment = .error mistake ↔
      Unnamed segment ∧ mistake = .unnamedClause (String.ofList segment) := by
  rw [unnamed_iff solid]
  unfold read
  simp only
  split
  · next named =>
    have kept : Text.trim (Text.cutFirst ':' segment).1 ≠ [] := by
      intro nothing
      exact named (by rw [nothing])
    simp [kept]
  · next unnamed =>
    have nothing : Text.trim (Text.cutFirst ':' segment).1 = [] := by
      simpa using unnamed
    simp [nothing, eq_comm]

/-! ## Blanks that do not count -/

/-- Blanks are put on the left and on the right of a segment, of the name in it, or of one of
its arguments. -/
inductive Spaced (left right : List Char) : List Char → List Char → Prop where
  | segment (text : List Char) : Spaced left right text (left ++ text ++ right)
  | name {name : List Char} (uncut : ':' ∉ name) (behind : List Char) :
      Spaced left right (name ++ ':' :: behind) (left ++ name ++ right ++ ':' :: behind)
  | argument {name : List Char} (uncut : ':' ∉ name) {before after : List (List Char)}
      {argument : List Char} (separate : ∀ text ∈ before ++ argument :: after, ',' ∉ text) :
      Spaced left right (name ++ ':' :: Text.join ',' (before ++ argument :: after))
        (name ++ ':' :: Text.join ',' (before ++ (left ++ argument ++ right) :: after))

theorem readArguments_join_pieces {pieces : List (List Char)} (given : pieces ≠ [])
    (separate : ∀ piece ∈ pieces, ',' ∉ piece) :
    readArguments (Text.join ',' pieces) =
      pieces.map fun piece => String.ofList (Text.trim piece) := by
  rw [readArguments, Text.pieces_join given separate]

section Blanks

variable {left right : List Char} (blankLeft : Text.Blank left) (blankRight : Text.Blank right)

include blankLeft blankRight

/-- A character that is not blank stands in no text more than before. -/
private theorem not_mem_of_spaced {c : Char} (solid : Text.isBlank c = false)
    {before after : List (List Char)} {argument : List Char}
    (absent : ∀ text ∈ before ++ argument :: after, c ∉ text) :
    ∀ text ∈ before ++ (left ++ argument ++ right) :: after, c ∉ text := by
  intro text member
  rcases List.mem_append.mp member with early | late
  · exact absent text (List.mem_append_left _ early)
  · rcases List.mem_cons.mp late with rfl | later
    · simp [blankLeft.not_mem solid, blankRight.not_mem solid, absent argument (by simp)]
    · exact absent text (by simp [later])

private theorem readArguments_spaced {before after : List (List Char)} {argument : List Char}
    (separate : ∀ text ∈ before ++ argument :: after, ',' ∉ text) :
    readArguments (Text.join ',' (before ++ (left ++ argument ++ right) :: after)) =
      readArguments (Text.join ',' (before ++ argument :: after)) := by
  have comma : Text.isBlank ',' = false := by decide
  have separateSpaced := not_mem_of_spaced blankLeft blankRight comma separate
  rw [readArguments_join_pieces (by simp) separateSpaced,
    readArguments_join_pieces (by simp) separate, List.map_append, List.map_append, List.map_cons,
    List.map_cons, Text.trim_surrounded blankLeft blankRight]

omit blankLeft in
private theorem readArguments_append (text : List Char) :
    readArguments (text ++ right) = readArguments text := by
  -- Only the last piece is longer than before.
  obtain ⟨before, last, cut⟩ :=
    (List.eq_nil_or_concat (Text.pieces ',' text)).resolve_left (Text.pieces_ne_nil ',' text)
  rw [List.concat_eq_append] at cut
  have joined : text = Text.join ',' (before ++ [last]) := by
    rw [← cut, Text.join_pieces]
  have separate : ∀ piece ∈ before ++ [last], ',' ∉ piece := by
    intro piece member
    exact Text.not_mem_of_mem_pieces (cut ▸ member)
  have spaced := readArguments_spaced Text.blank_nil blankRight separate
  rw [joined, Text.join_append]
  exact spaced

/-- Blanks change neither the name nor the arguments that are read. -/
private theorem parts_spaced {segment spaced : List Char} (put : Spaced left right segment spaced) :
    Text.trim (Text.cutFirst ':' spaced).1 = Text.trim (Text.cutFirst ':' segment).1 ∧
      (Text.cutFirst ':' spaced).2.map readArguments =
        (Text.cutFirst ':' segment).2.map readArguments := by
  have colon : Text.isBlank ':' = false := by decide
  cases put with
  | segment =>
      rcases Text.cutFirst_cases ':' segment with ⟨uncut, cut⟩ | ⟨before, after, rfl, uncut, cut⟩
      · have spacedUncut : ':' ∉ left ++ segment ++ right := by
          simp [blankLeft.not_mem colon, blankRight.not_mem colon, uncut]
        rw [cut, Text.cutFirst_of_not_mem spacedUncut]
        exact ⟨Text.trim_surrounded blankLeft blankRight segment, rfl⟩
      · have spacedUncut : ':' ∉ left ++ before := by
          simp [blankLeft.not_mem colon, uncut]
        have regrouped : left ++ (before ++ ':' :: after) ++ right =
            (left ++ before) ++ ':' :: (after ++ right) := by
          simp
        have trimmed := Text.trim_surrounded blankLeft Text.blank_nil before
        rw [List.append_nil] at trimmed
        rw [cut, regrouped, Text.cutFirst_append_separator spacedUncut]
        exact ⟨trimmed, congrArg some (readArguments_append blankRight after)⟩
  | @name name uncut behind =>
      have spacedUncut : ':' ∉ left ++ name ++ right := by
        simp [blankLeft.not_mem colon, blankRight.not_mem colon, uncut]
      rw [Text.cutFirst_append_separator spacedUncut, Text.cutFirst_append_separator uncut]
      exact ⟨Text.trim_surrounded blankLeft blankRight name, rfl⟩
  | argument uncut separate =>
      rw [Text.cutFirst_append_separator uncut, Text.cutFirst_append_separator uncut]
      exact ⟨rfl, congrArg some (readArguments_spaced blankLeft blankRight separate)⟩

theorem read_spaced {segment spaced : List Char} (put : Spaced left right segment spaced)
    (clause : Clause) : read spaced = .ok clause ↔ read segment = .ok clause := by
  obtain ⟨sameName, sameArguments⟩ := parts_spaced blankLeft blankRight put
  rw [read_eq_ok_iff, read_eq_ok_iff, sameName, sameArguments]

theorem bar_not_mem_spaced {segment spaced : List Char} (put : Spaced left right segment spaced)
    (unbarred : '|' ∉ segment) : '|' ∉ spaced := by
  have bar : Text.isBlank '|' = false := by decide
  have barLeft := blankLeft.not_mem bar
  have barRight := blankRight.not_mem bar
  cases put with
  | segment =>
      simp [barLeft, barRight, unbarred]
  | name uncut behind =>
      simp only [List.mem_append, not_or] at unbarred ⊢
      exact ⟨⟨⟨barLeft, unbarred.1⟩, barRight⟩, unbarred.2⟩
  | @argument name uncut before after argument separate =>
      have absent : ∀ text ∈ before ++ argument :: after, '|' ∉ text := by
        intro text inTexts inside
        refine unbarred (List.mem_append_right _ (List.mem_cons_of_mem _ ?_))
        exact Text.mem_join_of_mem inTexts inside
      intro member
      rcases List.mem_append.mp member with inName | behind
      · exact unbarred (List.mem_append_left _ inName)
      · rcases List.mem_cons.mp behind with colon | inArguments
        · exact absurd colon (by decide)
        · rcases Text.mem_join inArguments with comma | ⟨text, inTexts, inside⟩
          · exact absurd comma (by decide)
          · exact not_mem_of_spaced blankLeft blankRight bar absent text inTexts inside

theorem blank_spaced_iff {segment spaced : List Char} (put : Spaced left right segment spaced) :
    Text.Blank spaced ↔ Text.Blank segment := by
  have colon : Text.isBlank ':' = false := by decide
  cases put with
  | segment =>
      constructor
      · intro blank c member
        exact blank c (by simp [member])
      · intro blank c member
        simp only [List.mem_append, or_assoc] at member
        rcases member with inLeft | inSegment | inRight
        · exact blankLeft c inLeft
        · exact blank c inSegment
        · exact blankRight c inRight
  | name uncut behind =>
      constructor
      · intro blank
        exact absurd (by simp) (blank.not_mem colon)
      · intro blank
        exact absurd (by simp) (blank.not_mem colon)
  | argument uncut separate =>
      constructor
      · intro blank
        exact absurd (by simp) (blank.not_mem colon)
      · intro blank
        exact absurd (by simp) (blank.not_mem colon)

end Blanks

end Clause

namespace Expression

open Clause (Unnamed Spaced)

theorem segments_eq (text : List Char) :
    segments text = (Text.pieces '|' text).filter fun segment => ¬ Text.Blank segment := by
  refine List.filter_congr fun segment _ => ?_
  rw [Bool.eq_iff_iff]
  simp [Text.trim_eq_nil_iff, Text.Blank]

/-! ## Expressions that are put together -/

theorem readClauses_append (before after : List (List Char)) :
    readClauses (before ++ after) =
      (readClauses before).bind fun first => (readClauses after).map (first ++ ·) := by
  induction before with
  | nil =>
      cases read : readClauses after <;> simp [readClauses, read, Except.bind, Except.map]
  | cons segment rest inductionHypothesis =>
      rw [List.cons_append, readClauses, inductionHypothesis, readClauses]
      cases Clause.read segment with
      | error mistake =>
          rfl
      | ok clause =>
          cases readClauses rest with
          | error mistake =>
              rfl
          | ok clauses =>
              cases readClauses after <;> rfl

/-- What stands on both sides of a bar is read on its own. -/
theorem read_append_bar (left right : String) :
    read (left ++ "|" ++ right) =
      (read left).bind fun first => (read right).map (first ++ ·) := by
  have split : (left ++ "|" ++ right).toList = left.toList ++ '|' :: right.toList := by
    simp
  have together : segments (left ++ "|" ++ right).toList =
      segments left.toList ++ segments right.toList := by
    rw [split, segments, Text.pieces_append_separator, List.filter_append]
    rfl
  rw [read, together, readClauses_append]
  rfl

/-! ## What is wrong with an expression -/

/-- Segments are not read further than the first unnamed one. -/
private theorem readClauses_cons_eq_error_iff {segment : List Char} {rest : List (List Char)}
    {mistake : Mistake} :
    readClauses ((segment :: rest).filter fun segment => ¬ Text.Blank segment) =
        .error mistake ↔
      (Unnamed segment ∧ mistake = .unnamedClause (String.ofList segment)) ∨
        ¬ Unnamed segment ∧
          readClauses (rest.filter fun segment => ¬ Text.Blank segment) = .error mistake := by
  by_cases blank : Text.Blank segment
  · have named : ¬ Unnamed segment := fun unnamed => unnamed.1 blank
    simp [blank, named]
  · have kept : (segment :: rest).filter (fun segment => ¬ Text.Blank segment) =
        segment :: rest.filter fun segment => ¬ Text.Blank segment := by
      simp [blank]
    rw [kept, readClauses]
    cases head : Clause.read segment with
    | error reason =>
        obtain ⟨unnamed, same⟩ := (Clause.read_eq_error_iff blank).mp head
        subst same
        simp [unnamed, bind, Except.bind, eq_comm]
    | ok clause =>
        have named : ¬ Unnamed segment := by
          intro unnamed
          rw [(Clause.read_eq_error_iff blank).mpr ⟨unnamed, rfl⟩] at head
          cases head
        cases readClauses (rest.filter fun segment => ¬ Text.Blank segment) <;>
          simp [named, bind, Except.bind, pure, Except.pure]

/-- An expression cannot be read exactly when a segment is unnamed, and the mistake repeats
the first such segment. -/
theorem read_eq_error_iff {expression : String} {mistake : Mistake} :
    read expression = .error mistake ↔
      ∃ before segment after, Text.pieces '|' expression.toList = before ++ segment :: after ∧
        (∀ earlier ∈ before, ¬ Unnamed earlier) ∧ Unnamed segment ∧
          mistake = .unnamedClause (String.ofList segment) := by
  rw [read, segments_eq]
  refine stops_iff_exists_split
    (fun stretches =>
      readClauses (stretches.filter fun segment => ¬ Text.Blank segment) = .error mistake)
    (fun segment => ¬ Unnamed segment)
    (fun segment => Unnamed segment ∧ mistake = .unnamedClause (String.ofList segment))
    ?_ fun first rest => readClauses_cons_eq_error_iff
  intro failed
  cases failed

theorem exists_mistake_iff {expression : String} :
    (∃ mistake, read expression = .error mistake) ↔
      ∃ segment ∈ Text.pieces '|' expression.toList, Unnamed segment := by
  rw [exists_mem_iff_exists_first]
  constructor
  · rintro ⟨mistake, failed⟩
    obtain ⟨before, segment, after, split, named, unnamed, -⟩ := read_eq_error_iff.mp failed
    exact ⟨before, segment, after, split, named, unnamed⟩
  · rintro ⟨before, segment, after, split, named, unnamed⟩
    exact ⟨_, read_eq_error_iff.mpr ⟨before, segment, after, split, named, unnamed, rfl⟩⟩

/-! ## What is right with an expression -/

theorem read_eq_ok_iff {expression : String} {clauses : List Clause} :
    read expression = .ok clauses ↔
      List.Forall₂ (fun segment clause => Clause.read segment = .ok clause)
        ((Text.pieces '|' expression.toList).filter fun segment => ¬ Text.Blank segment)
        clauses := by
  rw [read, readClauses_eq_ok_iff, segments_eq]

/-- A segment may be replaced by another one from which the same clause is read. -/
private theorem readClauses_replace {before after : List (List Char)} {segment other : List Char}
    (same : ∀ clause, Clause.read other = .ok clause ↔ Clause.read segment = .ok clause)
    (clauses : List Clause) :
    readClauses (before ++ other :: after) = .ok clauses ↔
      readClauses (before ++ segment :: after) = .ok clauses := by
  simp only [readClauses_eq_ok_iff]
  induction before generalizing clauses with
  | nil =>
      simp only [List.nil_append, List.forall₂_cons_left_iff, same]
  | cons first rest inductionHypothesis =>
      simp only [List.cons_append, List.forall₂_cons_left_iff, inductionHypothesis]

/-- Blanks that are put into one segment make no difference to the clauses. -/
theorem read_spaced {expression : String} {before after : List (List Char)}
    {left right segment spaced : List Char} (blankLeft : Text.Blank left)
    (blankRight : Text.Blank right)
    (split : Text.pieces '|' expression.toList = before ++ segment :: after)
    (put : Spaced left right segment spaced) (clauses : List Clause) :
    read (String.ofList (Text.join '|' (before ++ spaced :: after))) = .ok clauses ↔
      read expression = .ok clauses := by
  have unbarred : ∀ stretch ∈ before ++ segment :: after, '|' ∉ stretch := by
    rw [← split]
    intro stretch
    exact Text.not_mem_of_mem_pieces
  have spacedUnbarred : ∀ stretch ∈ before ++ spaced :: after, '|' ∉ stretch := by
    intro stretch member
    rcases List.mem_append.mp member with early | late
    · exact unbarred stretch (List.mem_append_left _ early)
    · rcases List.mem_cons.mp late with rfl | later
      · exact Clause.bar_not_mem_spaced blankLeft blankRight put (unbarred segment (by simp))
      · exact unbarred stretch (by simp [later])
  have spacedSplit :
      Text.pieces '|' (String.ofList (Text.join '|' (before ++ spaced :: after))).toList =
        before ++ spaced :: after := by
    rw [String.toList_ofList, Text.pieces_join (by simp) spacedUnbarred]
  have sameBlank := Clause.blank_spaced_iff blankLeft blankRight put
  rw [read, read, segments_eq, segments_eq, spacedSplit, split, List.filter_append,
    List.filter_append]
  by_cases blank : Text.Blank segment
  · have spacedBlank : Text.Blank spaced := sameBlank.mpr blank
    simp [blank, spacedBlank]
  · have spacedSolid : ¬ Text.Blank spaced := fun spacedBlank => blank (sameBlank.mp spacedBlank)
    rw [List.filter_cons_of_pos (by simpa using spacedSolid),
      List.filter_cons_of_pos (by simpa using blank)]
    exact readClauses_replace (Clause.read_spaced blankLeft blankRight put) clauses

/-! ## The whole expression -/

/-- An expression is read segment by segment.  Parts that are put together with a bar give
their clauses one after another, or the mistake of the first part that has one.  Reading
fails exactly when a segment is unnamed, and the mistake is a mistake of syntax that repeats
the first such segment.  Otherwise there is one clause for each segment that is not blank, in
order; and blanks round a segment, a name or an argument make no difference to what is read. -/
theorem read_segment_by_segment :
    (∀ left right : String, read (left ++ "|" ++ right) =
      (read left).bind fun first => (read right).map (first ++ ·)) ∧
    ∀ expression : String,
      let stretches := Text.pieces '|' expression.toList
      let solid := stretches.filter fun segment => ¬ Text.Blank segment
      ((∃ mistake, read expression = .error mistake) ↔
        ∃ segment ∈ stretches, Unnamed segment) ∧
      (∀ mistake, read expression = .error mistake →
        ∃ before segment after, stretches = before ++ segment :: after ∧
          (∀ earlier ∈ before, ¬ Unnamed earlier) ∧ Unnamed segment ∧
          mistake = .unnamedClause (String.ofList segment) ∧
          mistake.kind = .ruleSyntax ∧ mistake.concerns = String.ofList segment) ∧
      (∀ clauses, read expression = .ok clauses →
        clauses.length = solid.length ∧
          List.Forall₂ (fun segment clause => Clause.read segment = .ok clause) solid clauses) ∧
      ∀ before segment after left right spaced, stretches = before ++ segment :: after →
        Text.Blank left → Text.Blank right → Spaced left right segment spaced →
          ∀ clauses, read (String.ofList (Text.join '|' (before ++ spaced :: after))) =
            .ok clauses ↔ read expression = .ok clauses := by
  refine ⟨read_append_bar, ?_⟩
  intro expression stretches solid
  refine ⟨exists_mistake_iff, ?_, ?_, ?_⟩
  · intro mistake failed
    obtain ⟨before, segment, after, split, named, unnamed, rfl⟩ := read_eq_error_iff.mp failed
    exact ⟨before, segment, after, split, named, unnamed, rfl, rfl, rfl⟩
  · intro clauses accepted
    have each := read_eq_ok_iff.mp accepted
    exact ⟨each.length_eq.symm, each⟩
  · intro before segment after left right spaced split blankLeft blankRight put
    exact read_spaced blankLeft blankRight split put

/-- A blank segment gives no clause, blanks round an argument do not count, and of two unnamed
segments the first one is repeated, blanks included. -/
theorem blank_segment_is_passed_over :
    ∃ clauses, read "min:6,7|\u2003|required" = .ok clauses ∧ clauses.length = 2 ∧
      read "min:6, 7 |\u2003|required" = .ok clauses ∧
      ∃ mistake, read ("min:6,7|\u2003|required" ++ "|" ++ " :x|:y") = .error mistake ∧
        mistake.kind = .ruleSyntax ∧ mistake.concerns = " :x" := by
  obtain ⟨together, alone⟩ := read_segment_by_segment
  have accepted : read "min:6,7|\u2003|required" =
      .ok [⟨"min", ["6", "7"], by decide⟩, ⟨"required", [], by decide⟩] := rfl
  obtain ⟨-, -, counted, spaced⟩ := alone "min:6,7|\u2003|required"
  have put : Spaced [' '] [' '] "min:6,7".toList "min:6, 7 ".toList :=
    @Spaced.argument [' '] [' '] "min".toList (by decide) ["6".toList] [] "7".toList (by decide)
  have failed : read ("min:6,7|\u2003|required" ++ "|" ++ " :x|:y") =
      .error (.unnamedClause " :x") := by
    rw [together, accepted]
    rfl
  obtain ⟨-, blamed, -, -⟩ := alone ("min:6,7|\u2003|required" ++ "|" ++ " :x|:y")
  obtain ⟨_, _, _, -, -, -, -, kind, -⟩ := blamed _ failed
  have two : ((Text.pieces '|' "min:6,7|\u2003|required".toList).filter
      fun segment => ¬ Text.Blank segment).length = 2 := by
    decide
  refine ⟨_, accepted, (counted _ accepted).1.trans two, ?_, _, failed, kind, rfl⟩
  exact (spaced [] _ _ [' '] [' '] _ rfl (by decide) (by decide) put _).mpr accepted

end Expression

end FormCheck
