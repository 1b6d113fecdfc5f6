import FormCheck.Expression
import FormCheck.Proofs.Outcomes
import FormCheck.Proofs.Text
import Mathlib.Data.List.Forall2

/-!
# Writing and reading expressions

Reading gives back the clauses that were written exactly when all of them are clean.
Reading never gives anything but clean clauses, so two expressions read alike exactly
when their clauses are written alike.
-/

namespace FormCheck

namespace Clause

/-! ## One clause -/

theorem toList_written (clause : Clause) :
    clause.written.toList =
      match clause.arguments with
      | [] => clause.name.toList
      | arguments => clause.name.toList ++ ':' :: Text.join ',' (arguments.map String.toList) := by
  unfold written
  cases clause.arguments with
  | nil =>
      rfl
  | cons first rest =>
      simp

theorem readArguments_join {arguments : List String} (given : arguments ≠ [])
    (trimmed : ∀ argument ∈ arguments, Text.Trimmed argument.toList)
    (uncut : ∀ argument ∈ arguments, ',' ∉ argument.toList) :
    readArguments (Text.join ',' (arguments.map String.toList)) = arguments := by
  have cut : Text.pieces ',' (Text.join ',' (arguments.map String.toList)) =
      arguments.map String.toList := by
    apply Text.pieces_join
    · simpa using given
    · simpa using uncut
  have each : ∀ argument ∈ arguments,
      String.ofList (Text.trim argument.toList) = argument := by
    intro argument member
    rw [Text.trim_of_trimmed (trimmed argument member), String.ofList_toList]
  rw [readArguments, cut, List.map_map]
  exact (List.map_congr_left each).trans (List.map_id arguments)

/-- A clean clause is read back as it was. -/
theorem read_written {clause : Clause} (clean : clause.Clean) :
    read clause.written.toList = .ok clause := by
  obtain ⟨name, arguments, named⟩ := clause
  have sameName : String.ofList (Text.trim name.toList) = name := by
    rw [Text.trim_of_trimmed clean.name_trimmed, String.ofList_toList]
  rw [toList_written]
  cases arguments with
  | nil =>
      simp only [read, Text.cutFirst_of_not_mem clean.name_uncut, sameName]
      simp [named]
  | cons first rest =>
      have sameArguments := readArguments_join (List.cons_ne_nil first rest)
        clean.arguments_trimmed clean.arguments_uncut
      simp only [read, Text.cutFirst_append_separator clean.name_uncut, sameName]
      simpa [named] using sameArguments

/-- An argument that is read is a trimmed piece between commas. -/
theorem exists_piece_of_mem_readArguments {text : List Char} {argument : String}
    (member : argument ∈ readArguments text) :
    ∃ piece ∈ Text.pieces ',' text, argument.toList = Text.trim piece := by
  obtain ⟨piece, inPieces, rfl⟩ := List.mem_map.mp member
  exact ⟨piece, inPieces, String.toList_ofList⟩

/-- What stands before the first colon is the name of a clause that is read, and what stands
behind it the arguments. -/
theorem read_eq_ok_iff {text : List Char} {clause : Clause} :
    read text = .ok clause ↔
      clause.name = String.ofList (Text.trim (Text.cutFirst ':' text).1) ∧
        clause.arguments = ((Text.cutFirst ':' text).2.map readArguments).getD [] := by
  obtain ⟨name, arguments, named⟩ := clause
  unfold read
  simp only
  split
  · simp [eq_comm]
  · next unnamed =>
    constructor
    · intro accepted
      cases accepted
    · rintro ⟨same, -⟩
      exact absurd (same ▸ named) unnamed

/-- Whatever is read from a text without bars is clean. -/
theorem clean_of_read {text : List Char} {clause : Clause} (unbarred : '|' ∉ text)
    (accepted : read text = .ok clause) : clause.Clean := by
  obtain ⟨name, arguments⟩ := read_eq_ok_iff.mp accepted
  have cleanName : ∀ {before : List Char}, clause.name = String.ofList (Text.trim before) →
      '|' ∉ before → ':' ∉ before →
        Text.Trimmed clause.name.toList ∧ '|' ∉ clause.name.toList ∧ ':' ∉ clause.name.toList := by
    intro before same noBar noColon
    rw [same, String.toList_ofList]
    exact ⟨Text.trimmed_trim before, fun member => noBar (Text.mem_of_mem_trim member),
      fun member => noColon (Text.mem_of_mem_trim member)⟩
  rcases Text.cutFirst_cases ':' text with ⟨uncut, cut⟩ | ⟨before, after, split, uncut, cut⟩
  · rw [cut] at name arguments
    obtain ⟨trimmed, noBar, noColon⟩ := cleanName name unbarred uncut
    have noArguments : clause.arguments = [] := arguments
    exact ⟨trimmed, noBar, noColon, by simp [noArguments], by simp [noArguments],
      by simp [noArguments]⟩
  · rw [cut] at name arguments
    have barBefore : '|' ∉ before := fun member => unbarred (by simp [split, member])
    have barAfter : '|' ∉ after := fun member => unbarred (by simp [split, member])
    obtain ⟨trimmed, noBar, noColon⟩ := cleanName name barBefore uncut
    have piece : ∀ argument ∈ clause.arguments,
        ∃ piece ∈ Text.pieces ',' after, argument.toList = Text.trim piece := by
      intro argument member
      rw [arguments] at member
      exact exists_piece_of_mem_readArguments member
    refine ⟨trimmed, noBar, noColon, ?_, ?_, ?_⟩
    · intro argument member
      obtain ⟨piece, -, same⟩ := piece argument member
      rw [same]
      exact Text.trimmed_trim piece
    · intro argument member bar
      obtain ⟨piece, inPieces, same⟩ := piece argument member
      rw [same] at bar
      exact barAfter (Text.mem_of_mem_pieces inPieces (Text.mem_of_mem_trim bar))
    · intro argument member comma
      obtain ⟨piece, inPieces, same⟩ := piece argument member
      rw [same] at comma
      exact Text.not_mem_of_mem_pieces inPieces (Text.mem_of_mem_trim comma)

/-- No bar stands in the text of a clean clause. -/
theorem bar_not_mem_written {clause : Clause} (clean : clause.Clean) :
    '|' ∉ clause.written.toList := by
  rw [toList_written]
  cases given : clause.arguments with
  | nil =>
      exact clean.name_unbarred
  | cons first rest =>
      intro member
      rcases List.mem_append.mp member with inName | behind
      · exact clean.name_unbarred inName
      · rcases List.mem_cons.mp behind with colon | inArguments
        · exact absurd colon (by decide)
        · rcases Text.mem_join inArguments with comma | ⟨text, inTexts, bar⟩
          · exact absurd comma (by decide)
          · obtain ⟨argument, inGiven, rfl⟩ := List.mem_map.mp inTexts
            exact clean.arguments_unbarred argument (given ▸ inGiven) bar

/-- The text of a clean clause is not blank, for its name is not. -/
theorem trim_written_ne_nil {clause : Clause} (clean : clause.Clean) :
    Text.trim clause.written.toList ≠ [] := by
  intro blank
  cases name : clause.name.toList with
  | nil =>
      exact clause.named (String.toList_eq_nil_iff.mp name)
  | cons c rest =>
      have unblank : Text.isBlank c = false := by
        apply clean.name_trimmed.1
        rw [name]
        rfl
      have member : c ∈ clause.written.toList := by
        rw [toList_written]
        cases clause.arguments <;> simp [name]
      rw [Text.trim_eq_nil_iff.mp blank c member] at unblank
      cases unblank

end Clause

namespace Expression

/-! ## Clauses between bars -/

theorem bar_not_mem_segment {text segment : List Char} (member : segment ∈ segments text) :
    '|' ∉ segment :=
  Text.not_mem_of_mem_pieces (List.mem_filter.mp member).1

/-- Clauses are read one by one, in order. -/
theorem readClauses_eq_ok_iff {texts : List (List Char)} {clauses : List Clause} :
    readClauses texts = .ok clauses ↔
      List.Forall₂ (fun text clause => Clause.read text = .ok clause) texts clauses := by
  induction texts generalizing clauses with
  | nil =>
      constructor
      · intro accepted
        cases accepted
        exact .nil
      · intro nothing
        cases nothing
        rfl
  | cons first rest inductionHypothesis =>
      constructor
      · intro accepted
        obtain ⟨clause, head, behind⟩ := exists_of_bind_eq_ok accepted
        obtain ⟨others, tail, same⟩ := exists_of_bind_eq_ok behind
        cases same
        exact .cons head (inductionHypothesis.mp tail)
      · intro each
        cases each with
        | cons head tail =>
            rw [readClauses, head, inductionHypothesis.mpr tail]
            rfl

/-- Every clause that is read comes from a segment. -/
theorem exists_segment_of_readClauses {texts : List (List Char)} {clauses : List Clause}
    (accepted : readClauses texts = .ok clauses) :
    ∀ clause ∈ clauses, ∃ text ∈ texts, Clause.read text = .ok clause := by
  have each := readClauses_eq_ok_iff.mp accepted
  clear accepted
  induction each with
  | nil =>
      simp
  | cons head tail inductionHypothesis =>
      intro clause member
      rcases List.mem_cons.mp member with rfl | later
      · exact ⟨_, List.mem_cons_self, head⟩
      · obtain ⟨text, inRest, read⟩ := inductionHypothesis clause later
        exact ⟨text, List.mem_cons_of_mem _ inRest, read⟩

/-- Reading an expression gives clean clauses. -/
theorem clean_of_read {expression : String} {clauses : List Clause}
    (accepted : read expression = .ok clauses) : ∀ clause ∈ clauses, clause.Clean := by
  intro clause member
  obtain ⟨segment, inSegments, read⟩ := exists_segment_of_readClauses accepted clause member
  exact Clause.clean_of_read (bar_not_mem_segment inSegments) read

theorem segments_written {clauses : List Clause} (clean : ∀ clause ∈ clauses, clause.Clean) :
    segments (written clauses).toList = clauses.map fun clause => clause.written.toList := by
  rw [segments, written, String.toList_ofList]
  cases clauses with
  | nil =>
      rfl
  | cons first rest =>
      rw [Text.pieces_join (by simp), List.filter_eq_self]
      · intro segment member
        obtain ⟨clause, inClauses, rfl⟩ := List.mem_map.mp member
        simpa using Clause.trim_written_ne_nil (clean clause inClauses)
      · intro text member
        obtain ⟨clause, inClauses, rfl⟩ := List.mem_map.mp member
        exact Clause.bar_not_mem_written (clean clause inClauses)

theorem read_written {clauses : List Clause} (clean : ∀ clause ∈ clauses, clause.Clean) :
    read (written clauses) = .ok clauses := by
  rw [read, segments_written clean, readClauses_eq_ok_iff, List.forall₂_map_left_iff,
    List.forall₂_same]
  intro clause member
  exact Clause.read_written (clean clause member)

/-- Writing and reading are inverse exactly on clean clauses.  Clauses that were read are
clean, so they are read back after writing, and expressions read alike exactly when their
clauses are written alike. -/
theorem read_written_iff_clean :
    (∀ clauses, read (written clauses) = .ok clauses ↔ ∀ clause ∈ clauses, clause.Clean) ∧
      (∀ expression clauses, read expression = .ok clauses →
        (∀ clause ∈ clauses, clause.Clean) ∧ read (written clauses) = .ok clauses) ∧
      ∀ left right leftClauses rightClauses,
        read left = .ok leftClauses → read right = .ok rightClauses →
          (leftClauses = rightClauses ↔ written leftClauses = written rightClauses) := by
  refine ⟨?_, ?_, ?_⟩
  · intro clauses
    exact ⟨clean_of_read, read_written⟩
  · intro expression clauses accepted
    exact ⟨clean_of_read accepted, read_written (clean_of_read accepted)⟩
  · intro left right leftClauses rightClauses leftRead rightRead
    constructor
    · intro same
      rw [same]
    · intro same
      have leftBack := read_written (clean_of_read leftRead)
      have rightBack := read_written (clean_of_read rightRead)
      rw [same, rightBack] at leftBack
      exact (Except.ok.inj leftBack).symm

/-- Blanks and blank stretches do not come back, an empty argument does; a name with a
colon in it is read as something else. -/
theorem spaced_expression_read_back :
    ∃ spaced tight, read " min : 6 , a:b |\u2003| confirm: " = .ok spaced ∧
      read "min:6,a:b|confirm:" = .ok tight ∧
      (∀ clause ∈ spaced, clause.Clean) ∧ read (written spaced) = .ok spaced ∧
      written spaced = written tight ∧
      ¬ read (written [⟨"a:b", [], by decide⟩]) = .ok [⟨"a:b", [], by decide⟩] := by
  have readSpaced : read " min : 6 , a:b |\u2003| confirm: " =
      .ok [⟨"min", ["6", "a:b"], by decide⟩, ⟨"confirm", [""], by decide⟩] := rfl
  have readTight : read "min:6,a:b|confirm:" =
      .ok [⟨"min", ["6", "a:b"], by decide⟩, ⟨"confirm", [""], by decide⟩] := rfl
  obtain ⟨clean, back⟩ := read_written_iff_clean.2.1 _ _ readSpaced
  refine ⟨_, _, readSpaced, readTight, clean, back, ?_, ?_⟩
  · exact (read_written_iff_clean.2.2 _ _ _ _ readSpaced readTight).mp rfl
  · intro same
    have allClean := (read_written_iff_clean.1 _).mp same
    exact (allClean _ List.mem_cons_self).name_uncut (by decide)

end Expression

end FormCheck
