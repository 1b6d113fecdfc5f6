import FormCheck.Proofs.Text
import FormCheck.Proofs.WholeBounds

/-!
# Bounds that mirror each other

A bound that is a number has a place on the line of numbers, and so has the size of a text or of
a number.  The line is totally ordered, its two ends included.  So at least one of `min` and
`max` with the same bound lets a size pass, and both do exactly when the size is the bound.

One word is read as a bound although it writes no number: `nan`, in small or capital letters,
with a sign or without.  Such a bound has no place, and then no size passes either rule.
-/

namespace FormCheck

/-! ## Passes over lists -/

section Passes

variable {α β : Type} {change : α → Option β} {items : List α}

theorem mapM_cons_eq_some_iff {item : α} {marks : List β} :
    (item :: items).mapM change = some marks ↔
      ∃ first rest, change item = some first ∧ items.mapM change = some rest ∧
        first :: rest = marks := by
  simp [List.mapM_cons, Option.bind_eq_some_iff]

/-- What a pass over a list gives in two parts, it gives of two parts of the list. -/
theorem mapM_eq_some_append_iff {front back : List β} :
    items.mapM change = some (front ++ back) ↔
      ∃ left right, items = left ++ right ∧ left.mapM change = some front ∧
        right.mapM change = some back := by
  constructor
  · intro changed
    induction front generalizing items with
    | nil =>
        exact ⟨[], items, rfl, rfl, changed⟩
    | cons mark rest inductionHypothesis =>
        cases items with
        | nil =>
            cases changed
        | cons item others =>
            obtain ⟨first, later, becomes, remaining, same⟩ := mapM_cons_eq_some_iff.mp changed
            obtain ⟨rfl, rfl⟩ := List.cons.inj same
            obtain ⟨left, right, rfl, ofLeft, ofRight⟩ := inductionHypothesis remaining
            have ofAll := mapM_cons_eq_some_iff.mpr ⟨first, rest, becomes, ofLeft, rfl⟩
            exact ⟨item :: left, right, rfl, ofAll, ofRight⟩
  · rintro ⟨left, right, rfl, ofLeft, ofRight⟩
    simp [ofLeft, ofRight]

/-- A pass gives good marks exactly of items that each become a good one. -/
theorem exists_mapM_iff {good : β → Prop} :
    (∃ marks, items.mapM change = some marks ∧ ∀ mark ∈ marks, good mark) ↔
      ∀ item ∈ items, ∃ mark, change item = some mark ∧ good mark := by
  induction items with
  | nil =>
      simp
  | cons item rest inductionHypothesis =>
      rw [List.forall_mem_cons, ← inductionHypothesis]
      simp only [mapM_cons_eq_some_iff]
      constructor
      · rintro ⟨_, ⟨mark, marks, becomes, later, rfl⟩, all⟩
        obtain ⟨isGood, others⟩ := List.forall_mem_cons.mp all
        exact ⟨⟨mark, becomes, isGood⟩, marks, later, others⟩
      · rintro ⟨⟨mark, becomes, isGood⟩, marks, later, others⟩
        exact ⟨mark :: marks, ⟨mark, marks, becomes, later, rfl⟩,
          List.forall_mem_cons.mpr ⟨isGood, others⟩⟩

/-- Where a mark comes of nothing but itself, a pass gives marks of nothing but themselves. -/
theorem mapM_eq_some_self_iff {change : α → Option α} {items marks : List α}
    (own : ∀ mark ∈ marks, ∀ item, change item = some mark ↔ item = mark) :
    items.mapM change = some marks ↔ items = marks := by
  induction items generalizing marks with
  | nil =>
      simp
  | cons item rest inductionHypothesis =>
      rw [mapM_cons_eq_some_iff]
      constructor
      · rintro ⟨mark, others, becomes, later, rfl⟩
        obtain ⟨ownMark, ownOthers⟩ := List.forall_mem_cons.mp own
        rw [(ownMark item).mp becomes, (inductionHypothesis ownOthers).mp later]
      · rintro rfl
        obtain ⟨ownMark, ownOthers⟩ := List.forall_mem_cons.mp own
        exact ⟨item, rest, (ownMark item).mpr rfl, (inductionHypothesis ownOthers).mpr rfl, rfl⟩

end Passes

/-- A word without margins in it is left exactly of a text that has only margins round it. -/
theorem stripped_eq_iff {margin : Char → Bool} {text word : List Char} (nonempty : word ≠ [])
    (inner : ∀ c ∈ word, margin c = false) :
    ((text.dropWhile margin).reverse.dropWhile margin).reverse = word ↔
      ∃ before after, (∀ c ∈ before, margin c = true) ∧ (∀ c ∈ after, margin c = true) ∧
        text = before ++ (word ++ after) := by
  constructor
  · rintro rfl
    refine ⟨text.takeWhile margin,
      ((text.dropWhile margin).reverse.takeWhile margin).reverse, ?_, ?_, ?_⟩
    · intro c member
      exact List.mem_takeWhile_imp member
    · intro c member
      exact List.mem_takeWhile_imp (List.mem_reverse.mp member)
    · rw [← List.reverse_append, List.takeWhile_append_dropWhile, List.reverse_reverse,
        List.takeWhile_append_dropWhile]
  · rintro ⟨before, after, marginBefore, marginAfter, rfl⟩
    have backward : ∀ c ∈ after.reverse, margin c = true := by
      intro c member
      exact marginAfter c (List.mem_reverse.mp member)
    have innerBackward : ∀ c ∈ word.reverse, margin c = false := by
      intro c member
      exact inner c (List.mem_reverse.mp member)
    have start : (before ++ (word ++ after)).dropWhile margin = word ++ after := by
      rw [List.dropWhile_append_of_pos marginBefore, List.dropWhile_append,
        Text.dropWhile_of_inner inner, if_neg (by simpa using nonempty)]
    rw [start, List.reverse_append, List.dropWhile_append_of_pos backward,
      Text.dropWhile_of_inner innerBackward, List.reverse_reverse]

namespace Numeral

/-! ## What is not a number -/

/-- A character that may stand round a numeral: the space, the controls from the tab to the
carriage return, and the blanks behind the ASCII characters. -/
def MarginChar (c : Char) : Prop :=
  c = ' ' ∨ (9 ≤ c.toNat ∧ c.toNat ≤ 13) ∨ (0x7F ≤ c.toNat ∧ Text.isBlank c = true)

/-- One sign, or none. -/
def SignMark (mark : List Char) : Prop :=
  mark = [] ∨ mark = ['+'] ∨ mark = ['-']

/-- The word for what is not a number, in small or capital letters. -/
def NanWord (word : List Char) : Prop :=
  word.map Char.toLower = ['n', 'a', 'n']

/-- A text writes what is not a number. -/
inductive WritesNan : List Char → Prop where
  | spelled {before mark word after : List Char} (marginBefore : ∀ c ∈ before, MarginChar c)
      (sign : SignMark mark) (letters : NanWord word)
      (marginAfter : ∀ c ∈ after, MarginChar c) :
      WritesNan (before ++ (mark ++ word ++ after))

/-- A character that is its own plain form and that of no other one, and that is no digit, no
margin and no mark between digits. -/
structure Solid (c : Char) : Prop where
  ascii : c.toNat < 0x7F
  not_margin : isMargin c = false
  not_digit : Text.isAsciiDigit c = false
  not_mark : c ≠ '_'

theorem NanWord.solid {word : List Char} (letters : NanWord word) : ∀ c ∈ word, Solid c := by
  intro c member
  have small : c.toLower ∈ ['n', 'a', 'n'] := letters ▸ List.mem_map_of_mem member
  have places : c.toLower.toNat = 97 ∨ c.toLower.toNat = 110 := by
    simp only [List.mem_cons, List.not_mem_nil, or_false] at small
    rcases small with same | same | same <;> simp [same]
  have letter : 65 ≤ c.toNat ∧ c.toNat ≤ 78 ∨ 97 ≤ c.toNat ∧ c.toNat ≤ 110 := by
    rcases Text.toLower_cases c with same | ⟨-, -, moved⟩
    · rw [same] at places
      omega
    · omega
  refine ⟨by omega, ?_, ?_, ?_⟩
  · have notSpace : c ≠ ' ' := by
      rintro rfl
      exact absurd letter (by decide)
    simp only [isMargin, beq_eq_false_iff_ne.mpr notSpace, Bool.false_or, Bool.and_eq_false_iff,
      decide_eq_false_iff_not]
    omega
  · rw [Bool.eq_false_iff, ne_eq, isAsciiDigit_iff_toNat]
    omega
  · rintro rfl
    exact absurd letter (by decide)

theorem SignMark.solid {mark : List Char} (sign : SignMark mark) : ∀ c ∈ mark, Solid c := by
  have plus : Solid '+' := ⟨by decide, by decide, by decide, by decide⟩
  have minus : Solid '-' := ⟨by decide, by decide, by decide, by decide⟩
  rcases sign with rfl | rfl | rfl
  · exact List.forall_mem_nil _
  · exact List.forall_mem_singleton.mpr plus
  · exact List.forall_mem_singleton.mpr minus

theorem NanWord.ne_nil {word : List Char} (letters : NanWord word) : word ≠ [] := by
  rintro rfl
  cases letters

/-! ## Plain forms -/

theorem plainChar?_eq_some_iff {plain : Char} (solid : Solid plain) (c : Char) :
    plainChar? c = some plain ↔ c = plain := by
  by_cases ascii : c.toNat < 0x7F
  · simp [plainChar?, ascii]
  · have different : c ≠ plain := by
      rintro rfl
      exact ascii solid.ascii
    simp only [plainChar?, ascii, ↓reduceIte, different, iff_false]
    split
    · rintro ⟨⟩
      cases solid.not_margin
    · intro digit
      obtain ⟨value, isDigit, rfl⟩ := Option.map_eq_some_iff.mp digit
      have digits : ∀ value < 10, Text.isAsciiDigit (Char.ofNat ('0'.toNat + value)) = true := by
        decide
      have written := digits value (Text.digitValue?_lt isDigit)
      cases solid.not_digit.symm.trans written

theorem marginChar_iff {c : Char} :
    MarginChar c ↔ ∃ plain, plainChar? c = some plain ∧ isMargin plain = true := by
  by_cases ascii : c.toNat < 0x7F
  · have low : ¬ 0x7F ≤ c.toNat := by omega
    simp [MarginChar, plainChar?, isMargin, ascii, low]
  · have notSpace : c ≠ ' ' := by
      rintro rfl
      exact ascii (by decide)
    have high : 0x7F ≤ c.toNat := by omega
    have noControl : ¬ c.toNat ≤ 13 := by omega
    by_cases blank : Text.isBlank c = true
    · simp [MarginChar, plainChar?, ascii, blank, high, isMargin]
    · have digits : ∀ value < 10, isMargin (Char.ofNat ('0'.toNat + value)) = false := by
        decide
      have noMargin : ∀ value, Text.digitValue? c = some value →
          isMargin (Char.ofNat ('0'.toNat + value)) = false :=
        fun value isDigit => digits value (Text.digitValue?_lt isDigit)
      simpa [MarginChar, plainChar?, ascii, blank, notSpace, noControl] using noMargin

/-- A solid word is the plain form of itself with margins, and of nothing else. -/
theorem plain?_eq_some_iff {text word : List Char} (nonempty : word ≠ [])
    (solid : ∀ c ∈ word, Solid c) :
    plain? text = some word ↔ ∃ before after, (∀ c ∈ before, MarginChar c) ∧
      (∀ c ∈ after, MarginChar c) ∧ text = before ++ (word ++ after) := by
  have own : ∀ plain ∈ word, ∀ c, plainChar? c = some plain ↔ c = plain :=
    fun plain member => plainChar?_eq_some_iff (solid plain member)
  have inner : ∀ c ∈ word, isMargin c = false := fun c member => (solid c member).not_margin
  have stripped := fun outer : List Char => @stripped_eq_iff isMargin outer word nonempty inner
  simp only [plain?, Option.bind_eq_bind, Option.pure_def, Option.bind_eq_some_iff,
    Option.some.injEq, stripped, marginChar_iff, ← exists_mapM_iff]
  constructor
  · rintro ⟨_, formed, before, after, marginBefore, marginAfter, rfl⟩
    obtain ⟨left, rest, rfl, ofLeft, ofRest⟩ := mapM_eq_some_append_iff.mp formed
    obtain ⟨middle, right, rfl, ofMiddle, ofRight⟩ := mapM_eq_some_append_iff.mp ofRest
    rw [(mapM_eq_some_self_iff own).mp ofMiddle]
    exact ⟨left, right, ⟨before, ofLeft, marginBefore⟩, ⟨after, ofRight, marginAfter⟩, rfl⟩
  · rintro ⟨left, right, ⟨before, ofLeft, marginBefore⟩, ⟨after, ofRight, marginAfter⟩, rfl⟩
    have ofMiddle := (mapM_eq_some_self_iff own).mpr rfl
    have ofRest := mapM_eq_some_append_iff.mpr ⟨word, right, rfl, ofMiddle, ofRight⟩
    have formed := mapM_eq_some_append_iff.mpr ⟨left, word ++ right, rfl, ofLeft, ofRest⟩
    exact ⟨_, formed, before, after, marginBefore, marginAfter, rfl⟩

/-- Without digits there are no marks between digits to be taken out. -/
theorem ungroup?_eq_some_iff {isDigit : Char → Bool} {previous : Char} {text ungrouped : List Char}
    (noDigit : isDigit previous = false) (noMark : previous ≠ '_')
    (noDigits : ∀ c ∈ ungrouped, isDigit c = false) (noMarks : '_' ∉ ungrouped) :
    ungroup? isDigit previous text = some ungrouped ↔ text = ungrouped := by
  constructor
  · intro taken
    induction text generalizing previous ungrouped with
    | nil =>
        rw [ungroup?, if_neg noMark] at taken
        exact Option.some.inj taken
    | cons c rest inductionHypothesis =>
        rw [ungroup?, noDigit] at taken
        split at taken
        · cases taken
        · split at taken
          · cases taken
          · next single _ =>
            obtain ⟨others, later, rfl⟩ := Option.map_eq_some_iff.mp taken
            obtain ⟨first, remaining⟩ := List.forall_mem_cons.mp noDigits
            obtain ⟨-, absent⟩ := not_or.mp (List.mem_cons.not.mp noMarks)
            rw [inductionHypothesis first single remaining absent later]
  · rintro rfl
    exact ungroup?_of_not_mem isDigit noMark noMarks

theorem exists_sign_iff {text : List Char} :
    NanWord (sign text).2 ↔
      ∃ mark word, SignMark mark ∧ NanWord word ∧ text = mark ++ word := by
  constructor
  · intro letters
    unfold sign at letters
    split at letters
    · exact ⟨['-'], _, .inr (.inr rfl), letters, rfl⟩
    · exact ⟨['+'], _, .inr (.inl rfl), letters, rfl⟩
    · exact ⟨[], _, .inl rfl, letters, rfl⟩
  · rintro ⟨mark, word, rfl | rfl | rfl, letters, rfl⟩
    · unfold sign
      split
      · exact absurd (List.cons.inj letters).1 (by decide)
      · exact absurd (List.cons.inj letters).1 (by decide)
      · exact letters
    · exact letters
    · exact letters

end Numeral

/-! ## Reading -/

namespace Binary64

open Numeral

theorem position?_eq_none_iff {number : Binary64} :
    number.position? = none ↔ number.isNan = true := by
  cases number with
  | nan object =>
      simp [position?, isNan]
  | infinite negative | finite negative quanta =>
      cases negative <;> simp [position?, isNan]

theorem exists_position_of_isNan_eq_false {number : Binary64} (isNumber : number.isNan = false) :
    ∃ place, number.position? = some place :=
  Option.ne_none_iff_exists'.mp fun unplaced =>
    absurd (position?_eq_none_iff.mp unplaced) (Bool.not_eq_true _ ▸ isNumber)

theorem roundQuanta_isNan (negative : Bool) (numerator denominator : Nat) :
    (roundQuanta negative numerator denominator).isNan = false := by
  unfold roundQuanta
  dsimp only
  split <;> rfl

/-- Digits write a number. -/
theorem ofDecimal_isNan (negative : Bool) (coefficient : Nat) (exponent : Int) :
    (ofDecimal negative coefficient exponent).isNan = false := by
  unfold ofDecimal ofRatio
  dsimp only
  split_ifs
  · rfl
  · rfl
  · rfl
  · exact roundQuanta_isNan _ _ _
  · exact roundQuanta_isNan _ _ _

theorem ofWord?_isNan_iff {negative : Bool} {word : List Char} :
    (∃ number, ofWord? negative word = some number ∧ number.isNan = true) ↔ NanWord word := by
  have same : String.ofList (word.map Char.toLower) = "nan" ↔ NanWord word := by
    rw [← String.toList_inj, String.toList_ofList]
    rfl
  by_cases letters : NanWord word
  · rw [ofWord?, same.mpr letters]
    simp [letters, isNan]
  · simp only [ofWord?, mt same.mp letters, letters, iff_false]
    split <;> simp [isNan]

theorem readUnsigned?_isNan_iff {negative : Bool} {text : List Char} :
    (∃ number, readUnsigned? negative text = some number ∧ number.isNan = true) ↔
      NanWord text := by
  rw [← @ofWord?_isNan_iff negative, readUnsigned?]
  cases ofWord? negative text with
  | some number =>
      rfl
  | none =>
      dsimp only
      split_ifs
      · simp
      · simp [ofDecimal_isNan]

/-- A text is read as what is not a number exactly when it writes that. -/
theorem read?_isNan_iff {text : List Char} :
    (∃ number, read? text = some number ∧ number.isNan = true) ↔ WritesNan text := by
  have parts : (∃ number, read? text = some number ∧ number.isNan = true) ↔
      ∃ characters, plain? text = some characters ∧
        ∃ unmarked, ungroup? Text.isAsciiDigit '.' characters = some unmarked ∧
          NanWord (sign unmarked).2 := by
    simp only [read?, Option.bind_eq_bind, Option.bind_eq_some_iff]
    constructor
    · rintro ⟨number, ⟨characters, formed, unmarked, taken, unsigned⟩, isNan⟩
      exact ⟨characters, formed, unmarked, taken,
        readUnsigned?_isNan_iff.mp ⟨number, unsigned, isNan⟩⟩
    · rintro ⟨characters, formed, unmarked, taken, letters⟩
      obtain ⟨number, unsigned, isNan⟩ := readUnsigned?_isNan_iff.mpr letters
      exact ⟨number, ⟨characters, formed, unmarked, taken, unsigned⟩, isNan⟩
  simp only [parts, exists_sign_iff]
  have unmarked : '.' ≠ '_' := by decide
  have solidWord {mark word : List Char} (sign : SignMark mark) (letters : NanWord word) :
      ∀ c ∈ mark ++ word, Solid c :=
    List.forall_mem_append.mpr ⟨sign.solid, letters.solid⟩
  have ungrouped {mark word : List Char} (sign : SignMark mark) (letters : NanWord word)
      (characters : List Char) :
      ungroup? Text.isAsciiDigit '.' characters = some (mark ++ word) ↔
        characters = mark ++ word :=
    ungroup?_eq_some_iff rfl unmarked
      (fun c member => (solidWord sign letters c member).not_digit)
      (fun member => (solidWord sign letters '_' member).not_mark rfl)
  have nonempty {mark word : List Char} (letters : NanWord word) : mark ++ word ≠ [] :=
    List.append_ne_nil_of_right_ne_nil mark letters.ne_nil
  constructor
  · rintro ⟨characters, formed, _, taken, mark, word, sign, letters, rfl⟩
    obtain rfl := (ungrouped sign letters characters).mp taken
    obtain ⟨before, after, marginBefore, marginAfter, rfl⟩ :=
      (plain?_eq_some_iff (nonempty letters) (solidWord sign letters)).mp formed
    exact .spelled marginBefore sign letters marginAfter
  · rintro ⟨marginBefore, sign, letters, marginAfter⟩
    have formed := (plain?_eq_some_iff (nonempty letters) (solidWord sign letters)).mpr
      ⟨_, _, marginBefore, marginAfter, rfl⟩
    exact ⟨_, formed, _, (ungrouped sign letters _).mpr rfl, _, _, sign, letters, rfl⟩

end Binary64

/-! ## Both rules -/

namespace BuiltIn

/-- The place of the size of a value: a text has its number of characters, and a number is its
own size. -/
inductive Sized : Value → Position → Prop where
  | text (characters : String) : Sized (.text characters) (.ofInt characters.length)
  | integer (whole : Int) : Sized (.integer whole) (.ofInt whole)
  | real {number : Binary64} {place : Position} (placed : number.position? = some place) :
      Sized (.real number) place

theorem Sized.measure_eq {value : Value} {place : Position} (sized : Sized value place) :
    measure value = .size (some place) := by
  cases sized with
  | text characters | integer whole =>
      rfl
  | real placed =>
      rw [measure, placed]

theorem readBound_eq_ok_iff {rule written : String} {bound : Binary64} :
    readBound rule (some written) = .ok bound ↔ Binary64.read? written.toList = some bound := by
  by_cases empty : written = ""
  · subst empty
    have unread : Binary64.read? "".toList = none := rfl
    rw [unread]
    simp [readBound]
  · rw [readBound]
    · cases Binary64.read? written.toList <;> simp
    · exact empty

/-- With a bound that is a number, at least one of the two rules lets a size pass, and both do
exactly when it is the bound.  A bound is a number unless its text writes what is not one, and
then neither rule lets any size pass.  The rules neither fail nor give a notice. -/
theorem bounds_mirror_unless_nan {rule written : String} {bound : Binary64}
    (accepted : readBound rule (some written) = .ok bound) (surroundings : Table Value) :
    (bound.isNan = true ↔ Numeral.WritesNan written.toList) ∧
      (∀ number : Binary64, number.isNan = false → ∃ place, Sized (.real number) place) ∧
      ∀ value place, Sized value place →
        ∃ least most : Bool,
          (Rule.ofBuiltIn .min).check value [written] surroundings = .done least ∧
          (Rule.ofBuiltIn .max).check value [written] surroundings = .done most ∧
          (bound.isNan = false → (least = true ∨ most = true) ∧
            (least = true ∧ most = true ↔ bound.position? = some place)) ∧
          (bound.isNan = true → least = false ∧ most = false) := by
  have read := readBound_eq_ok_iff.mp accepted
  refine ⟨?_, ?_, ?_⟩
  · simp [← Binary64.read?_isNan_iff, read]
  · intro number isNumber
    obtain ⟨place, placed⟩ := Binary64.exists_position_of_isNan_eq_false isNumber
    exact ⟨place, .real placed⟩
  · intro value place sized
    refine ⟨inOrder bound.position? (some place), inOrder (some place) bound.position?,
      ?_, ?_, ?_, ?_⟩
    · have readHere : readBound "min" (some written) = .ok bound := readBound_eq_ok_iff.mpr read
      rw [check_min, atLeast, compare, readHere]
      simp only [sized.measure_eq]
    · have readHere : readBound "max" (some written) = .ok bound := readBound_eq_ok_iff.mpr read
      rw [check_max, atMost, compare, readHere]
      simp only [sized.measure_eq]
    · intro isNumber
      obtain ⟨limit, placed⟩ := Binary64.exists_position_of_isNan_eq_false isNumber
      rw [placed]
      refine ⟨Position.le_total limit place, ?_⟩
      constructor
      · rintro ⟨least, most⟩
        exact congrArg some (Position.le_antisymm least most)
      · intro same
        obtain rfl := Option.some.inj same
        exact ⟨Position.le_refl limit, Position.le_refl limit⟩
    · intro notNumber
      rw [Binary64.position?_eq_none_iff.mpr notNumber]
      exact ⟨rfl, rfl⟩

/-- A bound with margins, a sign, grouped digits and an exponent is met from both sides by its
own number only, and no text is too long for an infinite one. -/
theorem grouped_bound_is_met_from_both_sides :
    let surroundings : Table Value := .empty
    let written := " -1_0e-1\n"
    readBound "max" (some written) = .ok (.finite true Position.unit) ∧
      (Rule.ofBuiltIn .min).check (.integer (-1)) [written] surroundings = .done true ∧
      (Rule.ofBuiltIn .max).check (.integer (-1)) [written] surroundings = .done true ∧
      readBound "min" (some "+Infinity") = .ok (.infinite false) ∧
      (Rule.ofBuiltIn .max).check (.text "long") ["+Infinity"] surroundings = .done true := by
  intro surroundings written
  have accepted : readBound "max" (some written) = .ok (.finite true Position.unit) :=
    readBound_eq_ok_iff.mpr (by decide +kernel)
  have acceptedEnd : readBound "min" (some "+Infinity") = .ok (.infinite false) :=
    readBound_eq_ok_iff.mpr (by decide +kernel)
  obtain ⟨-, -, mirrored⟩ := bounds_mirror_unless_nan accepted surroundings
  obtain ⟨least, most, ofMin, ofMax, ofNumber, -⟩ := mirrored _ _ (.integer (-1))
  have same : (Binary64.finite true Position.unit).position? = some (.ofInt (-1)) := by
    rw [Binary64.position?, Position.ofInt, Int.neg_one_mul]
  obtain ⟨rfl, rfl⟩ := (ofNumber rfl).2.mpr same
  obtain ⟨-, -, mirroredEnd⟩ := bounds_mirror_unless_nan acceptedEnd surroundings
  obtain ⟨leastEnd, mostEnd, ofMinEnd, ofMaxEnd, ofEnd, -⟩ := mirroredEnd _ _ (.text "long")
  obtain passes | rfl := (ofEnd rfl).1
  · rw [passes] at ofMinEnd
    cases ofMinEnd.symm.trans (rfl : _ = Traced.done false)
  · exact ⟨accepted, ofMin, ofMax, acceptedEnd, ofMaxEnd⟩

/-- The word for what is not a number is read as a bound, and no number passes either rule. -/
theorem nan_is_read_as_bound :
    let surroundings : Table Value := .empty
    readBound "min" (some "nan") = .ok (.nan 0) ∧
      (Rule.ofBuiltIn .min).check (.integer 5) ["nan"] surroundings = .done false ∧
      (Rule.ofBuiltIn .max).check (.integer 5) ["nan"] surroundings = .done false :=
  ⟨rfl, rfl, rfl⟩

end BuiltIn

end FormCheck
