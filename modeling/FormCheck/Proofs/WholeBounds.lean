import FormCheck.Proofs.Text
import FormCheck.Proofs.WellFormed
import Mathlib.Algebra.Order.Ring.Nat
import Mathlib.Data.Nat.Log

/-!
# Whole numbers as bounds

A whole number that is written in decimal is read without rounding up to `2 ^ 53`, behind
which not every whole number is a number of 64 bits.  Bounds and sizes are compared by their
places on the line of numbers, where nothing is rounded either.  So `min` and `max` with such
a bound compare the number of characters of a text, and whole numbers of any size, exactly as
whole numbers are compared, and they neither fail nor give a notice.
-/

namespace FormCheck

namespace Binary64

/-! ## Numbers that need no rounding -/

theorem roundHalfEven_mul {quotient divisor : Nat} (positive : 0 < divisor) :
    roundHalfEven (quotient * divisor) divisor = quotient := by
  have remainder : quotient * divisor % divisor = 0 := Nat.mul_mod_left quotient divisor
  have exact : quotient * divisor / divisor = quotient := Nat.mul_div_left quotient positive
  simp only [roundHalfEven, remainder, exact, Nat.mul_zero, positive, ↓reduceIte]

theorem step_pos (quanta : Nat) : 0 < step quanta :=
  Nat.two_pow_pos _

/-- A number of quanta on the grid of its size is not rounded. -/
theorem roundQuanta_of_dvd {quanta : Nat} (onGrid : step quanta ∣ quanta)
    (bounded : quanta < limit) (negative : Bool) :
    roundQuanta negative quanta 1 = .finite negative quanta := by
  obtain ⟨steps, count⟩ := onGrid
  have product : steps * step quanta = quanta := by rw [Nat.mul_comm, ← count]
  have rounded : roundHalfEven quanta (step quanta) * step quanta = quanta := by
    calc roundHalfEven quanta (step quanta) * step quanta
        = roundHalfEven (steps * step quanta) (step quanta) * step quanta := by rw [product]
      _ = steps * step quanta := by rw [roundHalfEven_mul (step_pos quanta)]
      _ = quanta := product
  simp only [roundQuanta, Nat.div_one, Nat.one_mul, rounded, bounded, ↓reduceIte]

/-- Whole numbers up to `2 ^ 53` lie on the grid, whatever the unit is. -/
theorem step_dvd {whole : Nat} (small : whole ≤ 2 ^ 53) (exponent : Nat) :
    step (whole * 2 ^ exponent) ∣ whole * 2 ^ exponent := by
  rcases Nat.eq_zero_or_pos whole with rfl | positive
  · simp
  rcases Nat.lt_or_eq_of_le small with less | rfl
  · have nonzero : whole * 2 ^ exponent ≠ 0 :=
      Nat.mul_ne_zero (Nat.pos_iff_ne_zero.mp positive) (Nat.two_pow_pos exponent).ne'
    have bounded : whole * 2 ^ exponent < 2 ^ (53 + exponent) := by
      rw [Nat.pow_add]
      exact Nat.mul_lt_mul_of_pos_right less (Nat.two_pow_pos exponent)
    have size : (whole * 2 ^ exponent).log2 < 53 + exponent := (Nat.log2_lt nonzero).mpr bounded
    have fine : (whole * 2 ^ exponent).log2 - (precision - 1) ≤ exponent := by
      simp only [precision]
      omega
    exact Nat.dvd_mul_left_of_dvd (Nat.pow_dvd_pow 2 fine) whole
  · have power : 2 ^ 53 * 2 ^ exponent = 2 ^ (53 + exponent) := (Nat.pow_add 2 53 exponent).symm
    rw [power, step, Nat.log2_two_pow]
    exact Nat.pow_dvd_pow 2 (Nat.sub_le _ _)

theorem mul_two_pow_lt {whole size : Nat} (small : whole ≤ 2 ^ 53) (above : 53 < size)
    (exponent : Nat) : whole * 2 ^ exponent < Nat.pow 2 (size + exponent) := by
  have grows : (2 : Nat) ^ 53 < 2 ^ size := Nat.pow_lt_pow_right (by decide) above
  calc whole * 2 ^ exponent
      < 2 ^ size * 2 ^ exponent :=
        Nat.mul_lt_mul_of_pos_right (Nat.lt_of_le_of_lt small grows) (Nat.two_pow_pos exponent)
    _ = Nat.pow 2 (size + exponent) := (Nat.pow_add 2 size exponent).symm

theorem ofRatio_one {whole : Nat} (small : whole ≤ 2 ^ 53) (negative : Bool) :
    ofRatio negative whole 1 = .finite negative (whole * Position.unit) :=
  roundQuanta_of_dvd (step_dvd small 1074) (mul_two_pow_lt small (by decide) 1074) negative

theorem ofDecimal_zero {whole : Nat} (small : whole ≤ 2 ^ 53) (negative : Bool) :
    ofDecimal negative whole 0 = .finite negative (whole * Position.unit) := by
  have short : (Nat.toDigits 10 whole).length ≤ 310 := by
    refine (Nat.length_toDigits_le_iff (by decide) (by decide)).mpr ?_
    exact Nat.lt_of_le_of_lt small (by decide +kernel)
  have notHuge : ¬ (310 : Int) < digitCount whole + 0 := by
    simp only [digitCount]
    omega
  have notTiny : ¬ (digitCount whole + 0 : Int) < -330 := by
    omega
  by_cases zero : whole = 0
  · simp only [ofDecimal, zero, ↓reduceIte, Nat.zero_mul]
  · simp only [ofDecimal, zero, notHuge, notTiny, Int.le_refl, ↓reduceIte]
    have same : whole * Nat.pow 10 (Int.toNat 0) = whole := Nat.mul_one whole
    rw [same, ofRatio_one small]

theorem position?_whole (negative : Bool) (whole : Nat) :
    (Binary64.finite negative (whole * Position.unit)).position? =
      some (.ofInt (if negative then -whole else whole)) := by
  cases negative with
  | true =>
      rw [position?, Position.ofInt, if_pos rfl, Int.neg_mul, Int.natCast_mul]
  | false =>
      rw [position?, Position.ofInt, if_neg Bool.false_ne_true, Int.natCast_mul]

end Binary64

/-! ## Decimal numerals -/

namespace Numeral

/-- A text writes a whole number in decimal: digits from `'0'` to `'9'`, perhaps behind a
sign. -/
inductive WritesWhole : List Char → Int → Prop where
  | unsigned {digits : List Char} (nonempty : digits ≠ [])
      (plain : ∀ c ∈ digits, Text.isAsciiDigit c = true) :
      WritesWhole digits (natOfDigits digits)
  | positive {digits : List Char} (nonempty : digits ≠ [])
      (plain : ∀ c ∈ digits, Text.isAsciiDigit c = true) :
      WritesWhole ('+' :: digits) (natOfDigits digits)
  | negative {digits : List Char} (nonempty : digits ≠ [])
      (plain : ∀ c ∈ digits, Text.isAsciiDigit c = true) :
      WritesWhole ('-' :: digits) (-natOfDigits digits)

theorem isAsciiDigit_iff_toNat {c : Char} :
    Text.isAsciiDigit c = true ↔ 48 ≤ c.toNat ∧ c.toNat ≤ 57 := by
  simp only [Text.isAsciiDigit, Bool.and_eq_true, decide_eq_true_eq]
  exact Iff.rfl

theorem isAsciiDigit_of_mem_toDigits {number : Nat} {c : Char}
    (member : c ∈ Nat.toDigits 10 number) : Text.isAsciiDigit c = true := by
  have digit : c.isDigit = true := Nat.isDigit_of_mem_toDigits (by decide) (by decide) member
  rw [Char.isDigit, Bool.and_eq_true, decide_eq_true_eq, decide_eq_true_eq] at digit
  exact isAsciiDigit_iff_toNat.mpr digit

theorem natOfDigits_toDigits (number : Nat) : natOfDigits (Nat.toDigits 10 number) = number :=
  Nat.ofDigitChars_toDigits (by decide) (by decide)

/-- The usual notation of a whole number writes it. -/
theorem writesWhole_toString (whole : Int) : WritesWhole (toString whole).toList whole := by
  have written (number : Nat) : WritesWhole (Nat.toDigits 10 number) number := by
    have writes := WritesWhole.unsigned (Nat.toDigits_ne_nil (n := number) (b := 10))
      fun c member => isAsciiDigit_of_mem_toDigits member
    rwa [natOfDigits_toDigits] at writes
  have writtenNegative (number : Nat) : WritesWhole ('-' :: Nat.toDigits 10 number) (-number) := by
    have writes := WritesWhole.negative (Nat.toDigits_ne_nil (n := number) (b := 10))
      fun c member => isAsciiDigit_of_mem_toDigits member
    rwa [natOfDigits_toDigits] at writes
  cases whole with
  | ofNat number =>
      have characters : (toString (Int.ofNat number)).toList = Nat.toDigits 10 number := by
        rw [Int.toString_eq_repr, Int.repr, Nat.toList_repr]
      rw [characters]
      exact written number
  | negSucc number =>
      have characters :
          (toString (Int.negSucc number)).toList = '-' :: Nat.toDigits 10 (number + 1) := by
        rw [Int.toString_eq_repr, Int.repr, String.toList_append, Nat.toList_repr]
        rfl
      rw [characters]
      exact writtenNegative (number + 1)

/-- The signs, the digits, and what stands between them in code. -/
def IsMark (c : Char) : Prop :=
  43 ≤ c.toNat ∧ c.toNat ≤ 57

/-- A decimal numeral in its two parts. -/
theorem exists_sign_of_writesWhole {text : List Char} {whole : Int}
    (writes : WritesWhole text whole) :
    ∃ negative digits, sign text = (negative, digits) ∧ digits ≠ [] ∧
      (∀ c ∈ digits, Text.isAsciiDigit c = true) ∧ (∀ c ∈ text, IsMark c) ∧
      whole = if negative then -(natOfDigits digits : Int) else natOfDigits digits := by
  have marked {digits : List Char} (plain : ∀ c ∈ digits, Text.isAsciiDigit c = true) :
      ∀ c ∈ digits, IsMark c := by
    intro c member
    obtain ⟨least, most⟩ := isAsciiDigit_iff_toNat.mp (plain c member)
    exact ⟨Nat.le_trans (by decide) least, most⟩
  have plus : IsMark '+' := ⟨by decide, by decide⟩
  have minus : IsMark '-' := ⟨by decide, by decide⟩
  cases writes with
  | unsigned nonempty plain =>
      refine ⟨false, text, ?_, nonempty, plain, marked plain, rfl⟩
      unfold sign
      split
      · exact absurd (plain '-' List.mem_cons_self) (by decide)
      · exact absurd (plain '+' List.mem_cons_self) (by decide)
      · rfl
  | positive nonempty plain =>
      exact ⟨false, _, rfl, nonempty, plain, List.forall_mem_cons.mpr ⟨plus, marked plain⟩, rfl⟩
  | negative nonempty plain =>
      exact ⟨true, _, rfl, nonempty, plain, List.forall_mem_cons.mpr ⟨minus, marked plain⟩, rfl⟩

theorem plain?_of_marks {text : List Char} (marks : ∀ c ∈ text, IsMark c) :
    plain? text = some text := by
  have same : text.mapM plainChar? = some text := by
    induction text with
    | nil =>
        rfl
    | cons c rest inductionHypothesis =>
        obtain ⟨mark, later⟩ := List.forall_mem_cons.mp marks
        have plain : plainChar? c = some c := by
          have low : c.toNat < 0x7F := Nat.lt_of_le_of_lt mark.2 (by decide)
          rw [plainChar?, if_pos low]
        simp [List.mapM_cons, plain, inductionHypothesis later]
  have noMargin : ∀ c ∈ text, isMargin c = false := by
    intro c member
    obtain ⟨least, most⟩ := marks c member
    have notSpace : c ≠ ' ' := by
      rintro rfl
      exact absurd least (by decide)
    simp [isMargin, notSpace]
    omega
  have start : text.dropWhile isMargin = text := Text.dropWhile_of_inner noMargin
  have finish : text.reverse.dropWhile isMargin = text.reverse :=
    Text.dropWhile_of_inner fun c member => noMargin c (List.mem_reverse.mp member)
  simp [plain?, same, start, finish]

theorem ungroup?_of_not_mem (isDigit : Char → Bool) {previous : Char} (unmarked : previous ≠ '_')
    {text : List Char} (absent : '_' ∉ text) : ungroup? isDigit previous text = some text := by
  induction text generalizing previous with
  | nil =>
      rw [ungroup?, if_neg unmarked]
  | cons c rest inductionHypothesis =>
      obtain ⟨single, later⟩ := not_or.mp (List.mem_cons.not.mp absent)
      rw [ungroup?, if_neg (Ne.symm single), inductionHypothesis (Ne.symm single) later]
      simp [unmarked]

theorem digitSpan_of_digits {digits : List Char}
    (plain : ∀ c ∈ digits, Text.isAsciiDigit c = true) : digitSpan digits = (digits, []) := by
  rw [digitSpan, List.span_eq_takeWhile_dropWhile, List.takeWhile_eq_self_iff.mpr plain,
    List.dropWhile_eq_nil_iff.mpr plain]

end Numeral

namespace Binary64

open Numeral

theorem ofWord?_of_digit {c : Char} (digit : Text.isAsciiDigit c = true) (negative : Bool)
    (rest : List Char) : ofWord? negative (c :: rest) = none := by
  have most : c.toNat ≤ 57 := (isAsciiDigit_iff_toNat.mp digit).2
  have small : c.toLower = c := by
    refine dif_neg fun capital => ?_
    have least : 65 ≤ c.toNat := UInt32.le_iff_toNat_le.mp capital.1
    omega
  have differs (word : String) {first : Char} {others : List Char}
      (begins : word.toList = first :: others) (letter : 57 < first.toNat) :
      String.ofList ((c :: rest).map Char.toLower) ≠ word := by
    intro same
    have characters := congrArg String.toList same
    rw [String.toList_ofList, begins, List.map_cons, small] at characters
    obtain ⟨rfl, -⟩ := List.cons.inj characters
    omega
  have notInf := differs "inf" rfl (by decide)
  have notInfinity := differs "infinity" rfl (by decide)
  have notNan := differs "nan" rfl (by decide)
  simp only [ofWord?, notInf, notInfinity, notNan, or_self, ↓reduceIte]

theorem readUnsigned?_of_digits {digits : List Char} (nonempty : digits ≠ [])
    (plain : ∀ c ∈ digits, Text.isAsciiDigit c = true) (negative : Bool) :
    readUnsigned? negative digits = some (ofDecimal negative (natOfDigits digits) 0) := by
  obtain ⟨c, rest, rfl⟩ := List.exists_cons_of_ne_nil nonempty
  have noWord := ofWord?_of_digit (plain c List.mem_cons_self) negative rest
  simp [readUnsigned?, noWord, digitSpan_of_digits plain, exponent?]

theorem read?_of_marks {text : List Char} (marks : ∀ c ∈ text, IsMark c) :
    read? text = readUnsigned? (sign text).1 (sign text).2 := by
  have unmarked : '.' ≠ '_' := by decide
  have absent : '_' ∉ text := fun member => absurd (marks '_' member).2 (by decide)
  simp [read?, plain?_of_marks marks, ungroup?_of_not_mem _ unmarked absent]

/-- A whole number up to `2 ^ 53` that is written in decimal is read as it is. -/
theorem exists_read?_of_writesWhole {text : List Char} {whole : Int}
    (writes : WritesWhole text whole) (small : whole.natAbs ≤ 2 ^ 53) :
    ∃ number, read? text = some number ∧ number.position? = some (.ofInt whole) := by
  obtain ⟨negative, digits, parts, nonempty, plain, marks, value⟩ :=
    exists_sign_of_writesWhole writes
  have same : natOfDigits digits = whole.natAbs := by
    cases negative <;> simp [value]
  have fits : natOfDigits digits ≤ 2 ^ 53 := same ▸ small
  refine ⟨.finite negative (natOfDigits digits * Position.unit), ?_, ?_⟩
  · rw [read?_of_marks marks, parts, readUnsigned?_of_digits nonempty plain, ofDecimal_zero fits]
  · rw [position?_whole, value]

end Binary64

/-! ## Whole bounds -/

namespace BuiltIn

variable {written : String} {bound : Int}

theorem exists_readBound_of_writesWhole (writes : Numeral.WritesWhole written.toList bound)
    (small : bound.natAbs ≤ 2 ^ 53) (rule : String) :
    ∃ number, readBound rule (some written) = .ok number ∧
      number.position? = some (.ofInt bound) := by
  obtain ⟨number, read, place⟩ := Binary64.exists_read?_of_writesWhole writes small
  refine ⟨number, ?_, place⟩
  have nonempty : written ≠ "" := by
    rintro rfl
    cases read.symm
  rw [readBound, read]
  exact nonempty

/-- A size at a place is compared with a whole bound, and nothing else happens. -/
theorem atLeast_of_measure (writes : Numeral.WritesWhole written.toList bound)
    (small : bound.natAbs ≤ 2 ^ 53) {value : Value} {size : Int}
    (measured : measure value = .size (some (.ofInt size))) :
    atLeast value (some written) = .done (decide (bound ≤ size)) := by
  obtain ⟨number, read, place⟩ := exists_readBound_of_writesWhole writes small "min"
  have compared : (Position.ofInt bound).le (.ofInt size) = decide (bound ≤ size) := by
    rw [Bool.eq_iff_iff, Position.ofInt_le_ofInt_iff, decide_eq_true_iff]
  simp only [atLeast, compare, read, measured, place, inOrder, compared]

theorem atMost_of_measure (writes : Numeral.WritesWhole written.toList bound)
    (small : bound.natAbs ≤ 2 ^ 53) {value : Value} {size : Int}
    (measured : measure value = .size (some (.ofInt size))) :
    atMost value (some written) = .done (decide (size ≤ bound)) := by
  obtain ⟨number, read, place⟩ := exists_readBound_of_writesWhole writes small "max"
  have compared : (Position.ofInt size).le (.ofInt bound) = decide (size ≤ bound) := by
    rw [Bool.eq_iff_iff, Position.ofInt_le_ofInt_iff, decide_eq_true_iff]
  simp only [atMost, compare, read, measured, place, inOrder, compared]

/-- A whole bound up to `2 ^ 53`, in its usual notation or in any other decimal one, is compared
exactly with the number of characters of a text and with whole numbers of any size.  The rules
neither fail nor give a notice there. -/
theorem whole_bounds_are_exact {bound : Int} (small : bound.natAbs ≤ 2 ^ 53) :
    Numeral.WritesWhole (toString bound).toList bound ∧
      ∀ written : String, Numeral.WritesWhole written.toList bound →
        ∀ surroundings : Table Value,
          (∀ characters : String,
            (Rule.ofBuiltIn .min).check (.text characters) [written] surroundings =
                .done (decide (bound ≤ characters.length)) ∧
              (Rule.ofBuiltIn .max).check (.text characters) [written] surroundings =
                .done (decide ((characters.length : Int) ≤ bound))) ∧
          ∀ whole : Int,
            (Rule.ofBuiltIn .min).check (.integer whole) [written] surroundings =
                .done (decide (bound ≤ whole)) ∧
              (Rule.ofBuiltIn .max).check (.integer whole) [written] surroundings =
                .done (decide (whole ≤ bound)) := by
  refine ⟨Numeral.writesWhole_toString bound, ?_⟩
  intro written writes surroundings
  simp only [check_min, check_max]
  refine ⟨?_, ?_⟩
  · intro characters
    have measured : measure (.text characters) = .size (some (.ofInt characters.length)) := rfl
    exact ⟨atLeast_of_measure writes small measured, atMost_of_measure writes small measured⟩
  · intro whole
    have measured : measure (.integer whole) = .size (some (.ofInt whole)) := rfl
    exact ⟨atLeast_of_measure writes small measured, atMost_of_measure writes small measured⟩

/-- The greatest bound, written in its usual way, lies above the whole number before it and below
the one behind it; a text meets a bound below zero, with zeros in front, however short it is. -/
theorem greatest_whole_bound_is_exact :
    let surroundings : Table Value := .empty
    let greatest : Int := 9007199254740992
    greatest.natAbs ≤ 2 ^ 53 ∧ (-7 : Int).natAbs ≤ 2 ^ 53 ∧
      Numeral.WritesWhole "-007".toList (-7) ∧
      (Rule.ofBuiltIn .min).check (.integer (greatest - 1)) [toString greatest] surroundings =
        .done false ∧
      (Rule.ofBuiltIn .max).check (.integer (greatest + 1)) [toString greatest] surroundings =
        .done false ∧
      (Rule.ofBuiltIn .min).check (.text "") ["-007"] surroundings = .done true := by
  intro surroundings greatest
  have small : greatest.natAbs ≤ 2 ^ 53 := by decide +kernel
  have smallBelow : (-7 : Int).natAbs ≤ 2 ^ 53 := by decide
  have digits : ['0', '0', '7'].all Text.isAsciiDigit = true := by decide
  have zeros : Numeral.WritesWhole "-007".toList (-7) :=
    .negative (by decide) (List.all_eq_true.mp digits)
  obtain ⟨usual, exact⟩ := whole_bounds_are_exact small
  obtain ⟨-, whole⟩ := exact _ usual surroundings
  obtain ⟨-, below⟩ := whole_bounds_are_exact smallBelow
  obtain ⟨texts, -⟩ := below "-007" zeros surroundings
  exact ⟨small, smallBelow, zeros, (whole _).1.trans rfl, (whole _).2.trans rfl,
    (texts "").1.trans rfl⟩

end BuiltIn

end FormCheck
