import FormCheck.Proofs.Outcomes
import FormCheck.Template
import Mathlib.Data.List.TakeDrop
import Mathlib.Data.List.TakeWhile

/-!
# Templates of simple fields

A simple template is put together from literal texts, the field of the value and the fields
of arguments by their numbers; every brace of a literal text is doubled.  Such a template is
rendered in one pass: each part is replaced by its own text, and what is put in for a field
is never looked at again, whatever braces it contains.  Two things can go wrong: there is no
argument with a number, or the value is not writable; the first fault is reported.
-/

namespace FormCheck

namespace Layout

/-! ## Numbers -/

theorem digitValue?_digitChar {digit : Nat} (small : digit < 10) :
    Text.digitValue? digit.digitChar = some digit := by
  have each : ∀ digit < 10, Text.digitValue? digit.digitChar = some digit := by
    decide
  exact each digit small

theorem takeNumber_append {left : List Char} {sofar reached : Option Nat}
    (read : takeNumber sofar left = .ok (reached, [])) (right : List Char) :
    takeNumber sofar (left ++ right) = takeNumber reached right := by
  induction left generalizing sofar with
  | nil =>
      cases read
      rfl
  | cons c rest inductionHypothesis =>
      rw [List.cons_append, takeNumber]
      rw [takeNumber] at read
      cases digit : Text.digitValue? c with
      | none =>
          simp [digit] at read
      | some value =>
          simp only [digit] at read ⊢
          split at read
          · cases read
          · next within =>
            rw [if_neg within]
            exact inductionHypothesis read

theorem takeNumber_digit {digit : Nat} (small : digit < 10) {sofar : Option Nat}
    (within : 10 * sofar.getD 0 + digit ≤ greatestNumber) :
    takeNumber sofar [digit.digitChar] = .ok (some (10 * sofar.getD 0 + digit), []) := by
  simp only [takeNumber, digitValue?_digitChar small, Nat.not_lt.mpr within, ↓reduceIte]

theorem takeNumber_decimalDigits {number : Nat} (within : number ≤ greatestNumber) :
    takeNumber none (decimalDigits number) = .ok (some number, []) := by
  induction number using Nat.strongRecOn with
  | ind number inductionHypothesis =>
      rw [decimalDigits]
      by_cases small : number < 10
      · rw [Nat.toDigits_of_lt_base small, takeNumber_digit small (by simpa using within)]
        simp
      · have large : 10 ≤ number := Nat.not_lt.mp small
        have leading := inductionHypothesis (number / 10) (by omega) (by omega)
        have last : number % 10 < 10 := Nat.mod_lt _ (by omega)
        have value : 10 * (some (number / 10)).getD 0 + number % 10 = number :=
          Nat.div_add_mod number 10
        rw [Nat.toDigits_of_base_le (by omega) large, ← decimalDigits,
          takeNumber_append leading, takeNumber_digit last (by omega), value]

end Layout

namespace Template

/-! ## Parts -/

inductive Part where
  | literal (text : List Char)
  | value
  | argument (index : Nat)

/-- A literal text with its braces doubled. -/
def doubled (text : List Char) : List Char :=
  text.flatMap fun c => if c = '\x7b' ∨ c = '\x7d' then [c, c] else [c]

/-- The field with a name and nothing else. -/
def bare (name : List Char) : List Char :=
  '\x7b' :: (name ++ ['\x7d'])

theorem bare_append (name rest : List Char) :
    bare name ++ rest = '\x7b' :: (name ++ '\x7d' :: rest) := by
  rw [bare, List.cons_append, List.append_assoc, List.singleton_append]

namespace Part

def written : Part → List Char
  | .literal text => doubled text
  | .value => bare ['v', 'a', 'l', 'u', 'e']
  | .argument index => bare (decimalDigits index)

/-- The text that takes the place of a part. -/
def filled (arguments : Arguments) : Part → Except TemplateFault (List Char)
  | .literal text => .ok text
  | .value =>
      if arguments.value.isWritable then
        .ok arguments.value.display
      else
        .error (.layout .tooManyDigits)
  | .argument index =>
      match arguments.positional[index]? with
      | some given => .ok given.toList
      | none => .error (.positionMissing index)

end Part

def written (parts : List Part) : List Char :=
  parts.flatMap Part.written

theorem written_cons (part : Part) (rest : List Part) :
    written (part :: rest) = part.written ++ written rest :=
  List.flatMap_cons

/-- The texts of parts one after another, up to a part that has none. -/
def filled (arguments : Arguments) : List Part → Except TemplateFault (List Char)
  | [] => .ok []
  | part :: rest => do
      let text ← part.filled arguments
      return text ++ (← filled arguments rest)

/-- The text of a part for which there is an argument. -/
def Part.shown (arguments : Arguments) : Part → List Char
  | .literal text => text
  | .value => arguments.value.display
  | .argument index => (arguments.positional.getD index "").toList

theorem Part.filled_eq_shown {arguments : Arguments} {part : Part}
    (below : ∀ index, part = .argument index → index < arguments.positional.length)
    (writable : part = .value → arguments.value.isWritable = true) :
    part.filled arguments = .ok (part.shown arguments) := by
  cases part with
  | literal text =>
      rfl
  | value =>
      rw [filled, if_pos (writable rfl), shown]
  | argument index =>
      simp [filled, shown, below index rfl]

theorem filled_cons (part : Part) (rest : List Part) (arguments : Arguments) :
    filled arguments (part :: rest) = do
      let text ← part.filled arguments
      return text ++ (← filled arguments rest) := rfl

theorem filled_eq_shown {parts : List Part} {arguments : Arguments}
    (below : ∀ index, .argument index ∈ parts → index < arguments.positional.length)
    (writable : .value ∈ parts → arguments.value.isWritable = true) :
    filled arguments parts = .ok (parts.flatMap (Part.shown arguments)) := by
  induction parts with
  | nil =>
      rfl
  | cons part rest inductionHypothesis =>
      have own : part.filled arguments = .ok (part.shown arguments) :=
        Part.filled_eq_shown (fun index same => below index (same ▸ List.mem_cons_self))
          fun same => writable (same ▸ List.mem_cons_self)
      have later := inductionHypothesis
        (fun index member => below index (List.mem_cons_of_mem _ member))
        fun member => writable (List.mem_cons_of_mem _ member)
      rw [filled_cons, own, later]
      rfl

/-! ## Names and numbers -/

/-- A character of a name that ends no name, opens no brackets and leads to no attribute. -/
def NameChar (c : Char) : Prop :=
  c ∉ ['\x7b', '\x7d', ':', '!', '[', '.']

theorem takeName_simple {name : List Char} (simple : ∀ c ∈ name, NameChar c)
    (rest : List Char) :
    takeName false (name ++ '\x7d' :: rest) = .ok (name, '\x7d', rest) := by
  induction name with
  | nil =>
      rfl
  | cons c others inductionHypothesis =>
      obtain ⟨isName, later⟩ := List.forall_mem_cons.mp simple
      have named := inductionHypothesis later
      simp only [NameChar, List.mem_cons, List.not_mem_nil, or_false, not_or] at isName
      obtain ⟨noOpening, noClosing, noColon, noMark, noBracket, -⟩ := isName
      have unbracketed : (c == '[') = false := beq_eq_false_iff_ne.mpr noBracket
      simp [takeName, noOpening, noClosing, noColon, noMark, unbracketed, named, bind, Except.bind,
        pure, Except.pure]

theorem takeField_simple {name : List Char} (simple : ∀ c ∈ name, NameChar c)
    (rest : List Char) :
    takeField (name ++ '\x7d' :: rest) = .ok (⟨name, none, []⟩, rest) := by
  simp only [takeField, takeName_simple simple, bind, Except.bind]
  rfl

theorem nameChar_of_mem_decimalDigits {index : Nat} {c : Char}
    (member : c ∈ decimalDigits index) : NameChar c := by
  have digit : c.isDigit = true := Nat.isDigit_of_mem_toDigits (by omega) (by omega) member
  intro special
  simp only [List.mem_cons, List.not_mem_nil, or_false] at special
  rcases special with rfl | rfl | rfl | rfl | rfl | rfl <;> exact absurd digit (by decide)

theorem run_ownNumber {numbering : Numbering}
    (free : ∀ next, numbering ≠ .automatic next) :
    ownNumber.run numbering = .ok ((), .manual) := by
  cases numbering with
  | automatic next =>
      exact absurd rfl (free next)
  | «open» | manual =>
      rfl

theorem run_position (arguments : Arguments) (index : Nat) (numbering : Numbering) :
    (position arguments index).run numbering =
      match arguments.positional[index]? with
      | some given => .ok (.text given, numbering)
      | none => .error (.positionMissing index) := by
  unfold position
  cases arguments.positional[index]? <;> rfl

theorem run_liftM {α : Type} (outcome : Except TemplateFault α) (numbering : Numbering) :
    (liftM outcome : Rendering α).run numbering = outcome.map (·, numbering) := by
  cases outcome <;> rfl

theorem readPieces_field {name : List Char} (nonempty : name ≠ [])
    (simple : ∀ c ∈ name, NameChar c) (fuel : Nat) (rest : List Char) :
    readPieces (fuel + 1) (bare name ++ rest) =
      .literal [] :: .field ⟨name, none, []⟩ :: readPieces fuel rest := by
  rw [bare_append]
  match name, nonempty with
  | c :: others, _ =>
      have noBrace : c ≠ '\x7b' := by
        have isName := simple c List.mem_cons_self
        simp only [NameChar, List.mem_cons, not_or] at isName
        exact isName.1
      have field := takeField_simple simple rest
      rw [List.cons_append] at field ⊢
      have cut : ('\x7b' :: c :: (others ++ '\x7d' :: rest)).span
            (fun c => c != '\x7b' && c != '\x7d') =
          ([], '\x7b' :: c :: (others ++ '\x7d' :: rest)) := rfl
      have opening : ('\x7b' == '\x7d') = false := rfl
      rw [readPieces, cut]
      simp only [opening]
      -- The name does not begin with a brace, so only the last way to read on is left.
      split <;> simp_all

theorem run_start_of_number {arguments : Arguments} {name : List Char} {index : Nat}
    (written : number? name = .ok (some index)) (numbering : Numbering) :
    (start arguments name).run numbering =
      ownNumber.run numbering >>= fun after => (position arguments index).run after.2 := by
  unfold start
  rw [written]
  rfl

/-! ## Rendering pieces -/

section Rendering

variable [Host] {arguments : Arguments} {expand : List Char → Rendering (List Char)}
  {numbering : Numbering} {text rest : List Char} {outcome : Except TemplateFault (List Char)}

def rendered (expand : List Char → Rendering (List Char)) (arguments : Arguments)
    (pieces : List Piece) (numbering : Numbering) : Except TemplateFault (List Char) :=
  ((pieces.mapM (renderPiece expand arguments)).run numbering).map fun result =>
    result.1.flatten

theorem rendered_cons (piece : Piece) (pieces : List Piece) :
    rendered expand arguments (piece :: pieces) numbering = do
      let (text, next) ← (renderPiece expand arguments piece).run numbering
      return text ++ (← rendered expand arguments pieces next) := by
  simp only [rendered, List.mapM_cons, StateT.run_bind]
  cases (renderPiece expand arguments piece).run numbering with
  | error fault =>
      rfl
  | ok result =>
      obtain ⟨text, next⟩ := result
      simp only [bind, Except.bind]
      cases (pieces.mapM (renderPiece expand arguments)).run next <;> rfl

theorem rendered_literal (pieces : List Piece) :
    rendered expand arguments (.literal text :: pieces) numbering =
      (rendered expand arguments pieces numbering).map (text ++ ·) := by
  have piece : (renderPiece expand arguments (.literal text)).run numbering =
      .ok (text, numbering) := rfl
  rw [rendered_cons, piece]
  simp only [bind, Except.bind]
  cases rendered expand arguments pieces numbering <;> rfl

theorem rendered_literal_cons (c : Char) (pieces : List Piece) :
    rendered expand arguments (.literal (c :: text) :: pieces) numbering =
      (rendered expand arguments (.literal text :: pieces) numbering).map (c :: ·) := by
  rw [rendered_literal, rendered_literal]
  cases rendered expand arguments pieces numbering <;> rfl

theorem rendered_flaw (fault : TemplateFault) (pieces : List Piece) :
    rendered expand arguments (.flaw fault :: pieces) numbering = .error fault := by
  rw [rendered_cons]
  rfl

/-- Rendering what is read from a text, with enough fuel, comes to an outcome. -/
def Yields (expand : List Char → Rendering (List Char)) (arguments : Arguments)
    (numbering : Numbering) (text : List Char) (outcome : Except TemplateFault (List Char)) :
    Prop :=
  ∀ fuel, text.length < fuel →
    rendered expand arguments (readPieces fuel text) numbering = outcome

namespace Yields

theorem nil : Yields expand arguments numbering [] (.ok []) := by
  intro fuel enough
  match fuel, enough with
  | fuel + 1, _ =>
      rfl

/-- A character that is no brace belongs to the literal text around it. -/
theorem plain {c : Char} (noBrace : c ≠ '\x7b' ∧ c ≠ '\x7d')
    (yields : Yields expand arguments numbering rest outcome) :
    Yields expand arguments numbering (c :: rest) (outcome.map (c :: ·)) := by
  intro fuel enough
  match fuel, enough with
  | fuel + 1, enough =>
      have shorter : rest.length < fuel + 1 := by
        rw [List.length_cons] at enough
        omega
      have isPlain : (c != '\x7b' && c != '\x7d') = true := by
        simpa using noBrace
      have cut : (c :: rest).span (fun c => c != '\x7b' && c != '\x7d') =
          (c :: (rest.span fun c => c != '\x7b' && c != '\x7d').1,
            (rest.span fun c => c != '\x7b' && c != '\x7d').2) := by
        simp [List.span_eq_takeWhile_dropWhile, isPlain]
      rw [← yields (fuel + 1) shorter, readPieces, readPieces, cut]
      -- Both readings go on alike; the one has the character in front of its literal text.
      cases rest.span fun c => c != '\x7b' && c != '\x7d' with
      | mk literal tail =>
          cases tail with
          | nil =>
              cases literal <;> rfl
          | cons brace behind =>
              simp only
              split
              · exact rendered_literal_cons c _
              · exact rendered_flaw _ _
              · exact rendered_flaw _ _
              · exact rendered_literal_cons c _
              · split
                · exact rendered_flaw _ _
                · exact rendered_literal_cons c _

theorem brace {c : Char} (isBrace : c = '\x7b' ∨ c = '\x7d')
    (yields : Yields expand arguments numbering rest outcome) :
    Yields expand arguments numbering (c :: c :: rest) (outcome.map (c :: ·)) := by
  intro fuel enough
  match fuel, enough with
  | fuel + 1, enough =>
      have shorter : rest.length < fuel := by
        simp only [List.length_cons] at enough
        omega
      have read : readPieces (fuel + 1) (c :: c :: rest) =
          .literal [c] :: readPieces fuel rest := by
        rcases isBrace with rfl | rfl <;> simp [readPieces, List.span_eq_takeWhile_dropWhile]
      rw [read, rendered_literal, yields fuel shorter]
      rfl

theorem doubled (text : List Char) (yields : Yields expand arguments numbering rest outcome) :
    Yields expand arguments numbering (doubled text ++ rest) (outcome.map (text ++ ·)) := by
  induction text with
  | nil =>
      have same : outcome.map (fun later => [] ++ later) = outcome := by
        cases outcome <;> rfl
      rw [same]
      exact yields
  | cons c others inductionHypothesis =>
      have step : outcome.map (fun later => (c :: others) ++ later) =
          (outcome.map (others ++ ·)).map (c :: ·) := by
        cases outcome <;> rfl
      rw [step, Template.doubled, List.flatMap_cons, List.append_assoc]
      by_cases isBrace : c = '\x7b' ∨ c = '\x7d'
      · rw [if_pos isBrace]
        exact inductionHypothesis.brace isBrace
      · rw [if_neg isBrace]
        exact inductionHypothesis.plain (not_or.mp isBrace)

end Yields

/-! ## Fields -/

/-- The characters of a name that say which argument it starts from. -/
def root (name : List Char) : List Char :=
  name.takeWhile fun c => c != '.' && c != '['

/-- The steps that lead from the argument to a part of it. -/
def steps (name : List Char) : List Step :=
  let path := name.dropWhile fun c => c != '.' && c != '['
  readSteps (path.length + 1) path

theorem run_resolve (arguments : Arguments) (numbering : Numbering) (name : List Char) :
    (resolve arguments name).run numbering =
      (start arguments (root name)).run numbering >>= fun begun =>
        ((steps name).foldlM take (.inl begun.1)).map (·, begun.2) := by
  have spans : name.span (fun c => c != '.' && c != '[') =
      (root name, name.dropWhile fun c => c != '.' && c != '[') :=
    List.span_eq_takeWhile_dropWhile _ _
  simp only [resolve, spans, StateT.run_bind, run_liftM]
  rfl

theorem resolve_value :
    (resolve arguments ['v', 'a', 'l', 'u', 'e']).run numbering =
      .ok (.inl arguments.value, numbering) := rfl

/-- The digits of a number lead to the argument with this number, unless fields were
numbered without their numbers before. -/
theorem resolve_index (arguments : Arguments) {index : Nat} (within : index ≤ Layout.greatestNumber)
    (free : ∀ next, numbering ≠ .automatic next) :
    (resolve arguments (decimalDigits index)).run numbering =
      match arguments.positional[index]? with
      | some given => .ok (.inl (.text given), .manual)
      | none => .error (.positionMissing index) := by
  have all : ∀ c ∈ decimalDigits index, (c != '.' && c != '[') = true := by
    intro c member
    have simple := nameChar_of_mem_decimalDigits member
    simp only [NameChar, List.mem_cons, not_or] at simple
    simp [simple]
  have whole : root (decimalDigits index) = decimalDigits index :=
    List.takeWhile_eq_self_iff.mpr all
  have halts : steps (decimalDigits index) = [] := by
    rw [steps, List.dropWhile_eq_nil_iff.mpr all]
    rfl
  have number : number? (decimalDigits index) = .ok (some index) := by
    rw [number?, Layout.takeNumber_decimalDigits within]
    rfl
  rw [run_resolve, whole, halts, run_start_of_number number, run_ownNumber free]
  rw [ok_bind, run_position]
  cases arguments.positional[index]? <;> rfl

/-- What a field is laid out by, with the fields in it filled in. -/
def layoutRun (expand : List Char → Rendering (List Char)) (layout : List Char)
    (numbering : Numbering) : Except TemplateFault (List Char × Numbering) :=
  if layout.contains '\x7b' then (expand layout).run numbering else .ok (layout, numbering)

theorem run_renderPiece_field (field : Field) :
    (renderPiece expand arguments (.field field)).run numbering = do
      let (target, reached) ← (resolve arguments field.name).run numbering
      let converted ← convert target field.conversion
      let (layout, next) ← layoutRun expand field.layout reached
      return (← layOut layout converted, next) := by
  by_cases nested : field.layout.contains '\x7b' = true
  · simp only [renderPiece, layoutRun, nested, ↓reduceIte, StateT.run_bind, run_liftM]
    congr 1
    funext ⟨target, reached⟩
    cases convert target field.conversion with
    | error fault =>
        rfl
    | ok converted =>
        simp only [Except.map, bind, Except.bind]
        cases (expand field.layout).run reached <;> rfl
  · simp only [renderPiece, layoutRun, nested, StateT.run_bind, run_liftM]
    congr 1
    funext ⟨target, reached⟩
    cases convert target field.conversion <;> rfl

/-- A field without a conversion and a layout shows what its name leads to as it is. -/
theorem run_renderPiece_bare (name : List Char) :
    (renderPiece expand arguments (.field ⟨name, none, []⟩)).run numbering =
      (resolve arguments name).run numbering >>= fun result =>
        (layOut [] result.1).map (·, result.2) := by
  rw [run_renderPiece_field]
  rfl

theorem layOut_nil (content : Value) :
    layOut [] (.inl content) =
      if content.isWritable then .ok content.display else .error (.layout .tooManyDigits) := by
  simp only [layOut, Value.laidOut]
  cases content.isWritable <;> cases content <;> rfl

namespace Yields

theorem field {name : List Char} (nonempty : name ≠ []) (simple : ∀ c ∈ name, NameChar c)
    {content : Value} {next : Numbering}
    (resolved : (resolve arguments name).run numbering = .ok (.inl content, next))
    (writable : content.isWritable = true) (yields : Yields expand arguments next rest outcome) :
    Yields expand arguments numbering (bare name ++ rest)
      (outcome.map (content.display ++ ·)) := by
  intro fuel enough
  match fuel, enough with
  | fuel + 1, enough =>
      have shorter : rest.length < fuel := by
        rw [bare_append, List.length_cons, List.length_append, List.length_cons] at enough
        omega
      rw [readPieces_field nonempty simple, rendered_literal, rendered_cons, run_renderPiece_bare,
        resolved]
      simp only [Except.map, bind, Except.bind, layOut_nil, writable, ↓reduceIte,
        yields fuel shorter]
      cases outcome <;> rfl

theorem unshown {name : List Char} (nonempty : name ≠ []) (simple : ∀ c ∈ name, NameChar c)
    {fault : TemplateFault}
    (failed : (renderPiece expand arguments (.field ⟨name, none, []⟩)).run numbering =
      .error fault) (rest : List Char) :
    Yields expand arguments numbering (bare name ++ rest) (.error fault) := by
  intro fuel enough
  match fuel, enough with
  | fuel + 1, _ =>
      rw [readPieces_field nonempty simple, rendered_literal, rendered_cons, failed]
      rfl

/-- Parts are filled in from left to right; the numbers of their fields are their own. -/
theorem parts {parts : List Part}
    (numbered : ∀ index, .argument index ∈ parts → index ≤ Layout.greatestNumber)
    (free : ∀ next, numbering ≠ .automatic next) :
    Yields expand arguments numbering (written parts) (filled arguments parts) := by
  induction parts generalizing numbering with
  | nil =>
      exact nil
  | cons part rest inductionHypothesis =>
      have later : ∀ index, .argument index ∈ rest → index ≤ Layout.greatestNumber :=
        fun index member => numbered index (List.mem_cons_of_mem _ member)
      rw [written_cons]
      cases part with
      | literal text =>
          exact (inductionHypothesis later free).doubled text
      | value =>
          have simple : ∀ c ∈ ['v', 'a', 'l', 'u', 'e'], NameChar c := by
            simp [NameChar]
          rw [Part.written, filled_cons, Part.filled]
          cases writable : arguments.value.isWritable with
          | true =>
              exact (inductionHypothesis later free).field (List.cons_ne_nil _ _) simple
                resolve_value writable
          | false =>
              refine unshown (List.cons_ne_nil _ _) simple ?_ _
              rw [run_renderPiece_bare, resolve_value]
              simp only [bind, Except.bind, layOut_nil, writable]
              rfl
      | argument index =>
          have resolved := resolve_index arguments (numbered index List.mem_cons_self) free
          have nonempty : decimalDigits index ≠ [] := Nat.toDigits_ne_nil
          have simple : ∀ c ∈ decimalDigits index, NameChar c :=
            fun c member => nameChar_of_mem_decimalDigits member
          rw [Part.written, filled_cons, Part.filled]
          cases given : arguments.positional[index]? with
          | none =>
              rw [given] at resolved
              refine unshown nonempty simple ?_ _
              rw [run_renderPiece_bare, resolved]
              rfl
          | some text =>
              rw [given] at resolved
              exact (inductionHypothesis later (by simp)).field nonempty simple resolved rfl

end Yields

end Rendering

/-! ## Simple templates -/

section Simple

variable [Host]

theorem render_eq_rendered (text : List Char) (arguments : Arguments) :
    render text arguments = rendered (renderTo arguments 1) arguments (read text) .open := by
  have outer : renderTo arguments 2 text =
      (do
        let texts ← (read text).mapM (renderPiece (renderTo arguments 1) arguments)
        return texts.flatten) := rfl
  rw [render, rendered, outer, StateT.run_bind]
  cases ((read text).mapM (renderPiece (renderTo arguments 1) arguments)).run .open <;> rfl

/-- A simple template is rendered part by part. -/
theorem render_written (parts : List Part) (arguments : Arguments)
    (numbered : ∀ index, .argument index ∈ parts → index ≤ Layout.greatestNumber) :
    render (written parts) arguments = filled arguments parts := by
  rw [render_eq_rendered]
  exact Yields.parts numbered (by simp) _ (Nat.lt_succ_self _)

/-- The parts ask only for arguments that there are, and for the value only if it is writable.
There are never more arguments than can be numbered. -/
structure Fits (parts : List Part) (arguments : Arguments) : Prop where
  below : ∀ index, .argument index ∈ parts → index < arguments.positional.length
  countable : arguments.positional.length ≤ Layout.greatestNumber
  writable : .value ∈ parts → arguments.value.isWritable = true

/-- What is put in for the value and the arguments is shown as it is, whatever braces are in
it. -/
theorem render_written_of_fits {parts : List Part} {arguments : Arguments}
    (fits : Fits parts arguments) :
    render (written parts) arguments = .ok (parts.flatMap (Part.shown arguments)) := by
  have numbered : ∀ index, .argument index ∈ parts → index ≤ Layout.greatestNumber :=
    fun index member => le_trans (fits.below index member).le fits.countable
  rw [render_written parts arguments numbered, filled_eq_shown fits.below fits.writable]

end Simple

/-- Filling in parts with a writable value fails only for an argument that there is none of. -/
theorem filled_eq_error {parts : List Part} {arguments : Arguments} {fault : TemplateFault}
    (writable : arguments.value.isWritable = true)
    (failed : filled arguments parts = .error fault) :
    ∃ index, .argument index ∈ parts ∧ arguments.positional.length ≤ index ∧
      fault = .positionMissing index := by
  induction parts with
  | nil =>
      cases failed
  | cons part rest inductionHypothesis =>
      rw [filled_cons] at failed
      rcases bind_error_cases failed with own | ⟨text, -, later⟩
      · cases part with
        | literal text =>
            cases own
        | value =>
            rw [Part.filled, if_pos writable] at own
            cases own
        | argument index =>
            simp only [Part.filled] at own
            split at own
            · cases own
            · next absent =>
              exact ⟨index, List.mem_cons_self, List.getElem?_eq_none_iff.mp absent,
                (Except.error.inj own).symm⟩
      · rcases bind_error_cases later with unfilled | ⟨others, -, impossible⟩
        · obtain ⟨index, member, beyond⟩ := inductionHypothesis unfilled
          exact ⟨index, List.mem_cons_of_mem _ member, beyond⟩
        · cases impossible

end Template

end FormCheck
