import FormCheck.Proofs.Template

/-!
# Defects of templates

A template is rendered piece by piece, and rendering ends with the first piece that cannot be
shown.  A flaw of the template cannot be shown, and a field cannot for one of five reasons: its
name starts from no argument, or leads on to no part of it; what it leads to is not converted;
the template in its layout has a defect of its own; or the layout does not suit what is laid out.

Which fields before have numbers decides how a field without a number is read, so a defect
depends on the pieces before it; nothing depends on those behind it.
-/

namespace FormCheck.Template

/-! ## The argument that a name starts from -/

/-- The number that a field without one gets, and how fields are numbered after it. -/
def Numbering.next? : Numbering → Option (Nat × Numbering)
  | .open => some (0, .automatic 1)
  | .automatic next => some (next, .automatic (next + 1))
  | .manual => none

/-- A root leads to an argument; fields are numbered in a way before, and in a way after. -/
inductive StartsFrom (arguments : Arguments) : Numbering → List Char → Value → Numbering → Prop
  | numbered {numbering : Numbering} {root : List Char} {index : Nat} {given : String}
      (written : number? root = .ok (some index)) (free : ∀ next, numbering ≠ .automatic next)
      (there : arguments.positional[index]? = some given) :
      StartsFrom arguments numbering root (.text given) .manual
  | unnumbered {numbering after : Numbering} {index : Nat} {given : String}
      (next : numbering.next? = some (index, after))
      (there : arguments.positional[index]? = some given) :
      StartsFrom arguments numbering [] (.text given) after
  | value (numbering : Numbering) :
      StartsFrom arguments numbering "value".toList arguments.value numbering

/-- A root leads to no argument. -/
inductive Unstarted (arguments : Arguments) : Numbering → List Char → TemplateFault → Prop
  | numberTooLong {numbering : Numbering} {root : List Char} {fault : TemplateFault}
      (written : number? root = .error fault) : Unstarted arguments numbering root fault
  | manualAfterAutomatic {root : List Char} {index : Nat} (next : Nat)
      (written : number? root = .ok (some index)) :
      Unstarted arguments (.automatic next) root .manualAfterAutomatic
  | numbered {numbering : Numbering} {root : List Char} {index : Nat}
      (written : number? root = .ok (some index)) (free : ∀ next, numbering ≠ .automatic next)
      (beyond : arguments.positional.length ≤ index) :
      Unstarted arguments numbering root (.positionMissing index)
  | automaticAfterManual : Unstarted arguments .manual [] .automaticAfterManual
  | unnumbered {numbering after : Numbering} {index : Nat}
      (next : numbering.next? = some (index, after))
      (beyond : arguments.positional.length ≤ index) :
      Unstarted arguments numbering [] (.positionMissing index)
  | nameMissing {numbering : Numbering} {root : List Char} (written : number? root = .ok none)
      (named : root ≠ []) (other : root ≠ "value".toList) :
      Unstarted arguments numbering root (.nameMissing root)

variable {arguments : Arguments} {numbering reached : Numbering} {name text : List Char}
  {value : Value} {fault : TemplateFault}

theorem run_start_nil :
    (start arguments []).run numbering =
      nextNumber.run numbering >>= fun next => (position arguments next.1).run next.2 := rfl

theorem run_nextNumber :
    nextNumber.run numbering =
      match numbering.next? with
      | some next => .ok next
      | none => .error .automaticAfterManual := by
  cases numbering <;> rfl

theorem run_start_of_startsFrom (starts : StartsFrom arguments numbering name value reached) :
    (start arguments name).run numbering = .ok (value, reached) := by
  cases starts with
  | numbered written free there =>
      rw [run_start_of_number written, run_ownNumber free, ok_bind, run_position, there]
  | unnumbered next there =>
      rw [run_start_nil, run_nextNumber, next, ok_bind, run_position, there]
  | value =>
      rfl

theorem run_start_of_unstarted (unstarted : Unstarted arguments numbering name fault) :
    (start arguments name).run numbering = .error fault := by
  cases unstarted with
  | numberTooLong written =>
      unfold start
      rw [written]
      rfl
  | manualAfterAutomatic next written =>
      rw [run_start_of_number written]
      rfl
  | numbered written free beyond =>
      rw [run_start_of_number written, run_ownNumber free, ok_bind, run_position,
        List.getElem?_eq_none_iff.mpr beyond]
  | automaticAfterManual =>
      rfl
  | unnumbered next beyond =>
      rw [run_start_nil, run_nextNumber, next, ok_bind, run_position,
        List.getElem?_eq_none_iff.mpr beyond]
  | nameMissing written named other =>
      unfold start
      rw [written]
      have present : name.isEmpty = false := List.isEmpty_eq_false_iff.mpr named
      simp only [present, if_neg other]
      rfl

/-- A root leads to an argument, or to none. -/
theorem startsFrom_or_unstarted (arguments : Arguments) (numbering : Numbering)
    (root : List Char) :
    (∃ value reached, StartsFrom arguments numbering root value reached) ∨
      ∃ fault, Unstarted arguments numbering root fault := by
  have found (index : Nat) : (∃ given, arguments.positional[index]? = some given) ∨
      arguments.positional.length ≤ index := by
    cases there : arguments.positional[index]? with
    | some given =>
        exact .inl ⟨given, rfl⟩
    | none =>
        exact .inr (List.getElem?_eq_none_iff.mp there)
  cases written : number? root with
  | error fault =>
      exact .inr ⟨fault, .numberTooLong written⟩
  | ok number =>
      cases number with
      | some index =>
          by_cases free : ∀ next, numbering ≠ .automatic next
          · rcases found index with ⟨given, there⟩ | beyond
            · exact .inl ⟨_, _, .numbered written free there⟩
            · exact .inr ⟨_, .numbered written free beyond⟩
          · obtain ⟨next, switched⟩ := not_forall_not.mp free
            subst switched
            exact .inr ⟨_, .manualAfterAutomatic next written⟩
      | none =>
          by_cases unnamed : root = []
          · subst unnamed
            cases next : numbering.next? with
            | none =>
                cases numbering with
                | «open» | automatic =>
                    cases next
                | manual =>
                    exact .inr ⟨_, .automaticAfterManual⟩
            | some step =>
                obtain ⟨index, after⟩ := step
                rcases found index with ⟨given, there⟩ | beyond
                · exact .inl ⟨_, _, .unnumbered next there⟩
                · exact .inr ⟨_, .unnumbered next beyond⟩
          · by_cases isValue : root = "value".toList
            · subst isValue
              exact .inl ⟨_, _, .value numbering⟩
            · exact .inr ⟨_, .nameMissing written unnamed isValue⟩

/-! ## What a name leads to -/

section Host

variable [Host] {target : Target}

/-- A name leads to a value or an object of the host. -/
inductive Leads (arguments : Arguments) (numbering : Numbering) (name : List Char) :
    Target → Numbering → Prop
  | intro {value : Value} {target : Target} {reached : Numbering}
      (starts : StartsFrom arguments numbering (root name) value reached)
      (walks : (steps name).foldlM take (.inl value) = .ok target) :
      Leads arguments numbering name target reached

/-- A name leads nowhere: its root leads to no argument, or the first step that cannot be taken
stands behind others. -/
inductive Misleads (arguments : Arguments) (numbering : Numbering) (name : List Char) :
    TemplateFault → Prop
  | root {fault : TemplateFault} (unstarted : Unstarted arguments numbering (root name) fault) :
      Misleads arguments numbering name fault
  | step {value : Value} {reached : Numbering} {before after : List Step} {step : Step}
      {target : Target} {fault : TemplateFault}
      (starts : StartsFrom arguments numbering (root name) value reached)
      (split : steps name = before ++ step :: after)
      (walks : before.foldlM take (.inl value) = .ok target)
      (stops : take target step = .error fault) : Misleads arguments numbering name fault

theorem run_resolve_of_leads (leads : Leads arguments numbering name target reached) :
    (resolve arguments name).run numbering = .ok (target, reached) := by
  obtain ⟨starts, walks⟩ := leads
  rw [run_resolve, run_start_of_startsFrom starts, ok_bind, walks]
  rfl

theorem run_resolve_of_misleads (misleads : Misleads arguments numbering name fault) :
    (resolve arguments name).run numbering = .error fault := by
  rw [run_resolve]
  cases misleads with
  | root unstarted =>
      rw [run_start_of_unstarted unstarted]
      rfl
  | step starts split walks stops =>
      rw [run_start_of_startsFrom starts, ok_bind, split, List.foldlM_append, walks, ok_bind,
        List.foldlM_cons, stops]
      rfl

/-- Steps are taken to the end, or up to one that cannot be taken. -/
theorem walk_cases (target : Target) (path : List Step) :
    (∃ last, path.foldlM take target = .ok last) ∨
      ∃ before step after last fault, path = before ++ step :: after ∧
        before.foldlM take target = .ok last ∧ take last step = .error fault := by
  induction path generalizing target with
  | nil =>
      exact .inl ⟨target, rfl⟩
  | cons step rest inductionHypothesis =>
      cases taken : take target step with
      | error fault =>
          exact .inr ⟨[], step, rest, target, fault, rfl, rfl, taken⟩
      | ok next =>
          have onwards (path : List Step) :
              (step :: path).foldlM take target = path.foldlM take next := by
            rw [List.foldlM_cons, taken]
            rfl
          rcases inductionHypothesis next with
            ⟨last, walks⟩ | ⟨before, stop, after, last, fault, split, walks, stops⟩
          · exact .inl ⟨last, (onwards rest).trans walks⟩
          · exact .inr ⟨step :: before, stop, after, last, fault, by rw [split, List.cons_append],
              (onwards before).trans walks, stops⟩

/-- A name leads somewhere or nowhere. -/
theorem leads_or_misleads (arguments : Arguments) (numbering : Numbering) (name : List Char) :
    (∃ target reached, Leads arguments numbering name target reached) ∨
      ∃ fault, Misleads arguments numbering name fault := by
  rcases startsFrom_or_unstarted arguments numbering (root name) with
    ⟨value, reached, starts⟩ | ⟨fault, unstarted⟩
  · rcases walk_cases (.inl value) (steps name) with
      ⟨target, walks⟩ | ⟨before, step, after, target, fault, split, walks, stops⟩
    · exact .inl ⟨target, reached, .intro starts walks⟩
    · exact .inr ⟨fault, .step starts split walks stops⟩
  · exact .inr ⟨fault, .root unstarted⟩

/-! ## Pieces -/

/-- Why a piece cannot be shown.  `Inside` says why the template in a layout cannot be rendered,
which `expand` renders. -/
inductive Defect (Inside : Numbering → List Char → TemplateFault → Prop)
    (expand : List Char → Rendering (List Char)) (arguments : Arguments) (numbering : Numbering) :
    Piece → TemplateFault → Prop
  | flaw (fault : TemplateFault) : Defect Inside expand arguments numbering (.flaw fault) fault
  | name {field : Field} {fault : TemplateFault}
      (misleads : Misleads arguments numbering field.name fault) :
      Defect Inside expand arguments numbering (.field field) fault
  | conversion {field : Field} {target : Target} {reached : Numbering} {fault : TemplateFault}
      (leads : Leads arguments numbering field.name target reached)
      (unconverted : convert target field.conversion = .error fault) :
      Defect Inside expand arguments numbering (.field field) fault
  | inside {field : Field} {target converted : Target} {reached : Numbering}
      {fault : TemplateFault} (leads : Leads arguments numbering field.name target reached)
      (converts : convert target field.conversion = .ok converted)
      (fields : field.layout.contains '\x7b' = true)
      (unexpanded : Inside reached field.layout fault) :
      Defect Inside expand arguments numbering (.field field) fault
  | layout {field : Field} {target converted : Target} {reached next : Numbering}
      {layout : List Char} {fault : TemplateFault}
      (leads : Leads arguments numbering field.name target reached)
      (converts : convert target field.conversion = .ok converted)
      (expands : layoutRun expand field.layout reached = .ok (layout, next))
      (unlaid : layOut layout converted = .error fault) :
      Defect Inside expand arguments numbering (.field field) fault

variable {Inside : Numbering → List Char → TemplateFault → Prop}
  {expand : List Char → Rendering (List Char)}

theorem run_renderPiece_of_leads {field : Field}
    (leads : Leads arguments numbering field.name target reached) :
    (renderPiece expand arguments (.field field)).run numbering = do
      let converted ← convert target field.conversion
      let (layout, next) ← layoutRun expand field.layout reached
      return (← layOut layout converted, next) := by
  rw [run_renderPiece_field, run_resolve_of_leads leads]
  rfl

/-- A piece cannot be shown for its defect. -/
theorem run_renderPiece_eq_error_iff
    (inside : ∀ numbering layout fault,
      (expand layout).run numbering = .error fault ↔ Inside numbering layout fault)
    {piece : Piece} :
    (renderPiece expand arguments piece).run numbering = .error fault ↔
      Defect Inside expand arguments numbering piece fault := by
  constructor
  · intro failed
    cases piece with
    | literal text =>
        cases failed
    | flaw fault =>
        cases failed
        exact .flaw fault
    | field field =>
        rcases leads_or_misleads arguments numbering field.name with
          ⟨target, reached, leads⟩ | ⟨reason, misleads⟩
        · rw [run_renderPiece_of_leads leads] at failed
          rcases bind_error_cases failed with unconverted | ⟨converted, converts, later⟩
          · exact .conversion leads unconverted
          rcases bind_error_cases later with unexpanded | ⟨⟨layout, next⟩, expands, last⟩
          · unfold layoutRun at unexpanded
            split at unexpanded
            · next fields =>
              exact .inside leads converts fields ((inside _ _ _).mp unexpanded)
            · cases unexpanded
          rcases bind_error_cases last with unlaid | ⟨_, -, done⟩
          · exact .layout leads converts expands unlaid
          · cases done
        · rw [run_renderPiece_field, run_resolve_of_misleads misleads] at failed
          cases failed
          exact .name misleads
  · intro defect
    cases defect with
    | flaw =>
        rfl
    | name misleads =>
        rw [run_renderPiece_field, run_resolve_of_misleads misleads]
        rfl
    | conversion leads unconverted =>
        rw [run_renderPiece_of_leads leads, unconverted]
        rfl
    | inside leads converts fields unexpanded =>
        rw [run_renderPiece_of_leads leads, converts, layoutRun, if_pos fields,
          (inside _ _ _).mpr unexpanded]
        rfl
    | layout leads converts expands unlaid =>
        simp only [run_renderPiece_of_leads leads, converts, expands, ok_bind, unlaid, error_bind]

/-- Pieces are shown one after another; fields are numbered in a way before, and in a way
after. -/
inductive Shown (expand : List Char → Rendering (List Char)) (arguments : Arguments) :
    Numbering → List Piece → Numbering → Prop
  | none (numbering : Numbering) : Shown expand arguments numbering [] numbering
  | next {numbering reached last : Numbering} {piece : Piece} {pieces : List Piece}
      {text : List Char}
      (shows : (renderPiece expand arguments piece).run numbering = .ok (text, reached))
      (later : Shown expand arguments reached pieces last) :
      Shown expand arguments numbering (piece :: pieces) last

/-- Some piece of a template has a defect, and the pieces before it are shown. -/
def FirstDefect (arguments : Arguments) :
    (depth : Nat) → Numbering → List Char → TemplateFault → Prop
  | 0, _, _, fault => fault = .nestedTooDeep
  | depth + 1, numbering, text, fault =>
      ∃ before piece after reached, read text = before ++ piece :: after ∧
        Shown (renderTo arguments depth) arguments numbering before reached ∧
        Defect (FirstDefect arguments depth) (renderTo arguments depth) arguments reached piece
          fault

theorem mapM_eq_error_iff
    (inside : ∀ numbering layout fault,
      (expand layout).run numbering = .error fault ↔ Inside numbering layout fault)
    {pieces : List Piece} :
    (pieces.mapM (renderPiece expand arguments)).run numbering = .error fault ↔
      ∃ before piece after reached, pieces = before ++ piece :: after ∧
        Shown expand arguments numbering before reached ∧
        Defect Inside expand arguments reached piece fault := by
  induction pieces generalizing numbering with
  | nil =>
      refine iff_of_false nofun ?_
      rintro ⟨before, piece, after, -, impossible, -⟩
      simp at impossible
  | cons first rest inductionHypothesis =>
      rw [List.mapM_cons, StateT.run_bind]
      constructor
      · intro failed
        rcases bind_error_cases failed with here | ⟨⟨text, reached⟩, shows, later⟩
        · exact ⟨[], first, rest, numbering, rfl, .none numbering,
            (run_renderPiece_eq_error_iff inside).mp here⟩
        · rw [StateT.run_bind] at later
          rcases bind_error_cases later with failedLater | ⟨_, -, done⟩
          · obtain ⟨before, piece, after, last, split, shown, defect⟩ :=
              inductionHypothesis.mp failedLater
            exact ⟨first :: before, piece, after, last, by rw [split, List.cons_append],
              .next shows shown, defect⟩
          · cases done
      · rintro ⟨before, piece, after, reached, split, shown, defect⟩
        cases shown with
        | none =>
            cases split
            rw [(run_renderPiece_eq_error_iff inside).mpr defect]
            rfl
        | next shows later =>
            cases split
            have failedLater := inductionHypothesis.mpr
              ⟨_, piece, after, reached, rfl, later, defect⟩
            rw [shows, ok_bind, StateT.run_bind, failedLater, error_bind]

/-- Rendering a template fails for its first defect. -/
theorem run_renderTo_eq_error_iff (arguments : Arguments) (depth : Nat) (numbering : Numbering)
    (text : List Char) (fault : TemplateFault) :
    (renderTo arguments depth text).run numbering = .error fault ↔
      FirstDefect arguments depth numbering text fault := by
  induction depth generalizing numbering text fault with
  | zero =>
      exact ⟨fun failed => (Except.error.inj failed).symm, fun same => congrArg _ same.symm⟩
  | succ depth inductionHypothesis =>
      rw [renderTo, StateT.run_bind, FirstDefect, ← mapM_eq_error_iff inductionHypothesis]
      constructor
      · intro failed
        rcases bind_error_cases failed with here | ⟨_, -, done⟩
        · exact here
        · cases done
      · intro failed
        rw [failed]
        rfl

theorem render_eq_error_iff (text : List Char) (arguments : Arguments) (fault : TemplateFault) :
    render text arguments = .error fault ↔ FirstDefect arguments 2 .open text fault := by
  rw [render, map_eq_error_iff, run_renderTo_eq_error_iff]

end Host

end FormCheck.Template
