import FormCheck.Template.LaidOut

/-!
# Message templates

A template is text with fields between braces; a brace that is text is doubled.

    {field!conversion:layout}

The field names an argument, by its number, by nothing at all (then fields are
numbered from left to right) or by the word `value`, and may go on to a part of
it with `.attribute` and `[key]`.  The conversion shows the value in the notation
of values.  The layout may itself contain fields, one level deep.

A template is read into pieces up to its first flaw, and the flaw is the last
piece.  So rendering meets flaws and missing arguments in the order in which they
stand in the template.  What is put in for a field is never read as a template.
-/

namespace FormCheck

/-- Why a template cannot be rendered. -/
inductive TemplateFault where
  | singleOpening
  | singleClosing
  | openingInName
  | fieldUnclosed
  | layoutUnclosed
  | conversionMissing
  | colonExpected
  | nestedTooDeep
  | automaticAfterManual
  | manualAfterAutomatic
  | stepEmpty
  | stepExpected
  | bracketUnclosed
  | conversionUnknown (conversion : Char)
  | positionMissing (index : Nat)
  | nameMissing (name : List Char)
  | keyMissing (key : Value)
  | indexMissing (holder : Value)
  | attributeMissing (holder : Value) (name : List Char)
  | notIndexed (holder : Value)
  | indexedByText (holder : Value)
  | layout (fault : LayoutFault)
  | foreign (fault : HostFault)

structure Field where
  name : List Char
  conversion : Option Char
  layout : List Char
  deriving Repr

namespace Template

inductive Piece where
  | literal (text : List Char)
  | field (field : Field)
  | flaw (fault : TemplateFault)

/-- The layout of a field up to the brace that closes it, and the rest.  `depth`
counts the braces that are open. -/
def takeLayout : (depth : Nat) → List Char → Option (List Char × List Char)
  | _, [] => none
  | depth, c :: rest =>
      if c = '}' ∧ depth = 0 then
        some ([], rest)
      else
        let depth := if c = '\x7b' then depth + 1 else if c = '}' then depth - 1 else depth
        (takeLayout depth rest).map fun (layout, tail) => (c :: layout, tail)

/-- The name of a field, the character that ends it, and the rest. -/
def takeName : (bracketed : Bool) → List Char →
    Except TemplateFault (List Char × Char × List Char)
  | _, [] => .error .fieldUnclosed
  | bracketed, c :: rest =>
      if !bracketed && c == '\x7b' then
        .error .openingInName
      else if !bracketed && (c == '}' || c == ':' || c == '!') then
        .ok ([], c, rest)
      else do
        let (name, ending) ← takeName (if bracketed then c != ']' else c == '[') rest
        return (c :: name, ending)

/-- A field after its opening brace, and the rest of the template. -/
def takeField (text : List Char) : Except TemplateFault (Field × List Char) := do
  let withLayout (name : List Char) (conversion : Option Char) (rest : List Char) :=
    match takeLayout 0 rest with
    | some (layout, tail) => Except.ok (⟨name, conversion, layout⟩, tail)
    | none => .error .layoutUnclosed
  let (name, ending, rest) ← takeName false text
  if ending = '}' then
    return (⟨name, none, []⟩, rest)
  else if ending = ':' then
    withLayout name none rest
  else
    match rest with
    | [] => throw .conversionMissing
    | conversion :: '}' :: tail => return (⟨name, some conversion, []⟩, tail)
    | conversion :: ':' :: tail => withLayout name (some conversion) tail
    | [_] => throw .layoutUnclosed
    | _ => throw .colonExpected

/-- Read the pieces of a template; `fuel` bounds their number. -/
def readPieces : (fuel : Nat) → List Char → List Piece
  | 0, _ => []
  | fuel + 1, text =>
      let (literal, rest) := text.span fun c => c != '\x7b' && c != '}'
      match rest with
      | [] => if literal.isEmpty then [] else [.literal literal]
      | brace :: rest =>
          match brace == '}', rest with
          | true, '}' :: tail => .literal (literal ++ ['}']) :: readPieces fuel tail
          | true, _ => [.flaw .singleClosing]
          | false, [] => [.flaw .singleOpening]
          | false, '\x7b' :: tail => .literal (literal ++ ['\x7b']) :: readPieces fuel tail
          | false, _ =>
              match takeField rest with
              | .error fault => [.flaw fault]
              | .ok (field, tail) => .literal literal :: .field field :: readPieces fuel tail

/-- The pieces of a template, up to its first flaw. -/
def read (text : List Char) : List Piece :=
  readPieces (text.length + 1) text

/-! ## Parts of values -/

section Parts

variable [Host]

/-- What a field leads to: a value, or an object of the host. -/
abbrev Target := Value ⊕ Host.Thing

/-- A step from a value to a part of it. -/
inductive Step where
  | attribute (name : List Char)
  | index (number : Nat)
  | key (text : List Char)
  | flaw (fault : TemplateFault)

/-- The number that a text writes with nothing but digits. -/
def number? (text : List Char) : Except TemplateFault (Option Nat) :=
  match Layout.takeNumber none text with
  | .error fault => .error (.layout fault)
  | .ok (number?, rest) => .ok (if rest.isEmpty then number? else none)

/-- Read the steps after the name of an argument; `fuel` bounds their number. -/
def readSteps : (fuel : Nat) → List Char → List Step
  | 0, _ => []
  | _, [] => []
  | fuel + 1, '.' :: rest =>
      let (name, tail) := rest.span fun c => c != '.' && c != '['
      if name.isEmpty then
        [.flaw .stepEmpty]
      else
        .attribute name :: readSteps fuel tail
  | fuel + 1, '[' :: rest =>
      let (key, tail) := rest.span (· != ']')
      match tail with
      | [] => [.flaw .bracketUnclosed]
      | _ :: tail =>
          match number? key with
          | .error fault => [.flaw fault]
          | .ok (some number) => .index number :: readSteps fuel tail
          | .ok none =>
              if key.isEmpty then
                [.flaw .stepEmpty]
              else
                .key key :: readSteps fuel tail
  | _, _ => [.flaw .stepExpected]

/-- The part of a number that an attribute names. -/
def numberPart? (value : Value) (name : String) : Option Value :=
  match value with
  | .boolean truth => ofInteger (if truth then 1 else 0)
  | .integer number => ofInteger number
  | .real number =>
      if name = "real" then some (.real number)
      else if name = "imag" then some (.real (.finite false 0))
      else none
  | _ => none
where
  ofInteger (number : Int) : Option Value :=
    if name = "real" ∨ name = "numerator" then some (.integer number)
    else if name = "imag" then some (.integer 0)
    else if name = "denominator" then some (.integer 1)
    else none

/-- What an attribute of a value is. -/
def attribute? (value : Value) (name : String) : Option Target :=
  match numberPart? value name with
  | some part => some (.inl part)
  | none => Host.attribute? value name

/-- The item with a number, for values that have their items in order. -/
def item? : Value → Option (Nat → Option Value)
  | .text characters => some fun index =>
      (characters.toList[index]?).map fun c => .text c.toString
  | .octets content => some fun index => (content[index]?).map fun octet => .integer octet.toNat
  | .list items | .tuple items => some fun index => items[index]?
  | _ => none

/-- What a record has under a key. -/
def lookup (entries : List (Value × Value)) (key : Value) : Except TemplateFault Target :=
  match Value.valueAt? entries key with
  | some part => .ok (.inl part)
  | none => .error (.keyMissing key)

/-- Go one step into a value. -/
def takeOfValue (value : Value) : Step → Except TemplateFault Target
  | .flaw fault => .error fault
  | .attribute name =>
      match attribute? value (String.ofList name) with
      | some part => .ok part
      | none => .error (.attributeMissing value name)
  | .index number =>
      match item? value, value with
      | some items, _ =>
          match items number with
          | some part => .ok (.inl part)
          | none => .error (.indexMissing value)
      | none, .record entries => lookup entries (.integer number)
      | none, _ => .error (.notIndexed value)
  | .key text =>
      match item? value, value with
      | some _, _ => .error (.indexedByText value)
      | none, .record entries => lookup entries (.text (String.ofList text))
      | none, _ => .error (.notIndexed value)

/-- Go one step into an object of the host. -/
def takeOfThing (thing : Host.Thing) : Step → Except TemplateFault Target
  | .flaw fault => .error fault
  | .attribute name =>
      (Host.attributeOf thing (String.ofList name)).mapError TemplateFault.foreign
  | .index number => (Host.itemOf thing (.integer number)).mapError TemplateFault.foreign
  | .key text =>
      (Host.itemOf thing (.text (String.ofList text))).mapError TemplateFault.foreign

/-- Go one step further. -/
def take : Target → Step → Except TemplateFault Target
  | .inl value, step => takeOfValue value step
  | .inr thing, step => takeOfThing thing step

end Parts

/-! ## Rendering -/

/-- What the fields of a template can name. -/
structure Arguments where
  positional : List String
  value : Value

/-- How the fields met so far were numbered. -/
inductive Numbering where
  | open
  | automatic (next : Nat)
  | manual
  deriving DecidableEq, Repr

/-- Rendering carries the numbering along and ends with the first fault. -/
abbrev Rendering := StateT Numbering (Except TemplateFault)

/-- The number of the argument that a field without a name stands for. -/
def nextNumber : Rendering Nat := do
  match ← get with
  | .open =>
      set (Numbering.automatic 1)
      return 0
  | .automatic next =>
      set (Numbering.automatic (next + 1))
      return next
  | .manual => throw .automaticAfterManual

def ownNumber : Rendering Unit := do
  match ← get with
  | .automatic _ => throw .manualAfterAutomatic
  | _ => set Numbering.manual

def position (arguments : Arguments) (index : Nat) : Rendering Value :=
  match arguments.positional[index]? with
  | some argument => return .text argument
  | none => throw (.positionMissing index)

/-- Start from the argument that a name begins with. -/
def start (arguments : Arguments) (root : List Char) : Rendering Value := do
  match ← (number? root : Except TemplateFault (Option Nat)) with
  | some index =>
      ownNumber
      position arguments index
  | none =>
      if root.isEmpty then
        position arguments (← nextNumber)
      else if root = "value".toList then
        return arguments.value
      else
        throw (.nameMissing root)

section Fields

variable [Host]

/-- What the name of a field leads to. -/
def resolve (arguments : Arguments) (name : List Char) : Rendering Target := do
  let (root, path) := name.span fun c => c != '.' && c != '['
  let value ← start arguments root
  ((readSteps (path.length + 1) path).foldlM take (.inl value) : Except _ _)

/-- The marks of conversions. -/
def conversions : List Char := ['s', 'r', 'a']

/-- A value as a conversion shows it. -/
def shownAs (conversion : Char) (value : Value) : List Char :=
  match conversion with
  | 'r' => value.literal
  | 'a' => value.asciiLiteral
  | _ => value.display

/-- Show a value, or an object of the host, as a conversion says. -/
def convert (target : Target) : Option Char → Except TemplateFault Target
  | none => .ok target
  | some conversion =>
      if !conversions.contains conversion then
        .error (.conversionUnknown conversion)
      else
        match target with
        | .inl value =>
            if value.isWritable then
              .ok (.inl (.text (String.ofList (shownAs conversion value))))
            else
              .error (.layout .tooManyDigits)
        | .inr thing =>
            match Host.shown thing conversion with
            | .ok text => .ok (.inl (.text text))
            | .error fault => .error (.foreign fault)

/-- Lay out a value, or an object of the host. -/
def layOut (layout : List Char) : Target → Except TemplateFault (List Char)
  | .inl value => (value.laidOut layout).mapError TemplateFault.layout
  | .inr thing => (Host.laidOut thing layout).mapError TemplateFault.foreign

/-- Render one piece; `expand` renders the fields in its layout. -/
def renderPiece (expand : List Char → Rendering (List Char)) (arguments : Arguments) :
    Piece → Rendering (List Char)
  | .literal text => return text
  | .flaw fault => throw fault
  | .field field => do
      let target ← resolve arguments field.name
      let converted ← (convert target field.conversion : Except _ _)
      let layout ← if field.layout.contains '\x7b' then expand field.layout else pure field.layout
      (layOut layout converted : Except _ _)

/-- Render a template whose layouts may contain fields down to a depth. -/
def renderTo (arguments : Arguments) : (depth : Nat) → List Char → Rendering (List Char)
  | 0, _ => throw .nestedTooDeep
  | depth + 1, text => do
      let texts ← (read text).mapM (renderPiece (renderTo arguments depth) arguments)
      return texts.flatten

/-- Render a template: the text with its fields filled in. -/
def render (text : List Char) (arguments : Arguments) : Except TemplateFault (List Char) :=
  ((renderTo arguments 2 text).run .open).map (·.1)

end Fields

end Template

end FormCheck
