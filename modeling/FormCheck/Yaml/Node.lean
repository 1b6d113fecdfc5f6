import FormCheck.Yaml.Tag
import FormCheck.Yaml.Token.Lexer

/-!
# Nodes of YAML documents

A document is a node: a scalar, a sequence, a mapping, or an alias for a node that was
given an anchor.  Every node but an alias has a tag.

`Document.ofTokens` makes the node of a document from its tokens.  There is at most one
document, every alias has its anchor before it, and no anchor is given twice.
-/

namespace FormCheck.Yaml

/-- A part of a document. -/
inductive Node where
  | alias (name : List Char)
  | scalar (tag : Tag) (text : List Char)
  | sequence (tag : Tag) (items : List Node)
  | mapping (tag : Tag) (pairs : List (Node × Node))
  deriving Inhabited

/-- A document: its node, and the nodes with anchors. -/
structure Document where
  root : Node
  anchored : List (List Char × Node)

/-- The tokens that are left, the fault after them, the sets of tags of the document, and
the anchors met so far. -/
structure NodeReader where
  tokens : List Token
  fault? : Option Fault
  tagSets : List (List Char × List Char)
  anchors : List (List Char)
  anchored : List (List Char × Node)

/-- Nodes are made one after another, up to the first fault. -/
abbrev NodeReading := StateT NodeReader (Except Fault)

namespace NodeReading

def malformed {α : Type} : NodeReading α :=
  throw .malformed

def peek : NodeReading Token := do
  match (← get).tokens, (← get).fault? with
  | token :: _, _ => return token
  | [], some fault => throw fault
  | [], none => return .streamEnd

def pass : NodeReading Unit :=
  modify fun reader => { reader with tokens := reader.tokens.drop 1 }

/-- The next token is a certain one, and it is passed. -/
def passes (token : Token) : NodeReading Bool := do
  if (← peek) == token then
    pass
    return true
  else
    return false

def expect (token : Token) : NodeReading Unit := do
  unless ← passes token do
    malformed

/-- The next token is one of several. -/
def isNext (tokens : List Token) : NodeReading Bool := do
  return tokens.contains (← peek)

/-! ## Properties of nodes -/

/-- An anchor and a tag, in either order. -/
structure Properties where
  anchor? : Option (List Char)
  tag? : Option TagText

private def takeAnchor : NodeReading (Option (List Char)) := do
  match ← peek with
  | .anchor name =>
      pass
      return some name
  | _ => return none

private def takeTag : NodeReading (Option TagText) := do
  match ← peek with
  | .tag text =>
      pass
      return some text
  | _ => return none

def takeProperties : NodeReading Properties := do
  match ← takeAnchor with
  | some name => return ⟨some name, ← takeTag⟩
  | none =>
      match ← takeTag with
      | some text => return ⟨← takeAnchor, some text⟩
      | none => return ⟨none, none⟩

/-- The full name of a tag; its handle must be known. -/
def fullName (text : TagText) : NodeReading (List Char) := do
  match text.handle? with
  | none => return text.name
  | some handle =>
      match (← get).tagSets.find? fun entry => entry.1 == handle with
      | some entry => return entry.2 ++ text.name
      | none => malformed

/-- The tag of a node whose properties name one; one exclamation mark names none. -/
def explicitTag (name? : Option (List Char)) : Option Tag :=
  match name? with
  | none | some ['!'] => none
  | some name => some (.ofName (String.ofList name))

/-- Note an anchor.  It is known from the beginning of its node on. -/
def declare (anchor? : Option (List Char)) : NodeReading Unit := do
  match anchor? with
  | none => return
  | some name =>
      if (← get).anchors.contains name then
        malformed
      modify fun reader => { reader with anchors := name :: reader.anchors }

/-- Keep a node under its anchor. -/
def keep (anchor? : Option (List Char)) (node : Node) : NodeReading Node := do
  match anchor? with
  | none => return node
  | some name =>
      modify fun reader => { reader with anchored := (name, node) :: reader.anchored }
      return node

/-- The node of an empty place. -/
def empty : Node :=
  .scalar .null []

/-! ## Nodes -/

/-- Where a node stands: between brackets, in a block, or in a block whose sequences need
not be indented. -/
inductive Place where
  | flow
  | block
  | unindented
  deriving DecidableEq, Repr

mutual

/-- A node. -/
def node (place : Place) : (fuel : Nat) → NodeReading Node
  | 0 => malformed
  | fuel + 1 => do
      match ← peek with
      | .alias name =>
          pass
          unless (← get).anchors.contains name do
            malformed
          return .alias name
      | _ =>
          let properties ← takeProperties
          let name? ← properties.tag?.mapM fullName
          let explicit? := explicitTag name?
          let collection (pass : NodeReading Unit) (make : NodeReading Node) :
              NodeReading Node := do
            declare properties.anchor?
            pass
            keep properties.anchor? (← make)
          let sequenceOf (items : NodeReading (List Node)) : NodeReading Node :=
            return .sequence (explicit?.getD .sequence) (← items)
          let mappingOf (pairs : NodeReading (List (Node × Node))) : NodeReading Node :=
            return .mapping (explicit?.getD .mapping) (← pairs)
          match ← peek, place with
          | .blockEntry, .unindented =>
              collection (pure ()) (sequenceOf (unindentedItems fuel))
          | .scalar text plain, _ =>
              collection pass do
                let implicit : Tag :=
                  if plain || name?.isSome then .ofPlain text else .text
                return .scalar (explicit?.getD implicit) text
          | .flowSequenceStart, _ => collection pass (sequenceOf (flowItems true fuel))
          | .flowMappingStart, _ => collection pass (mappingOf (flowPairs true fuel))
          | .blockSequenceStart, .block | .blockSequenceStart, .unindented =>
              collection pass (sequenceOf (blockItems fuel))
          | .blockMappingStart, .block | .blockMappingStart, .unindented =>
              collection pass (mappingOf (blockPairs fuel))
          | _, _ =>
              if properties.anchor?.isNone && name?.isNone then
                malformed
              collection (pure ()) (return .scalar (explicit?.getD .null) [])

/-- A node, or an empty place before one of several tokens. -/
def nodeUnless (tokens : List Token) (place : Place) : (fuel : Nat) → NodeReading Node
  | 0 => malformed
  | fuel + 1 => do
      if ← isNext tokens then
        return empty
      else
        node place fuel

/-- The items of a sequence in a block, up to its end. -/
def blockItems : (fuel : Nat) → NodeReading (List Node)
  | 0 => malformed
  | fuel + 1 => do
      if ← passes .blockEntry then
        let item ← nodeUnless [.blockEntry, .blockEnd] .block fuel
        return item :: (← blockItems fuel)
      else
        expect .blockEnd
        return []

/-- The items of a sequence that is not indented. -/
def unindentedItems : (fuel : Nat) → NodeReading (List Node)
  | 0 => malformed
  | fuel + 1 => do
      if ← passes .blockEntry then
        let item ← nodeUnless [.blockEntry, .key, .value, .blockEnd] .block fuel
        return item :: (← unindentedItems fuel)
      else
        return []

/-- The pairs of a mapping in a block, up to its end. -/
def blockPairs : (fuel : Nat) → NodeReading (List (Node × Node))
  | 0 => malformed
  | fuel + 1 => do
      if ← passes .key then
        let key ← nodeUnless [.key, .value, .blockEnd] .unindented fuel
        let value ←
          if ← passes .value then
            nodeUnless [.key, .value, .blockEnd] .unindented fuel
          else
            pure empty
        return (key, value) :: (← blockPairs fuel)
      else
        expect .blockEnd
        return []

/-- The value after a colon between brackets, or an empty place. -/
def flowValue (closing : Token) : (fuel : Nat) → NodeReading Node
  | 0 => malformed
  | fuel + 1 => do
      if ← passes .value then
        nodeUnless [.flowEntry, closing] .flow fuel
      else
        return empty

/-- The items of a sequence between brackets, up to the closing one.  An item may be a
single pair. -/
def flowItems (first : Bool) : (fuel : Nat) → NodeReading (List Node)
  | 0 => malformed
  | fuel + 1 => do
      if ← passes .flowSequenceEnd then
        return []
      unless first do
        expect .flowEntry
      if ← passes .key then
        let key ← nodeUnless [.value, .flowEntry, .flowSequenceEnd] .flow fuel
        let value ← flowValue .flowSequenceEnd fuel
        return .mapping .mapping [(key, value)] :: (← flowItems false fuel)
      else if ← passes .flowSequenceEnd then
        return []
      else
        let item ← node .flow fuel
        return item :: (← flowItems false fuel)

/-- The pairs of a mapping between brackets, up to the closing one.  A key may stand
alone. -/
def flowPairs (first : Bool) : (fuel : Nat) → NodeReading (List (Node × Node))
  | 0 => malformed
  | fuel + 1 => do
      if ← passes .flowMappingEnd then
        return []
      unless first do
        expect .flowEntry
      if ← passes .key then
        let key ← nodeUnless [.value, .flowEntry, .flowMappingEnd] .flow fuel
        let value ← flowValue .flowMappingEnd fuel
        return (key, value) :: (← flowPairs false fuel)
      else if ← passes .flowMappingEnd then
        return []
      else
        let key ← node .flow fuel
        return (key, empty) :: (← flowPairs false fuel)

end

/-! ## Documents -/

/-- The sets of tags that are always known. -/
def commonTagSets : List (List Char × List Char) :=
  [(['!'], ['!']), (['!', '!'], Tag.standard.toList)]

/-- The directives of a document.  There is at most one version, its major number is one,
and no handle is given twice. -/
private def directives : (fuel : Nat) → (versioned : Bool) →
    (sets : List (List Char × List Char)) → NodeReading Unit
  | 0, _, _ => malformed
  | fuel + 1, versioned, sets => do
      match ← peek with
      | .version major =>
          pass
          if versioned || Numeral.natOfDigits major != 1 then
            malformed
          directives fuel true sets
      | .tagSet handle start =>
          pass
          if sets.any fun entry => entry.1 == handle then
            malformed
          directives fuel versioned (sets ++ [(handle, start)])
      | .otherDirective =>
          pass
          directives fuel versioned sets
      | _ => modify fun reader => { reader with tagSets := sets ++ commonTagSets }

/-- Pass marks that end documents. -/
private def passDocumentEnds : (fuel : Nat) → NodeReading Unit
  | 0 => malformed
  | fuel + 1 => do
      if ← passes .documentEnd then
        passDocumentEnds fuel

/-- The node of a document that begins with directives or a mark. -/
private def markedDocument (fuel : Nat) : NodeReading Node := do
  directives fuel false []
  expect .documentStart
  let next ← peek
  match next with
  | .version _ | .tagSet _ _ | .otherDirective | .documentStart | .documentEnd | .streamEnd =>
      return empty
  | _ => node .block fuel

/-- The node of the only document of a stream, if there is one. -/
def document (fuel : Nat) : NodeReading (Option Node) := do
  let root? ←
    match ← peek with
    | .streamEnd => pure none
    | .version _ | .tagSet _ _ | .otherDirective | .documentStart =>
        some <$> markedDocument fuel
    | _ => some <$> node .block fuel
  passDocumentEnds fuel
  expect .streamEnd
  return root?

end NodeReading

/-- The document that tokens write, if they write one. -/
def Document.ofTokens (tokens : List Token) (fault? : Option Fault) :
    Except Fault (Option Document) := do
  let fuel := 4 * tokens.length + 8
  let (root?, reader) ←
    (NodeReading.document fuel).run ⟨tokens, fault?, NodeReading.commonTagSets, [], []⟩
  return root?.map fun root => ⟨root, reader.anchored⟩

end FormCheck.Yaml
