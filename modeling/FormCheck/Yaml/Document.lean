import FormCheck.Yaml.Datum
import FormCheck.Yaml.Node

/-!
# Reading YAML documents

The nodes of a document are made into data.  A mapping keeps the place of a key that comes
again and takes the later value.  A mapping may merge others; their pairs come before its
own, those of the first one last.

A document is looked into to a certain depth, so an alias inside its own node does no
harm.  Whether a document can be made into data at all is decided by all of its nodes
(`Document.fault?`): a fault nearer to the root counts before one further away, and of
two at the same distance the earlier one counts.
-/

namespace FormCheck.Yaml

namespace Document

/-- The node that an alias stands for; every other node stands for itself. -/
def target (document : Document) : Node → Node
  | .alias name =>
      match document.anchored.find? fun entry => entry.1 == name with
      | some entry => entry.2
      | none => .alias name
  | node => node

def tagOf (document : Document) (node : Node) : Tag :=
  match document.target node with
  | .alias _ => .unknown
  | .scalar tag _ | .sequence tag _ | .mapping tag _ => tag

/-! ## Merging -/

/-- The pairs of a mapping that merge nothing. -/
def ownPairs (document : Document) (pairs : List (Node × Node)) : List (Node × Node) :=
  pairs.filter fun pair => document.tagOf pair.1 != .merge

/-- The pairs that a node gives when it is merged; `merged` gives those of a mapping. -/
def pairsToMerge (document : Document) (merged : List (Node × Node) → List (Node × Node))
    (node : Node) : List (Node × Node) :=
  let pairsOf (source : Node) : List (Node × Node) :=
    match document.target source with
    | .mapping _ pairs => merged pairs
    | _ => []
  match document.target node with
  | .sequence _ items => items.reverse.flatMap pairsOf
  | source => pairsOf source

/-- The pairs of a mapping with those that it merges in front; `fuel` bounds how deep
merged mappings merge others. -/
def mergedPairs (document : Document) : (fuel : Nat) → List (Node × Node) → List (Node × Node)
  | 0, pairs => document.ownPairs pairs
  | fuel + 1, pairs =>
      (pairs.flatMap fun pair =>
        if document.tagOf pair.1 == .merge then
          document.pairsToMerge (document.mergedPairs fuel) pair.2
        else
          [])
        ++ document.ownPairs pairs

/-- How deep mappings merge others at most: no deeper than there are anchors. -/
def mergeDepth (document : Document) : Nat :=
  document.anchored.length + 2

/-! ## Scalars -/

/-- The text of a node that is made into a scalar.  A mapping stands for the value that it
has under the sign of equality. -/
def scalarText (document : Document) : (fuel : Nat) → Node → Except Fault (List Char)
  | 0, _ => .error .malformed
  | fuel + 1, node =>
      match document.target node with
      | .scalar _ text => .ok text
      | .mapping _ pairs =>
          match pairs.find? fun pair => document.tagOf pair.1 == .default with
          | some pair => document.scalarText fuel pair.2
          | none => .error .malformed
      | _ => .error .malformed

/-- The scalar that a node with a tag is made into. -/
def makeScalar (document : Document) (tag : Tag) (node : Node) : Except Fault Scalar := do
  Scalar.make tag (← document.scalarText (document.mergeDepth + 2) node)

/-- The tag is one of those for collections. -/
def isCollectionTag (tag : Tag) : Bool :=
  [Tag.sequence, .mapping, .set, .orderedPairs, .pairs].contains tag

/-- The key that a node is made into.  The sign of equality is a text there, and no
collection is a key. -/
def makeKey (document : Document) (node : Node) : Except Fault Scalar :=
  match document.target node with
  | .scalar .default text => Scalar.make .text text
  | other =>
      let tag := document.tagOf other
      if isCollectionTag tag then .error .malformed else document.makeScalar tag other

/-! ## Faults -/

/-- A fault and its distance from the root. -/
abbrev PlacedFault := Nat × Fault

private def faultsOf {α : Type} (distance : Nat) : Except Fault α → List PlacedFault
  | .ok _ => []
  | .error fault => [(distance, fault)]

/-- The node can be merged: it is a mapping or a sequence of mappings. -/
def canMerge (document : Document) (node : Node) : Bool :=
  let isMapping (source : Node) : Bool :=
    match document.target source with
    | .mapping _ _ => true
    | _ => false
  match document.target node with
  | .sequence _ items => items.all isMapping
  | source => isMapping source

/-- The fault of pairs of which one merges something that cannot be merged. -/
def mergeFaults (document : Document) (distance : Nat) (pairs : List (Node × Node)) :
    List PlacedFault :=
  if pairs.all fun pair => document.tagOf pair.1 != .merge || document.canMerge pair.2 then
    []
  else
    [(distance, .malformed)]

/-- The node is a mapping with one pair. -/
def isSinglePair (document : Document) (node : Node) : Bool :=
  match document.target node with
  | .mapping _ [_] => true
  | _ => false

mutual

/-- The faults of a node and of the nodes in it. -/
def faults (document : Document) (distance : Nat) : Node → List PlacedFault
  | .alias _ => []
  | .scalar tag text =>
      faultsOf (if isCollectionTag tag then distance + 1 else distance) (Scalar.make tag text)
  | .sequence tag items =>
      match tag with
      | .sequence => document.itemFaults (distance + 1) items
      | .orderedPairs | .pairs => document.pairItemFaults (distance + 1) items
      | .mapping | .set => [(distance + 1, .malformed)]
      | _ => [(distance, .malformed)]
  | .mapping tag pairs =>
      match tag with
      | .mapping | .set =>
          document.mergeFaults (distance + 1) pairs ++ document.pairFaults (distance + 1) pairs
      | .sequence | .orderedPairs | .pairs => [(distance + 1, .malformed)]
      | _ => faultsOf distance (document.makeScalar tag (.mapping tag pairs))

def itemFaults (document : Document) (distance : Nat) : List Node → List PlacedFault
  | [] => []
  | item :: rest => document.faults distance item ++ document.itemFaults distance rest

/-- The faults of the pairs of a mapping.  The pairs of a mapping that is merged in place
count as pairs of the mapping itself. -/
def pairFaults (document : Document) (distance : Nat) :
    List (Node × Node) → List PlacedFault
  | [] => []
  | (key, value) :: rest =>
      (if document.tagOf key == .merge then
        document.mergedFaults distance value
      else
        faultsOf distance (document.makeKey key) ++ document.faults distance value)
        ++ document.pairFaults distance rest

/-- The faults of what is merged in place. -/
def mergedFaults (document : Document) (distance : Nat) : Node → List PlacedFault
  | .mapping _ pairs => document.mergeFaults distance pairs ++ document.pairFaults distance pairs
  | .sequence _ items => document.mergedItemFaults distance items
  | _ => []

/-- The faults of several mappings that are merged in place. -/
def mergedItemFaults (document : Document) (distance : Nat) : List Node → List PlacedFault
  | [] => []
  | item :: rest =>
      document.mergedFaults distance item ++ document.mergedItemFaults distance rest

/-- The faults of items each of which must be a mapping with one pair. -/
def pairItemFaults (document : Document) (distance : Nat) : List Node → List PlacedFault
  | [] => []
  | item :: rest =>
      (match item with
        | .mapping _ pairs =>
            if pairs.length = 1 then
              document.plainPairFaults distance pairs
            else
              [(distance, .malformed)]
        | _ => if document.isSinglePair item then [] else [(distance, .malformed)])
        ++ document.pairItemFaults distance rest

/-- The faults of pairs of which nothing is merged. -/
def plainPairFaults (document : Document) (distance : Nat) :
    List (Node × Node) → List PlacedFault
  | [] => []
  | (key, value) :: rest =>
      document.faults distance key ++ document.faults distance value
        ++ document.plainPairFaults distance rest

end

/-- The fault that counts among faults. -/
def nearest : List PlacedFault → Option PlacedFault
  | [] => none
  | first :: rest =>
      match nearest rest with
      | some other => if other.1 < first.1 then some other else some first
      | none => some first

/-- Why the document cannot be made into data, if it cannot. -/
def fault? (document : Document) : Option Fault :=
  (nearest (document.faults 0 document.root)).map (·.2)

/-! ## Data -/

/-- Add an entry to a mapping. -/
def putEntry (key : Scalar) (datum : Datum) :
    List (Scalar × Datum) → List (Scalar × Datum)
  | [] => [(key, datum)]
  | (known, old) :: rest =>
      if known.same key then
        (known, datum) :: rest
      else
        (known, old) :: putEntry key datum rest

/-- The data of a node down to a depth. -/
def datum (document : Document) : (depth : Nat) → Node → Datum
  | 0, _ => .collection true
  | depth + 1, node =>
      let target := document.target node
      match document.tagOf target, target with
      | .mapping, .mapping _ pairs =>
          .mapping ((document.mergedPairs document.mergeDepth pairs).foldl
            (fun entries pair =>
              match document.makeKey pair.1 with
              | .ok key => putEntry key (document.datum depth pair.2) entries
              | .error _ => entries)
            [])
      | .set, .mapping _ pairs =>
          .collection (document.mergedPairs document.mergeDepth pairs).isEmpty
      | tag, .sequence _ items =>
          if isCollectionTag tag then .collection items.isEmpty else .collection true
      | tag, other =>
          match document.makeScalar tag other with
          | .ok scalar => .scalar scalar
          | .error _ => .collection true

end Document

/-- The data that a text writes down to a depth; no document counts as nothing. -/
def Datum.read (depth : Nat) (text : List Char) : Except Fault Datum := do
  let (tokens, fault?) := Token.scan text
  match ← Document.ofTokens tokens fault? with
  | none => return .scalar (.value .null)
  | some document =>
      match document.fault? with
      | some fault => throw fault
      | none => return document.datum depth document.root

end FormCheck.Yaml
