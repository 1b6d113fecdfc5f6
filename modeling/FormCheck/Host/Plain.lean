import FormCheck.Folder
import FormCheck.Yaml.Document

/-!
# A plain host

A host for programs that are run as they are.  Of the attributes that are no numbers it
knows the classes of values and their names; a text may be filled up to a width of about
sixty-nine thousand million; and YAML documents are read by `Yaml.Datum.read`, as deep as
rules files go.
-/

namespace FormCheck.Host

/-- The class of values that has a name. -/
structure PlainClass where
  name : String

namespace PlainClass

def ofValue (value : Value) : PlainClass :=
  ⟨value.typeName⟩

def attributeOf (thing : PlainClass) (name : String) :
    Except HostFault (Value ⊕ PlainClass) :=
  if name = "__name__" ∨ name = "__qualname__" then
    .ok (.inl (.text thing.name))
  else if name = "__class__" then
    .ok (.inr ⟨"type"⟩)
  else
    .error ⟨"AttributeError",
      "type object '" ++ thing.name ++ "' has no attribute '" ++ name ++ "'"⟩

def itemOf (thing : PlainClass) : Except HostFault (Value ⊕ PlainClass) :=
  .error ⟨"TypeError", "type '" ++ thing.name ++ "' is not subscriptable"⟩

def display (thing : PlainClass) : String :=
  "<class '" ++ thing.name ++ "'>"

def laidOut (thing : PlainClass) (layout : List Char) : Except HostFault (List Char) :=
  if layout.isEmpty then
    .ok thing.display.toList
  else
    .error ⟨"TypeError", (LayoutFault.unsupported "type").text⟩

end PlainClass

/-- How deep a rules file is looked into: its sections, forms, fields and expressions. -/
def rulesFileDepth : Nat := 4

def readPlainYaml (content : List UInt8) : Except HostFault Yaml.Datum := do
  let text ← (Folder.textOf content).mapError fun fault => ⟨"UnicodeDecodeError", fault.text⟩
  (Yaml.Datum.read rulesFileDepth text).mapError fun fault => ⟨fault.kindName, fault.text⟩

scoped instance plain : Host where
  Thing := PlainClass
  attribute? value name :=
    if name = "__class__" then some (.inr (.ofValue value)) else none
  attributeOf := PlainClass.attributeOf
  itemOf thing _ := thing.itemOf
  shown thing _ := .ok thing.display
  laidOut := PlainClass.laidOut
  hasRoom layout := layout.width.getD 0 < 68719476736
  nesting := 980
  readYaml := readPlainYaml

end FormCheck.Host
