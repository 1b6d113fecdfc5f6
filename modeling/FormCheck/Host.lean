import FormCheck.Template.Layout
import FormCheck.Yaml.Datum

/-!
# Hosts

Some of what a program does is up to the host that it runs on.  A template may ask for
any attribute of a value, and most of them are objects of the host and no values; memory
bounds how far a text is filled up, and the stack how deep a document is nested; and YAML
documents are read by a library of the host.

Nothing is assumed of a host, so what is proved with one at hand holds on all of them.
-/

namespace FormCheck

/-- A failure that comes from the host.  Its kind is the one that programs tell it by: a
special kind that nobody asks for counts as the kind that it is one of. -/
structure HostFault where
  kind : String
  words : String
  deriving DecidableEq, Repr

class Host where
  /-- Objects that are no values. -/
  Thing : Type
  /-- Attributes of a value, other than those of numbers that are numbers. -/
  attribute? : Value → String → Option (Value ⊕ Thing)
  attributeOf : Thing → String → Except HostFault (Value ⊕ Thing)
  itemOf : Thing → Value → Except HostFault (Value ⊕ Thing)
  /-- The text that a conversion shows a thing as. -/
  shown : Thing → Char → Except HostFault String
  laidOut : Thing → List Char → Except HostFault (List Char)
  /-- There is room for a text that is filled up as a layout says. -/
  hasRoom : Layout → Bool
  /-- How deep a document may be nested, so that its value can be compared and shown. -/
  nesting : Nat
  /-- What the content of a file says that holds a YAML document. -/
  readYaml : List UInt8 → Except HostFault Yaml.Datum

end FormCheck
