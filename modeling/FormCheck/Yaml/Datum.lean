import FormCheck.Yaml.Scalar

/-!
# Data of YAML documents

A document is read as data: scalars, mappings whose keys are scalars, and other
collections, of which only emptiness is kept.
-/

namespace FormCheck.Yaml

inductive Datum where
  | scalar (scalar : Scalar)
  | mapping (entries : List (Scalar × Datum))
  | collection (isEmpty : Bool)

end FormCheck.Yaml
