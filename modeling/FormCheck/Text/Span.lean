/-!
# Spans of code points

Character classes that have no short description are kept as lists of spans,
each a first and a last code point, in ascending order and without overlaps.
-/

namespace FormCheck.Text

/-- An inclusive stretch of code points. -/
structure Span where
  first : Nat
  last : Nat
  deriving DecidableEq, Repr

namespace Span

def covers (span : Span) (point : Nat) : Bool :=
  span.first ≤ point && point ≤ span.last

end Span

def inSpans (spans : List Span) (point : Nat) : Bool :=
  spans.any (·.covers point)

/-- The spans are in ascending order and do not overlap. -/
def spansAscend : List Span → Bool
  | [] => true
  | [span] => span.first ≤ span.last
  | span :: next :: others =>
      span.first ≤ span.last && span.last < next.first && spansAscend (next :: others)

end FormCheck.Text
