import FormCheck.Clause

/-!
# Rule expressions

A rule expression lists clauses between bars.  What is blank between two bars does
not count, so an expression may be empty.  The order of the clauses is the order
in which their rules are applied.

An expression may be given as a value.  Nothing and everything that counts as
false is the empty expression; every other value must be a text.
-/

namespace FormCheck.Expression

/-- The stretches between bars that are not blank. -/
def segments (text : List Char) : List (List Char) :=
  (Text.pieces '|' text).filter fun segment => !(Text.trim segment).isEmpty

def readClauses : List (List Char) → Except Mistake (List Clause)
  | [] => .ok []
  | segment :: rest => do
      let clause ← Clause.read segment
      let clauses ← readClauses rest
      return clause :: clauses

def read (expression : String) : Except Mistake (List Clause) :=
  readClauses (segments expression.toList)

def written (clauses : List Clause) : String :=
  String.ofList (Text.join '|' (clauses.map fun clause => clause.written.toList))

/-- Read an expression that is given as a value. -/
def readValue (expression : Value) : Except Failure (List Clause) :=
  match expression with
  | .text characters => (read characters).mapError .mistake
  | other =>
      if other.isKey && !other.truth then
        .ok []
      else
        .error (.expressionNotText other)

end FormCheck.Expression
