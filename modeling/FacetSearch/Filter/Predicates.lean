import FacetSearch.Filter.Clause
import FacetSearch.Filter.Parens
import FacetSearch.Filter.Statement
import FacetSearch.Filter.Token.Scan

/-!
Filter expressions such as `make:("Nissan","Toyota") and (price:1000 TO 2000 or NOT color:NULL)`
as predicates. Statements that are no clause are dropped.
-/
namespace FacetSearch.Filter

/-- The predicate of a single clause, where the guard lets its attribute pass. -/
def leaf? (g : Guard) (s : Statement) (ts : List Token) : Except CompileError (Option Predicate) :=
  match Clause.ofTokens? ts with
  | none => .ok none
  | some c => do
    return if ← g.check c.name then some (.leaf s.connective c.name (c.test s.negated)) else none

/-- The predicate of a statement, with a reading of the tokens inside a group. A group without
predicates is dropped. -/
def predicate? (g : Guard) (grouped : List Token → Except CompileError (List Predicate))
    (s : Statement) : Except CompileError (Option Predicate) :=
  match s.body with
  | .leaf ts => leaf? g s ts
  | .group ts => do
    let children ← grouped ts
    return if children.isEmpty then none else some (.group s.connective s.negated children)

/-- The predicates of a token list; the first one kept has no connective. -/
def sequence (g : Guard) (grouped : List Token → Except CompileError (List Predicate))
    (ts : List Token) : Except CompileError (List Predicate) := do
  return Predicate.headed none (← (statements ts).filterMapM (predicate? g grouped))

/-- The predicates inside a group, where further groups are dropped. -/
def children (g : Guard) : List Token → Except CompileError (List Predicate) :=
  sequence g fun _ => .ok []

/-- The predicates of a tidy token list. -/
def predicates (g : Guard) : List Token → Except CompileError (List Predicate) :=
  sequence g (children g)

/-- The predicates of a filter expression. -/
def compile (g : Guard) (input : String) : Except CompileError (List Predicate) :=
  predicates g (tidy (scan input))

end FacetSearch.Filter
