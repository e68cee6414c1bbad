import FacetSearch.Operator
import FacetSearch.Text.Basic
import FacetSearch.Text.Decimal

/-! The terms of a sort plan. -/
namespace FacetSearch

inductive Direction
  | asc
  | desc
  deriving DecidableEq

def Direction.keyword : Direction → String
  | asc => "asc"
  | desc => "desc"

/-- The direction that a text names, in any case of its letters. -/
def Direction.ofText? (s : List Char) : Option Direction :=
  if Text.equalsIgnoringCase s ['a', 's', 'c'] then some asc
  else if Text.equalsIgnoringCase s ['d', 'e', 's', 'c'] then some desc
  else none

/-- The value of a sort condition, kept as it was written. -/
inductive Literal
  | numeric (text : String)
  | text (text : String)
  deriving DecidableEq

/-- A literal is numeric where it is a finite decimal number. -/
def Literal.ofText (s : List Char) : Literal :=
  if Text.isFiniteDecimal s then numeric (.ofList s) else text (.ofList s)

/-- What splits the rows into those for which it holds and all others. -/
structure SortCondition where
  operator : Operator
  value : Literal
  deriving DecidableEq

structure SortTerm where
  column : String
  direction : Direction
  condition : Option SortCondition
  /-- Whether rows without a value, or with zero, come last in either direction. -/
  nullsLast : Bool := false
  deriving DecidableEq

end FacetSearch
