/-! The connectives between predicates and the operators inside them. -/
namespace FacetSearch

/-- How a predicate is joined to the one before it. -/
inductive Connective
  | and
  | or
  deriving DecidableEq

def Connective.keyword : Connective → String
  | .and => "and"
  | .or => "or"

inductive Operator
  | eq
  | ne
  | gt
  | ge
  | lt
  | le
  deriving DecidableEq

namespace Operator

def symbol : Operator → String
  | eq => "="
  | ne => "!="
  | gt => ">"
  | ge => ">="
  | lt => "<"
  | le => "<="

/-- The operators of numeric filters, the longer symbols before those they start with. -/
def comparing : List Operator := [ne, ge, le, eq, gt, lt]

/-- The operators of sort conditions. -/
def sorting : List Operator := [ne, eq, lt, gt]

def ofSymbol? (s : String) : Option Operator :=
  comparing.find? (·.symbol == s)

@[simp] theorem ofSymbol?_symbol (op : Operator) : ofSymbol? op.symbol = some op := by
  cases op <;> rfl

/-- The operator that holds exactly where this one fails. -/
def negate : Operator → Operator
  | eq => ne
  | ne => eq
  | gt => le
  | ge => lt
  | lt => ge
  | le => gt

@[simp] theorem negate_negate (op : Operator) : op.negate.negate = op := by
  cases op <;> rfl

end Operator
end FacetSearch
