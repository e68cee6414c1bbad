import FacetSearch.Filter.Token.Basic

/-! Removing the parentheses that mean nothing: those without a partner and those around nothing. -/
namespace FacetSearch.Filter

/-- Drops each closing parenthesis that meets no open one; the number counts the open ones. -/
def dropStrayClosings : Nat → List Token → List Token
  | _, [] => []
  | n, .opening :: ts => .opening :: dropStrayClosings (n + 1) ts
  | 0, .closing :: ts => dropStrayClosings 0 ts
  | n + 1, .closing :: ts => .closing :: dropStrayClosings n ts
  | n, t :: ts => t :: dropStrayClosings n ts

/-- Puts a token before a list, unless it opens a parenthesis that the list does not close. The
number counts the closing parentheses of the list that still lack a partner. -/
def consClosed : Token → Nat × List Token → Nat × List Token
  | .opening, (0, ts) => (0, ts)
  | .opening, (n + 1, ts) => (n, .opening :: ts)
  | .closing, (n, ts) => (n + 1, .closing :: ts)
  | t, (n, ts) => (n, t :: ts)

/-- Drops each opening parenthesis that nothing closes. -/
def dropStrayOpenings (ts : List Token) : List Token :=
  (ts.foldr consClosed (0, [])).2

/-- Puts a token before a list, unless the two make an empty pair of parentheses. -/
def consNonempty : Token → List Token → List Token
  | .opening, .closing :: ts => ts
  | t, ts => t :: ts

/-- Drops the pairs of parentheses around nothing, also those that are empty only then. -/
def dropEmptyPairs (ts : List Token) : List Token :=
  ts.foldr consNonempty []

/-- The tokens with only those parentheses that have a partner and something between them. -/
def tidy (ts : List Token) : List Token :=
  dropEmptyPairs (dropStrayOpenings (dropStrayClosings 0 ts))

@[simp] theorem dropEmptyPairs_nil : dropEmptyPairs [] = [] := rfl

@[simp] theorem dropEmptyPairs_cons (t : Token) (ts : List Token) :
    dropEmptyPairs (t :: ts) = consNonempty t (dropEmptyPairs ts) := rfl

@[simp] theorem tidy_nil : tidy [] = [] := rfl

end FacetSearch.Filter
