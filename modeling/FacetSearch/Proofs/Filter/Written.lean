import FacetSearch.Filter.Token.Basic
import FacetSearch.Policy
import FacetSearch.Predicate

/-! Filters as they are meant to be written: their statements, the text of these, and the predicates
that they ask for. -/
namespace FacetSearch.Filter.Written

/-- An attribute name that is not a keyword. -/
structure Name where
  text : String
  isAttributeName : isAttributeName text
  ne_keyword : ∀ k ∈ ["and", "or", "not"], Text.equalsIgnoringCase text.toList k.toList = false

inductive Clause
  /-- An attribute between two integers in either order, such as `price:100 TO 200`. -/
  | range (name : Name) (a b : Int64)
  /-- An attribute against an integer, such as `year < 2020`. -/
  | numeric (name : Name) (operator : Operator) (n : Int64)
  /-- An attribute with a value, such as `make:"Nissan"`. -/
  | value (name : Name) (v : String)
  /-- An attribute with one of some values, such as `condition:("NEW","USED")`. -/
  | list (name : Name) (v : String) (vs : List String)

/-- One item of a list with what stands before it. The connective before the first item of a list
is not written. -/
structure Part (α : Type) where
  connective : Connective
  negated : Bool
  body : α

/-- A clause, or a group of two clauses or more. -/
inductive Body
  | clause (c : Clause)
  | group (first second : Part Clause) (more : List (Part Clause))

abbrev Statement := Part Body

section Lists

variable {α : Type}

def connectiveText : Connective → String
  | .and => " AND "
  | .or => " OR "

def Part.text (text : α → String) (p : Part α) : String :=
  (if p.negated then "NOT " else "") ++ text p.body

/-- The text of a list of items, from the text of each. -/
def listText (text : α → String) : List (Part α) → String
  | [] => ""
  | p :: ps =>
    p.text text ++ String.join (ps.map fun q => connectiveText q.connective ++ q.text text)

/-- The predicates of a list of items, from the predicate of each. -/
def listPredicates (predicate : Option Connective → Bool → α → Predicate) :
    List (Part α) → List Predicate
  | [] => []
  | p :: ps =>
    predicate none p.negated p.body ::
      ps.map fun q => predicate (some q.connective) q.negated q.body

end Lists

section Text

/-- A text with a backslash before each quote and backslash. -/
def escaped (v : List Char) : List Char :=
  v.flatMap fun c => if c = '"' ∨ c = '\\' then ['\\', c] else [c]

def quoted (v : String) : String := "\"" ++ .ofList (escaped v.toList) ++ "\""

def Clause.text : Clause → String
  | range a m n => a.text ++ ":" ++ toString m.toInt ++ " TO " ++ toString n.toInt
  | numeric a op n => a.text ++ " " ++ op.symbol ++ " " ++ toString n.toInt
  | value a v => a.text ++ ":" ++ quoted v
  | list a v vs => a.text ++ ":(" ++ ",".intercalate ((v :: vs).map quoted) ++ ")"

def Body.text : Body → String
  | clause c => c.text
  | group p q ps => "(" ++ listText Clause.text (p :: q :: ps) ++ ")"

/-- The text of a filter. -/
def text (ss : List Statement) : String := listText Body.text ss

end Text

section Meaning

/-- The test for some distinct values. -/
def valuesTest (negated : Bool) : List String → Test
  | ["NULL"] => .isNull negated
  | [v] => .comparison (if negated then .ne else .eq) (.text v) negated
  | vs => .inList vs negated

def Clause.name : Clause → Name
  | range a _ _ => a
  | numeric a _ _ => a
  | value a _ => a
  | list a _ _ => a

def Clause.test (negated : Bool) : Clause → Test
  | range _ m n => .range (min m n) (max m n) negated
  | numeric _ op n => .comparison (if negated then op.negate else op) (.integer n) negated
  | value _ v => valuesTest negated [v]
  | list _ v vs => valuesTest negated (v :: vs).eraseDups

def Clause.predicate (k : Option Connective) (negated : Bool) (c : Clause) : Predicate :=
  .leaf k c.name.text (c.test negated)

def Body.predicate (k : Option Connective) (negated : Bool) : Body → Predicate
  | clause c => c.predicate k negated
  | group p q ps => .group k negated (listPredicates Clause.predicate (p :: q :: ps))

/-- The predicates that a filter asks for. -/
def predicates (ss : List Statement) : List Predicate := listPredicates Body.predicate ss

end Meaning
end FacetSearch.Filter.Written
