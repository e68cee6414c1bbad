import FacetSearch.Filter.Token.Basic
import FacetSearch.Policy
import FacetSearch.Predicate
import FacetSearch.Text.Integer

/-! The clauses of a filter: a range, a numeric comparison, or the values of an attribute. -/
namespace FacetSearch.Filter

/-- What one statement asks, without its negation. -/
inductive Clause
  /-- An attribute between two integers, such as `price:100 TO 200`. -/
  | range (name : String) (min max : Int64)
  /-- An attribute against an integer, such as `year < 2020`. -/
  | numeric (name : String) (operator : Operator) (value : Int64)
  /-- An attribute with one of some values, such as `condition:("NEW","USED")`. -/
  | values (name : String) (values : List String)
  deriving DecidableEq

namespace Clause

/-- The attribute that a clause is about. -/
def name : Clause → String
  | range a _ _ => a
  | numeric a _ _ => a
  | values a _ => a

/-- The two integers of a range, where a text is written as one. -/
def bounds? : List Token → Option (String × Int × Int)
  | [.word a, .colon, .word low, .word between, .word high] =>
    if isAttributeName a ∧ Text.equalsIgnoringCase between.toList ['t', 'o'] then do
      return (a, ← Text.integer? low.toList, ← Text.integer? high.toList)
    else none
  | _ => none

/-- A range runs from the smaller bound to the larger one; both must fit 64 bits. -/
def ofBounds? : String × Int × Int → Option Clause
  | (a, low, high) => do return range a (← Text.word? (min low high)) (← Text.word? (max low high))

def numeric? : List Token → Option Clause
  | [.word a, .comparison op, .word n] =>
    if isAttributeName a then do return numeric a op (← Text.word? (← Text.integer? n.toList))
    else none
  | _ => none

/-- The items of a value list, which commas separate. -/
def items? : List Token → Option (List String)
  | [.word s] => some [s]
  | [.quoted s] => some [s]
  | .word s :: .comma :: ts => (items? ts).map (s :: ·)
  | .quoted s :: .comma :: ts => (items? ts).map (s :: ·)
  | _ => none

/-- The items of a value list in parentheses, each at its first place only. -/
def list? (ts : List Token) : Option (List String) :=
  match ts.getLast? with
  | some .closing => (items? ts.dropLast).map List.eraseDups
  | _ => none

def words? (ts : List Token) : Option (List String) :=
  ts.mapM fun
    | .word s => some s
    | _ => none

/-- What stands behind the colon: a quoted text, a list in parentheses, or words that run to the end
of the statement. -/
def values? : List Token → Option (List String)
  | [] => none
  | [.quoted s] => some [s]
  | .opening :: ts => list? ts
  | ts => (words? ts).map fun ws => [" ".intercalate ws]

def attribute? : List Token → Option Clause
  | .word a :: .colon :: ts =>
    if isAttributeName a then (values? ts).map (values a) else none
  | _ => none

/-- The clause that tokens make. A range is tried first, since it could also be read as words; one
whose bounds are too large is no clause at all. -/
def ofTokens? (ts : List Token) : Option Clause :=
  match bounds? ts with
  | some b => ofBounds? b
  | none => (numeric? ts).or (attribute? ts)

/-- The test of a single value; the word `NULL` asks for missing values. -/
def testOf (negated : Bool) (value : String) : Test :=
  if value = "NULL" then .isNull negated
  else .comparison (if negated then .ne else .eq) (.text value) negated

/-- The test that a clause asks for, negated or not. -/
def test (negated : Bool) : Clause → Test
  | range _ low high => .range low high negated
  | numeric _ op n => .comparison (if negated then op.negate else op) (.integer n) negated
  | values _ [] => testOf negated ""
  | values _ [v] => testOf negated v
  | values _ vs => .inList vs negated

end Clause
end FacetSearch.Filter
