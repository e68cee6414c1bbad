import FacetSearch.Operator
import FacetSearch.Text.Quoted

/-! The tokens of filter expressions. -/
namespace FacetSearch.Filter

inductive Token
  | word (text : String)
  | quoted (text : String)
  | comparison (operator : Operator)
  | colon
  | comma
  | opening
  | closing
  | connective (k : Connective)
  | negation
  deriving DecidableEq

namespace Token

/-- The connective that a token is, if it is one. -/
def connective? : Token → Option Connective
  | connective k => some k
  | _ => none

/-- The keyword that a word spells in any case of its letters, or the word itself. -/
def ofWord (w : List Char) : Token :=
  if Text.equalsIgnoringCase w ['a', 'n', 'd'] then connective .and
  else if Text.equalsIgnoringCase w ['o', 'r'] then connective .or
  else if Text.equalsIgnoringCase w ['n', 'o', 't'] then negation
  else word (.ofList w)

/-- How messages show a token. -/
def display : Token → String
  | word s => s
  | quoted s => Text.quoted s
  | comparison op => op.symbol
  | colon => ":"
  | comma => ","
  | opening => "("
  | closing => ")"
  | connective .and => "AND"
  | connective .or => "OR"
  | negation => "NOT"

/-- How messages show a run of tokens. -/
def displayAll (ts : List Token) : String :=
  " ".intercalate (ts.map display)

end Token
end FacetSearch.Filter
