import FacetSearch.Json.Basic
import FacetSearch.Query

/-! Queries as readable SQL, with their values written into the text. -/
namespace FacetSearch.Sql

/-- A text between two marks; a mark inside it is written twice. -/
def enclosed (mark : Char) (s : String) : String :=
  String.ofList (mark :: Text.doubled mark s.toList ++ [mark])

def identifier (name : String) : String := enclosed '"' name

def string (s : String) : String := enclosed '\'' s

def value : Value → String
  | .integer n => toString n.toInt
  | .text s => string s

def not (negated : Bool) : String := if negated then "not " else ""

def test (name : String) : Test → String
  | .comparison op v _ => identifier name ++ " " ++ op.symbol ++ " " ++ value v
  | .range low high negated =>
    identifier name ++ " " ++ not negated ++ "between " ++ toString low.toInt ++ " and " ++
      toString high.toInt
  | .inList vs negated =>
    identifier name ++ " " ++ not negated ++ "in (" ++ ", ".intercalate (vs.map string) ++ ")"
  | .isNull negated => identifier name ++ " is " ++ not negated ++ "null"
  | .arrayContains vs =>
    identifier name ++ " @> " ++ string (Json.array (vs.map .string)).compact

/-- The word between two predicates; `and` where the second has none. -/
def junction (k : Option Connective) : String :=
  " " ++ (k.getD .and).keyword ++ " "

mutual
def predicate : Predicate → String
  | .leaf _ a t => test a t
  | .group _ negated children => not negated ++ "(" ++ predicates children ++ ")"

/-- Predicates from left to right, each behind its own connective but the first. -/
def predicates : List Predicate → String
  | [] => ""
  | p :: ps => predicate p ++ continued ps

def continued : List Predicate → String
  | [] => ""
  | p :: ps => junction p.connective ++ predicate p ++ continued ps
end

def literal : Literal → String
  | .numeric s => s
  | .text s => string s

/-- A sort term; a condition and a bucket-sorted column put rows into one of two halves first. -/
def sortTerm (t : SortTerm) : String :=
  match t.condition with
  | some c =>
    "case when(" ++ t.column ++ c.operator.symbol ++ literal c.value ++ ") then 1 else 0 end " ++
      t.direction.keyword
  | none =>
    let column := identifier t.column
    if t.nullsLast then
      "case when(" ++ column ++ " is null or " ++ column ++ " = 0) then 1 else 0 end asc, " ++
        column ++ " " ++ t.direction.keyword
    else column ++ " " ++ t.direction.keyword

def columns : Option (List String) → String
  | some names => ", ".intercalate (names.map identifier)
  | none => "*"

/-- The statement that selects the rows of a query from a table. -/
def render (table : String) (q : Query) : String :=
  "select " ++ columns q.projection ++ " from " ++ identifier table ++
    (if q.predicates.isEmpty then "" else " where " ++ predicates q.predicates) ++
    (if q.sort.isEmpty then "" else " order by " ++ ", ".intercalate (q.sort.map sortTerm))

end FacetSearch.Sql
