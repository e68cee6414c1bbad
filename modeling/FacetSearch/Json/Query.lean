import FacetSearch.Json.Predicate
import FacetSearch.Query

/-!
The JSON form of compiled queries. What is read may give any record as an array of its fields in
order.
-/
namespace FacetSearch

def Direction.toJson (d : Direction) : Json := .string d.keyword

def Direction.ofJson? (v : Json) : Option Direction :=
  (v.choice? false).bind fun
    | "asc" => some .asc
    | "desc" => some .desc
    | _ => none

def Literal.toJson : Literal → Json
  | numeric s => .object [("type", .string "numeric"), ("value", .string s)]
  | text s => .object [("type", .string "text"), ("value", .string s)]

/-- The literal of a type, which is taken as it is written and not judged again by its text. -/
def Literal.ofType? (type s : String) : Option Literal :=
  if type = "numeric" then some (.numeric s)
  else if type = "text" then some (.text s)
  else none

def Literal.ofJson? : Json → Option Literal
  | .object fields => do
    ofType? (← required? fields "type" (Json.choice? false)) (← required? fields "value" Json.string?)
  | .array [.string type, .string s] => ofType? type s
  | _ => none

def SortCondition.toJson (c : SortCondition) : Json :=
  .object [("operator", c.operator.toJson), ("value", c.value.toJson)]

def SortCondition.ofJson? (v : Json) : Option SortCondition := do
  let fields ← v.fields? ["operator", "value"] 0
  return ⟨← required? fields "operator" Operator.ofJson?, ← required? fields "value" Literal.ofJson?⟩

def SortTerm.toJson (t : SortTerm) : Json :=
  .object [("column", .string t.column), ("direction", t.direction.toJson),
    ("conditional", .ofOption SortCondition.toJson t.condition), ("nulls_last", .bool t.nullsLast)]

/-- Reads a sort term; without a word on nulls they are not put last. -/
def SortTerm.ofJson? (v : Json) : Option SortTerm := do
  let fields ← v.fields? ["column", "direction", "conditional", "nulls_last"] 1
  return {
    column := ← required? fields "column" Json.string?
    direction := ← required? fields "direction" Direction.ofJson?
    condition := ← Json.optional? SortCondition.ofJson? (fields.lookup "conditional")
    nullsLast := ← match fields.lookup "nulls_last" with
      | none => some false
      | some v => v.bool? }

namespace Query

def toJson (q : Query) : Json :=
  .object [("predicates", .array (Predicate.toJsonList q.predicates)),
    ("sort", .array (q.sort.map SortTerm.toJson)),
    ("projection", .ofOption Json.strings q.projection)]

def sortOfJson? : Json → Option (List SortTerm)
  | .array items => items.mapM SortTerm.ofJson?
  | _ => none

def ofJson? (v : Json) : Option Query := do
  let fields ← v.fields? ["predicates", "sort", "projection"] 0
  return {
    predicates := ← required? fields "predicates" Predicate.listOfJson?
    sort := ← required? fields "sort" sortOfJson?
    projection := ← Json.optional? Json.strings? (fields.lookup "projection") }

end Query
end FacetSearch
