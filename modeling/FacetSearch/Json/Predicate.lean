import FacetSearch.Json.Basic
import FacetSearch.Predicate
import FacetSearch.Text.Integer

/-!
The JSON form of predicates: objects tagged by their kind. What is read may also be an array of the
kind and the fields in order.
-/
namespace FacetSearch

namespace Json

def string? : Json → Option String
  | string s => some s
  | _ => none

def bool? : Json → Option Bool
  | bool b => some b
  | _ => none

/-- An integer that fits 64 bits. -/
def word? : Json → Option Int64
  | integer n => Text.word? n
  | _ => none

/-- A list all of whose items are strings. -/
def strings? : Json → Option (List String)
  | array items => items.mapM string?
  | _ => none

/-- Reads what may be left out or null. -/
def optional? {α : Type} (read? : Json → Option α) : Option Json → Option (Option α)
  | none => some none
  | some null => some none
  | some v => (read? v).map some

def ofOption {α : Type} (write : α → Json) : Option α → Json
  | none => null
  | some a => write a

def strings (ss : List String) : Json := array (ss.map string)

/-- One of some words: a string, or the only key of an object with null behind it. Where it says so
the object may also hold an empty object. -/
def choice? (emptyObject : Bool) : Json → Option String
  | string s => some s
  | object [(s, null)] => some s
  | object [(s, object [])] => if emptyObject then some s else none
  | _ => none

/-- The fields of a record: those of an object, or the items of an array in the order of their names,
of which some of the last ones may be left out. -/
def fields? (names : List String) (leftOut : Nat) : Json → Option (List (String × Json))
  | object fields => some fields
  | array items =>
    if items.length ≤ names.length ∧ names.length ≤ items.length + leftOut then
      some (names.zip items)
    else none
  | _ => none

end Json

/-- The value of a field among others. -/
def required? {α : Type} (fields : List (String × Json)) (name : String) (read? : Json → Option α) :
    Option α :=
  (fields.lookup name).bind read?

def Connective.toJson (k : Connective) : Json := .string k.keyword

def Connective.ofKeyword? : String → Option Connective
  | "and" => some .and
  | "or" => some .or
  | _ => none

def Connective.ofJson? (v : Json) : Option Connective := (v.choice? false).bind ofKeyword?

def Operator.toJson (op : Operator) : Json := .string op.symbol

def Operator.ofJson? (v : Json) : Option Operator := (v.choice? false).bind ofSymbol?

def Value.toJson : Value → Json
  | integer n => .integer n.toInt
  | text s => .string s

def Value.ofJson? : Json → Option Value
  | .integer n => (Text.word? n).map integer
  | .string s => some (text s)
  | _ => none

namespace Predicate

inductive Kind
  | comparison
  | range
  | inList
  | isNull
  | arrayContains
  | group
  deriving DecidableEq

namespace Kind

def all : List Kind := [comparison, range, inList, isNull, arrayContains, group]

def keyword : Kind → String
  | comparison => "comparison"
  | range => "range"
  | inList => "in_list"
  | isNull => "is_null"
  | arrayContains => "array_contains"
  | group => "group"

def ofKeyword? (s : String) : Option Kind := all.find? (·.keyword == s)

/-- Reads a kind, which inside a group may also be told by its number. -/
def ofJson? (inGroup : Bool) : Json → Option Kind
  | .string s => ofKeyword? s
  | .integer n => if inGroup && 0 ≤ n then all[n.toNat]? else none
  | _ => none

/-- The fields behind the kind, in order. -/
def fieldNames : Kind → List String
  | comparison => ["combinator", "attribute", "operator", "value", "negated"]
  | range => ["combinator", "attribute", "min", "max", "negated"]
  | inList => ["combinator", "attribute", "values", "negated"]
  | isNull => ["combinator", "attribute", "negated"]
  | arrayContains => ["combinator", "attribute", "values"]
  | group => ["combinator", "negated", "children"]

end Kind

end Predicate

namespace Test

def kind : Test → Predicate.Kind
  | comparison .. => .comparison
  | range .. => .range
  | inList .. => .inList
  | isNull .. => .isNull
  | arrayContains .. => .arrayContains

def toFields : Test → List (String × Json)
  | comparison op v negated =>
    [("operator", op.toJson), ("value", v.toJson), ("negated", .bool negated)]
  | range low high negated =>
    [("min", .integer low.toInt), ("max", .integer high.toInt), ("negated", .bool negated)]
  | inList vs negated => [("values", .strings vs), ("negated", .bool negated)]
  | isNull negated => [("negated", .bool negated)]
  | arrayContains vs => [("values", .strings vs)]

/-- Reads the fields that a kind of test has; others are passed over. -/
def ofFields? (kind : Predicate.Kind) (fields : List (String × Json)) : Option Test :=
  match kind with
  | .comparison => do
    return comparison
      (← required? fields "operator" fun v => (v.choice? true).bind Operator.ofSymbol?)
      (← required? fields "value" Value.ofJson?) (← required? fields "negated" Json.bool?)
  | .range => do
    return range (← required? fields "min" Json.word?) (← required? fields "max" Json.word?)
      (← required? fields "negated" Json.bool?)
  | .inList => do
    return inList (← required? fields "values" Json.strings?)
      (← required? fields "negated" Json.bool?)
  | .isNull => do return isNull (← required? fields "negated" Json.bool?)
  | .arrayContains => do return arrayContains (← required? fields "values" Json.strings?)
  | .group => none

end Test

namespace Predicate

mutual
def toJson : Predicate → Json
  | leaf k a t =>
    .object (("kind", .string t.kind.keyword) :: ("combinator", .ofOption Connective.toJson k) ::
      ("attribute", .string a) :: t.toFields)
  | group k negated children =>
    .object [("kind", .string Kind.group.keyword), ("combinator", .ofOption Connective.toJson k),
      ("negated", .bool negated), ("children", .array (toJsonList children))]

def toJsonList : List Predicate → List Json
  | [] => []
  | p :: ps => p.toJson :: toJsonList ps
end

/-- Reads the fields of a predicate, given what its children read as. -/
def ofFields? (kind : Kind) (fields : List (String × Json)) (children : Option (List Predicate)) :
    Option Predicate := do
  let connective? (v : Json) : Option Connective := (v.choice? true).bind Connective.ofKeyword?
  let k ← Json.optional? connective? (fields.lookup "combinator")
  if kind = .group then return group k (← required? fields "negated" Json.bool?) (← children)
  else return leaf k (← required? fields "attribute" Json.string?) (← Test.ofFields? kind fields)

mutual
/-- Reads a predicate, which may stand in a group. -/
def read? (inGroup : Bool) : Json → Option Predicate
  | .object fields => do
    ofFields? (← required? fields "kind" (Kind.ofJson? inGroup)) fields (childrenOf? fields)
  | .array (v :: items) => do
    let kind ← Kind.ofJson? inGroup v
    ofFields? kind (← (Json.array items).fields? kind.fieldNames 0) (lastOf? items)
  | _ => none

/-- The predicates in the field for children, which is the first of that name. -/
def childrenOf? : List (String × Json) → Option (List Predicate)
  | [] => none
  | (name, v) :: fields => if name = "children" then readList? true v else childrenOf? fields

/-- The predicates in the last item. -/
def lastOf? : List Json → Option (List Predicate)
  | [] => none
  | [v] => readList? true v
  | _ :: items => lastOf? items

def readList? (inGroup : Bool) : Json → Option (List Predicate)
  | .array items => readItems? inGroup items
  | _ => none

def readItems? (inGroup : Bool) : List Json → Option (List Predicate)
  | [] => some []
  | v :: vs => do return (← read? inGroup v) :: (← readItems? inGroup vs)
end

def ofJson? (v : Json) : Option Predicate := read? false v

def listOfJson? (v : Json) : Option (List Predicate) := readList? false v

end Predicate
end FacetSearch
