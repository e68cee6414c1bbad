import FacetSearch.Json.Query
import Mathlib.Tactic.Common

/-! The JSON form of compiled queries loses nothing: what was written is read back, record by record
and down the predicate tree. -/
namespace FacetSearch

namespace Json

section Readers

variable {α : Type} {write : α → Json} {read? : Json → Option α}
  (hread : ∀ a, read? (write a) = some a)
include hread

/-- A list is read back if each of its items is. -/
lemma mapM_map (as : List α) : (as.map write).mapM read? = some as := by
  induction as with
  | nil => rfl
  | cons a as ih => rw [List.map_cons, List.mapM_cons, hread, ih]; rfl

/-- What may be left out is read back if it is never written as null. -/
lemma optional?_ofOption (hnull : ∀ a, write a ≠ null) (o : Option α) :
    optional? read? (some (ofOption write o)) = some o := by
  cases o with
  | none => rfl
  | some a =>
    rw [ofOption, optional?, hread, Option.map_some]
    exact fun h => hnull a h

end Readers

@[simp] lemma strings?_strings (ss : List String) : (strings ss).strings? = some ss := by
  have hstring (s : String) : string? (string s) = some s := rfl
  exact mapM_map hstring ss

end Json

@[simp] lemma required?_cons {α : Type} (name name' : String) (v : Json)
    (fields : List (String × Json)) (read? : Json → Option α) :
    required? ((name', v) :: fields) name read? =
      if name = name' then read? v else required? fields name read? := by
  unfold required?
  rw [List.lookup_cons]
  by_cases h : name = name'
  · simp [h]
  · simp [h, beq_false_of_ne h]

lemma Connective.ofKeyword?_keyword (k : Connective) : ofKeyword? k.keyword = some k := by
  cases k <;> rfl

lemma Operator.ofJson?_toJson (op : Operator) : ofJson? op.toJson = some op := ofSymbol?_symbol op

/-- Integers and texts keep apart, also where the text is that of a number. -/
@[simp] lemma Value.ofJson?_toJson (v : Value) : ofJson? v.toJson = some v := by
  cases v with
  | integer n => rw [toJson, ofJson?, Text.word?_toInt, Option.map_some]
  | text s => rfl

namespace Predicate

lemma Kind.ofKeyword?_keyword (kind : Kind) : ofKeyword? kind.keyword = some kind := by
  cases kind <;> rfl

lemma childrenOf?_eq (fields : List (String × Json)) :
    childrenOf? fields = required? fields "children" (readList? true) := by
  induction fields with
  | nil => rfl
  | cons field fields ih =>
    obtain ⟨name, v⟩ := field
    rw [childrenOf?, required?_cons, ih]
    simp only [eq_comm]

end Predicate

/-- The fields of a test are read back behind those that every leaf has. -/
lemma Test.ofFields?_toFields (t : Test) (kind connective name : Json) :
    ofFields? t.kind (("kind", kind) :: ("combinator", connective) :: ("attribute", name) ::
      t.toFields) = some t := by
  have hsymbol (op : Operator) : ((op.toJson.choice? true).bind Operator.ofSymbol?) = some op :=
    Operator.ofSymbol?_symbol op
  cases t <;> simp [ofFields?, Test.kind, toFields, hsymbol, Json.word?, Json.bool?]

namespace Predicate

mutual
/-- A predicate is read back at the top and inside groups alike. -/
lemma read?_toJson (inGroup : Bool) (p : Predicate) : read? inGroup p.toJson = some p := by
  have hk (k : Option Connective) :
      Json.optional? (fun v => (v.choice? true).bind Connective.ofKeyword?)
        (some (.ofOption Connective.toJson k)) = some k :=
    Json.optional?_ofOption Connective.ofKeyword?_keyword (fun _ => Json.noConfusion) k
  match p with
  | leaf k a t =>
    have hkind : t.kind ≠ .group := by cases t <;> simp [Test.kind]
    simp [toJson, read?, Kind.ofJson?, Kind.ofKeyword?_keyword, ofFields?, hkind,
      List.lookup_cons, hk, Json.string?, Test.ofFields?_toFields]
  | group k negated children =>
    have hchildren := readItems?_toJsonList true children
    simp [toJson, read?, Kind.ofJson?, Kind.ofKeyword?_keyword, ofFields?, List.lookup_cons, hk,
      Json.bool?, childrenOf?_eq, readList?, hchildren]

lemma readItems?_toJsonList (inGroup : Bool) (ps : List Predicate) :
    readItems? inGroup (toJsonList ps) = some ps := by
  match ps with
  | [] => rfl
  | p :: ps =>
    rw [toJsonList, readItems?, read?_toJson inGroup p, readItems?_toJsonList inGroup ps]
    rfl
end

end Predicate

@[simp] lemma Direction.ofJson?_toJson (d : Direction) : ofJson? d.toJson = some d := by
  cases d <;> rfl

/-- The type is written beside the text, so that the text is not judged again. -/
@[simp] lemma Literal.ofJson?_toJson (l : Literal) : ofJson? l.toJson = some l := by
  cases l <;> rfl

@[simp] lemma SortCondition.ofJson?_toJson (c : SortCondition) : ofJson? c.toJson = some c := by
  simp [toJson, ofJson?, Json.fields?, Operator.ofJson?_toJson]

lemma SortTerm.ofJson?_toJson (t : SortTerm) : ofJson? t.toJson = some t := by
  have hcondition := Json.optional?_ofOption SortCondition.ofJson?_toJson
    (fun _ => Json.noConfusion) t.condition
  simp [toJson, ofJson?, Json.fields?, List.lookup_cons, hcondition, Json.string?, Json.bool?]

namespace Query

lemma ofJson?_toJson (q : Query) : ofJson? q.toJson = some q := by
  have hprojection := Json.optional?_ofOption Json.strings?_strings
    (fun _ => Json.noConfusion) q.projection
  have hsort := Json.mapM_map SortTerm.ofJson?_toJson q.sort
  have hpredicates := Predicate.readItems?_toJsonList false q.predicates
  simp [toJson, ofJson?, Json.fields?, List.lookup_cons, Predicate.listOfJson?, Predicate.readList?,
    sortOfJson?, hprojection, hsort, hpredicates]

/-- A query comes back from its JSON form. So what was read once, with defaults for what was left out
and without the fields that have no meaning, does not change when it is written and read again. -/
theorem json_lossless :
    (∀ q : Query, ofJson? q.toJson = some q) ∧
    ∀ (v : Json) (q : Query), ofJson? v = some q → ofJson? q.toJson = some q :=
  ⟨ofJson?_toJson, fun _ q _ => ofJson?_toJson q⟩

/-- Connectives, a projection and the place of nulls are left out here, and two fields are unknown. -/
theorem json_lossless_defaults :
    let v : Json := .object [
      ("predicates", .array [.object [("kind", .string "group"), ("negated", .bool true),
        ("children", .array [.object [("kind", .string "comparison"), ("attribute", .string "year"),
          ("operator", .string "<="), ("value", .integer (-9223372036854775808)),
          ("negated", .bool false), ("hint", .null)]])]]),
      ("sort", .array [.object [("column", .string "price"), ("direction", .string "asc"),
        ("rank", .integer 1)]])]
    let q : Query := {
      predicates := [.group none true
        [.leaf none "year" (.comparison .le (.integer Int64.minValue) false)]]
      sort := [{ column := "price", direction := .asc, condition := none }] }
    ofJson? v = some q ∧ ofJson? q.toJson = some q := by
  intro v q
  have hv : ofJson? v = some q := by decide +kernel
  exact ⟨hv, json_lossless.2 v q hv⟩

end Query
end FacetSearch
