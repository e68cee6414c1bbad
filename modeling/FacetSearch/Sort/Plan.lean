import FacetSearch.Policy
import FacetSearch.Sort.Term

/-!
Sort expressions such as `make=Toyota,asc|year|exterior_color!=Black`: terms with a bar between
them, each a column with an optional condition and an optional direction behind the last comma.
-/
namespace FacetSearch
open Text

/-- Reads what follows the column: nothing, or an operator and a value. The value does not start
with an equals sign, so `>=` and `<=` are no operators here. -/
def SortCondition.ofText? : List Char → Option (Option SortCondition)
  | [] => some none
  | '!' :: '=' :: value => condition .ne value
  | '=' :: value => condition .eq value
  | '<' :: value => condition .lt value
  | '>' :: value => condition .gt value
  | _ => none
where
  condition (op : Operator) (value : List Char) : Option (Option SortCondition) :=
    if value.head? = some '=' then none else some (some ⟨op, .ofText value⟩)

namespace SortTerm

/-- Reads a column and what follows it. -/
def ofBody? (direction : Direction) (body : List Char) : Option SortTerm :=
  let column := body.takeWhile isNameChar
  if column = [] then none
  else (SortCondition.ofText? (body.dropWhile isNameChar)).map fun condition =>
    { column := .ofList column, direction, condition }

/-- Reads one term; without a direction it sorts descending. -/
def ofText? (s : List Char) : Option SortTerm :=
  match cutLast? ',' s with
  | some (body, suffix) => do ofBody? (← Direction.ofText? (trim suffix)) (trim body)
  | none => ofBody? .desc (trim s)

/-- The terms of an expression. Whatever is no term is dropped. -/
def scan (s : List Char) : List SortTerm :=
  (s.splitOn '|').filterMap fun part => ofText? (trim part)

/-- Marks a term without condition on a bucket-sorted column. -/
def marked (p : Policy) (t : SortTerm) : SortTerm :=
  { t with nullsLast := t.condition.isNone && p.isBucketSorted t.column }

/-- The plan of a sort expression. -/
def compile (g : Guard) (input : String) : Except CompileError (List SortTerm) := do
  return (← g.filter (·.column) (scan input.toList)).map (marked g.policy)

end SortTerm
end FacetSearch
