import FacetSearch.Facet.Token
import FacetSearch.Policy
import FacetSearch.Predicate

/-! Facets by attribute, and the predicates that they make. -/
namespace FacetSearch

/-- The facet values of each attribute, both in the order in which they were first seen. -/
abbrev FacetGroups := List (String × List FacetValue)

namespace FacetGroups

def ofFacets (fs : List Facet) : FacetGroups :=
  (fs.map (·.name)).eraseDups.map fun a => (a, (fs.filter (·.name == a)).map (·.value))

/-- The groups of the facets whose attributes are admitted. -/
def ofText (g : Guard) (input : String) : Except CompileError FacetGroups := do
  return ofFacets (← g.filter (·.name) (Facet.scan input.toList))

/-- The distinct values of one sign, in the order in which they were first seen. -/
def valuesOf (negated : Bool) (vs : List FacetValue) : List String :=
  ((vs.filter (·.negated == negated)).map (·.value)).eraseDups

/-- The test that excludes values, if there are any. -/
def exclusion : List String → List Test
  | [] => []
  | vs => [.inList vs true]

/-- The test that asks for values: all of them of a set, one of them of anything else. -/
def inclusion (isArray : Bool) : List String → List Test
  | [] => []
  | [v] => if isArray then [.arrayContains [v]] else [.comparison .eq (.text v) false]
  | vs => if isArray then [.arrayContains vs] else [.inList vs false]

/-- The predicates of all groups, joined by `AND`; the exclusions of an attribute come first. -/
def predicates (p : Policy) (groups : FacetGroups) : List Predicate :=
  Predicate.headed none <| groups.flatMap fun (a, vs) =>
    (exclusion (valuesOf true vs) ++ inclusion (p.isArray a) (valuesOf false vs)).map
      (.leaf (some .and) a)

/-- The predicates of a facet filter. -/
def compile (g : Guard) (input : String) : Except CompileError (List Predicate) := do
  return predicates g.policy (← ofText g input)

end FacetGroups
end FacetSearch
