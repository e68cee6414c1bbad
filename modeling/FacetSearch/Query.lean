import FacetSearch.Facet.Groups
import FacetSearch.Filter.Predicates
import FacetSearch.Request
import FacetSearch.Sort.Plan

/-! Compiled queries. -/
namespace FacetSearch

/-- All that the inputs of one request compile to. -/
structure Query where
  predicates : List Predicate := []
  sort : List SortTerm := []
  projection : Option (List String) := none
  deriving DecidableEq

namespace Query

/-- Whether a query selects everything as it is. -/
def isEmpty (q : Query) : Bool :=
  q.predicates.isEmpty && q.sort.isEmpty && q.projection.isNone

/-- The filters behind the facets, to which `AND` joins them. -/
def joined (facets filters : List Predicate) : List Predicate :=
  if facets.isEmpty then filters else facets ++ Predicate.headed (some .and) filters

/-- Compiles the facets, then the filters, then the sort plan of a request; the first of them that
fails ends it. -/
def attempt (p : Policy) (mode : Mode) (r : Request) : Except CompileError Query := do
  let g : Guard := ⟨p, mode⟩
  let facets ← FacetGroups.compile g (r.facetFilters.getD "")
  let filters ← Filter.compile g (r.filters.getD "")
  let sort ← SortTerm.compile g (r.sortBy.getD "")
  return { predicates := joined facets filters, sort,
           projection := FacetSearch.projection r.attributesToRetrieve }

/-- What a failure comes to: in permissive mode the query that restricts nothing. -/
def settle : Mode → Except CompileError Query → Except CompileError Query
  | .permissive, .error _ => .ok {}
  | _, result => result

/-- The query of a request. -/
def compile (p : Policy) (mode : Mode) (r : Request) : Except CompileError Query :=
  settle mode (attempt p mode r)

end Query
end FacetSearch
