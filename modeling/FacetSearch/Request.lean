import FacetSearch.Text.Basic

/-! The inputs of one request, picked out of named parameters. -/
namespace FacetSearch

/-- The parameter name of each input. -/
structure ParameterNames where
  filters : String := "filters"
  facetFilters : String := "facetFilters"
  sortBy : String := "sortBy"
  attributesToRetrieve : String := "attributesToRetrieve"
  deriving DecidableEq

structure Request where
  filters : Option String := none
  facetFilters : Option String := none
  sortBy : Option String := none
  attributesToRetrieve : List String := []
  deriving DecidableEq

/-- The parts of a text between its commas. -/
def commaParts (s : String) : List String :=
  (s.toList.splitOn ',').map .ofList

namespace Request

/-- Takes one parameter in. The names are tried in the order of the inputs; the columns to retrieve
may also come under their name with `[]` behind it, and they add up. -/
def accept (names : ParameterNames) (r : Request) : String × String → Request
  | (key, value) =>
    if key = names.filters then { r with filters := some value }
    else if key = names.facetFilters then { r with facetFilters := some value }
    else if key = names.sortBy then { r with sortBy := some value }
    else if key = names.attributesToRetrieve ∨ key = names.attributesToRetrieve ++ "[]" then
      { r with attributesToRetrieve := r.attributesToRetrieve ++ commaParts value }
    else r

def ofPairs (names : ParameterNames) (pairs : List (String × String)) : Request :=
  pairs.foldl (accept names) {}

end Request

/-- The columns to select, or none where none are named or a star asks for all of them. -/
def projection (columns : List String) : Option (List String) :=
  let named := (columns.map fun c => String.ofList (Text.trim c.toList)).filter (· != "")
  if named.isEmpty || named.contains "*" then none else some named

end FacetSearch
