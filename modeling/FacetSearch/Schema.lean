import FacetSearch.NameSet
import FacetSearch.Policy

/-! What a configuration says about the attributes of one filtering context. -/
namespace FacetSearch

structure Schema where
  /-- The table to select from, where it is not named like the context. -/
  table : Option String := none
  filterable : NameSet := .empty
  arrayAttributes : NameSet := .empty
  bucketSortFields : NameSet := .empty
  /-- Without it every attribute is filterable. -/
  enforceAllowList : Bool := true
  deriving DecidableEq

namespace Schema

def policy (s : Schema) : Policy where
  isFilterable a := !s.enforceAllowList || s.filterable.has a
  isArray a := s.arrayAttributes.has a
  isBucketSorted a := s.bucketSortFields.has a

/-- All attribute names that a schema mentions. -/
def names (s : Schema) : List String :=
  s.filterable.names ++ s.arrayAttributes.names ++ s.bucketSortFields.names

end Schema
end FacetSearch
