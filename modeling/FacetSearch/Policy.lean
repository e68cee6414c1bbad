import FacetSearch.Unicode.Classes

/-! Which attributes a request may mention, and what happens when it mentions another. -/
namespace FacetSearch
open Unicode

/-- What is known of the attributes of one filtering context. -/
structure Policy where
  /-- Whether filters, facets and sorts may mention the attribute. -/
  isFilterable : String → Bool
  /-- Whether the attribute holds a set, so that facets ask for containment. -/
  isArray : String → Bool := fun _ => false
  /-- Whether plain sorts on the column put nulls and zeros last. -/
  isBucketSorted : String → Bool := fun _ => false

/-- How a mention of a disallowed attribute is met. -/
inductive Mode
  /-- The request fails. -/
  | strict
  /-- The fragment with the mention is skipped. -/
  | permissive
  deriving DecidableEq

inductive CompileError
  | unfilterable (name : String)
  deriving DecidableEq

def CompileError.message : CompileError → String
  | unfilterable a => "\"" ++ a ++ "\" attribute is not filterable"

/-- A policy with the mode it is enforced in. -/
structure Guard where
  policy : Policy
  mode : Mode

/-- Whether a fragment that mentions the attribute is kept. -/
def Guard.check (g : Guard) (name : String) : Except CompileError Bool :=
  if g.policy.isFilterable name then .ok true
  else match g.mode with
    | .strict => .error (.unfilterable name)
    | .permissive => .ok false

/-- The items whose attribute the guard admits, in order. -/
def Guard.filter {α : Type} (g : Guard) (name : α → String) (xs : List α) :
    Except CompileError (List α) :=
  xs.filterMapM fun x => do return if ← g.check (name x) then some x else none

/-- The characters of attribute names. -/
def isNameChar (c : Char) : Bool := isAlphanumeric c || c == '_'

/-- Attribute names are non-empty and have letters, numbers and underscores only. -/
def isAttributeName (s : String) : Bool := s != "" && s.toList.all isNameChar

theorem isAttributeName_iff {s : String} :
    isAttributeName s ↔ s ≠ "" ∧ ∀ c ∈ s.toList, isNameChar c := by
  simp [isAttributeName]

end FacetSearch
