import FacetSearch.Request
import Mathlib.Data.List.Induction
import Mathlib.Data.List.Nodup

/-! Which input a parameter is for, and what a list of parameters comes to, input by input: the
columns to retrieve add up, and of all else the last value counts. -/
namespace FacetSearch

/-- The inputs of a request. -/
inductive Input
  | filters
  | facetFilters
  | sortBy
  | attributesToRetrieve
  deriving DecidableEq

/-- All inputs, in the order in which their names are tried. -/
def Input.all : List Input := [filters, facetFilters, sortBy, attributesToRetrieve]

namespace ParameterNames

def name (names : ParameterNames) : Input → String
  | .filters => names.filters
  | .facetFilters => names.facetFilters
  | .sortBy => names.sortBy
  | .attributesToRetrieve => names.attributesToRetrieve

/-- The input that a parameter of some name is for. -/
def input? (names : ParameterNames) (key : String) : Option Input :=
  if key = names.filters then some .filters
  else if key = names.facetFilters then some .facetFilters
  else if key = names.sortBy then some .sortBy
  else if key = names.attributesToRetrieve ∨ key = names.attributesToRetrieve ++ "[]" then
    some .attributesToRetrieve
  else none

/-- Whether no two inputs have the same name. -/
def Distinct (names : ParameterNames) : Prop :=
  [names.filters, names.facetFilters, names.sortBy, names.attributesToRetrieve].Nodup

instance (names : ParameterNames) : Decidable names.Distinct :=
  inferInstanceAs (Decidable (List.Nodup _))

/-- The names are different exactly where each of them leads to its own input. -/
lemma distinct_iff {names : ParameterNames} :
    names.Distinct ↔ ∀ i, names.input? (names.name i) = some i := by
  constructor
  · intro h i
    simp only [Distinct, List.nodup_cons, List.mem_cons, List.not_mem_nil, or_false, not_or] at h
    obtain ⟨⟨hfacets, hsort, hcolumns⟩, ⟨hsort', hcolumns'⟩, hcolumns'', -⟩ := h
    cases i with
    | filters => simp [input?, name]
    | facetFilters => simp [input?, name, Ne.symm hfacets]
    | sortBy => simp [input?, name, Ne.symm hsort, Ne.symm hsort']
    | attributesToRetrieve =>
      simp [input?, name, Ne.symm hcolumns, Ne.symm hcolumns', Ne.symm hcolumns'']
  · intro h
    have hinj : Function.Injective names.name := by
      intro i j hij
      have hi := h i
      rw [hij, h j] at hi
      exact (Option.some.inj hi).symm
    exact List.Nodup.map hinj (by decide : Input.all.Nodup)

end ParameterNames

namespace Request

variable (names : ParameterNames)

/-- The values of the parameters for an input, in order. -/
def valuesFor (i : Input) (pairs : List (String × String)) : List String :=
  (pairs.filter fun p => names.input? p.1 = some i).map (·.2)

lemma valuesFor_append (i : Input) (ps qs : List (String × String)) :
    valuesFor names i (ps ++ qs) = valuesFor names i ps ++ valuesFor names i qs := by
  simp [valuesFor]

lemma valuesFor_singleton (i : Input) (key value : String) :
    valuesFor names i [(key, value)] = if names.input? key = some i then [value] else [] := by
  by_cases h : names.input? key = some i <;> simp [valuesFor, h]

/-- A parameter changes the input that it is for and no other. -/
lemma accept_eq (r : Request) (key value : String) :
    accept names r (key, value) = match names.input? key with
      | some .filters => { r with filters := some value }
      | some .facetFilters => { r with facetFilters := some value }
      | some .sortBy => { r with sortBy := some value }
      | some .attributesToRetrieve =>
        { r with attributesToRetrieve := r.attributesToRetrieve ++ commaParts value }
      | none => r := by
  simp only [accept, ParameterNames.input?]
  split_ifs <;> rfl

theorem ofPairs_eq (pairs : List (String × String)) :
    ofPairs names pairs = {
      filters := (valuesFor names .filters pairs).getLast?
      facetFilters := (valuesFor names .facetFilters pairs).getLast?
      sortBy := (valuesFor names .sortBy pairs).getLast?
      attributesToRetrieve :=
        (valuesFor names .attributesToRetrieve pairs).flatMap commaParts } := by
  induction pairs using List.reverseRecOn with
  | nil => rfl
  | append_singleton pairs p ih =>
    obtain ⟨key, value⟩ := p
    have hlast : ofPairs names (pairs ++ [(key, value)]) =
        accept names (ofPairs names pairs) (key, value) := by
      rw [ofPairs, List.foldl_append, List.foldl_cons, List.foldl_nil, ofPairs]
    simp only [hlast, ih, accept_eq, valuesFor_append, valuesFor_singleton]
    cases names.input? key with
    | none => simp
    | some i => cases i <;> simp

end Request
end FacetSearch
