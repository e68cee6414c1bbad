import FacetSearch.Text.Basic

/-!
Facet filters such as `[["make:Nissan", "make:Toyota"], "model:-Altima"]`. Only the quoted
`"attribute:value"` tokens count; brackets, commas and all else outside them are passed over.
-/
namespace FacetSearch
open Unicode

/-- A value that a facet asks for, or, negated, one that it excludes. -/
structure FacetValue where
  value : String
  negated : Bool
  deriving DecidableEq

structure Facet where
  name : String
  value : FacetValue
  deriving DecidableEq

/-- Dashes in front of a value negate it, however many there are. -/
def FacetValue.ofText (s : List Char) : FacetValue where
  value := .ofList (s.dropWhile (· == '-'))
  negated := s.head? == some '-'

namespace Facet

/-- The characters that a value runs over: all but the closing quote and the end of the line. -/
def isInside (c : Char) : Bool := c != '"' && c != '\n'

/-- Reads an attribute, a colon, a value and the closing quote from behind an opening quote. -/
def read? (s : List Char) : Option (Facet × List Char) :=
  match s.takeWhile isWordChar, s.dropWhile isWordChar with
  | c :: name, ':' :: rest =>
    match rest.dropWhile isInside with
    | '"' :: after => some (⟨.ofList (c :: name), .ofText (rest.takeWhile isInside)⟩, after)
    | _ => none
  | _, _ => none

theorem read?_length {s after : List Char} {f : Facet} (h : read? s = some (f, after)) :
    after.length < s.length := by
  unfold read? at h
  split at h
  · next rest _ hs =>
    split at h
    · next ha =>
      cases h
      have h1 := Text.length_dropWhile_le isWordChar s
      have h2 := Text.length_dropWhile_le isInside rest
      rw [hs] at h1
      rw [ha] at h2
      simp only [List.length_cons] at h1 h2
      omega
    · cases h
  · cases h

/-- The facets of a text, from left to right. -/
def scan : List Char → List Facet
  | [] => []
  | c :: s =>
    if c = '"' then
      match _h : read? s with
      | some (f, after) => f :: scan after
      | none => scan s
    else scan s
termination_by s => s.length
decreasing_by
  all_goals simp only [List.length_cons]
  · have := read?_length _h
    omega
  all_goals omega

@[simp] theorem scan_nil : scan [] = [] := by
  simp [scan]

end Facet
end FacetSearch
