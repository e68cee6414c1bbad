/-! Sets of code points written as ascending ranges. -/
namespace FacetSearch.Unicode

/-- Ascending disjoint ranges of code points, both ends included. -/
abbrev Ranges := List (Nat × Nat)

/-- Whether a code point lies in one of the ranges; the search ends at the first range above it. -/
def Ranges.has : Ranges → Nat → Bool
  | [], _ => false
  | (low, high) :: rest, n => if n < low then false else n ≤ high || Ranges.has rest n

@[simp] theorem Ranges.has_nil (n : Nat) : Ranges.has [] n = false := rfl

end FacetSearch.Unicode
