import FacetSearch.Text.Decimal

/-! Integers in text: an optional minus sign and decimal digits, within 64 bits. -/
namespace FacetSearch.Text

/-- The integer that a text spells, of any size. -/
def integer? : List Char → Option Int
  | '-' :: digits =>
    if digits ≠ [] ∧ digits.all Char.isDigit then some (-(Decimal.ofDigits digits : Int)) else none
  | digits =>
    if digits ≠ [] ∧ digits.all Char.isDigit then some (Decimal.ofDigits digits) else none

/-- An integer that fits 64 bits. -/
def word? (n : Int) : Option Int64 :=
  if Int64.minValue.toInt ≤ n ∧ n ≤ Int64.maxValue.toInt then some (.ofInt n) else none

theorem toInt_of_word? {n : Int} {w : Int64} (h : word? n = some w) : w.toInt = n := by
  unfold word? at h
  split at h
  · next hn =>
    cases h
    rw [Int64.toInt_minValue, Int64.toInt_maxValue] at hn
    exact Int64.toInt_ofInt_of_le hn.1 (by omega)
  · cases h

@[simp] theorem word?_toInt (w : Int64) : word? w.toInt = some w := by
  have h : Int64.minValue.toInt ≤ w.toInt ∧ w.toInt ≤ Int64.maxValue.toInt :=
    ⟨w.minValue_le_toInt, w.toInt_le⟩
  rw [word?, if_pos h, Int64.ofInt_toInt]

end FacetSearch.Text
