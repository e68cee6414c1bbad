import FacetSearch.Policy
import FacetSearch.Text.Basic
import Mathlib.Tactic.Common

/-! The letters that keywords have in any case, and the characters of names. None of them is a blank.
-/
namespace FacetSearch
open Unicode

section Classes

variable {c : Char}

lemma isAlphanumeric_of_isBlank (h : isBlank c) : isAlphanumeric c = false := by
  rw [isBlank, decide_eq_true_iff] at h
  rw [isAlphanumeric]
  generalize c.toNat = n at h
  revert n
  decide +kernel

lemma not_isBlank_of_isNameChar (h : isNameChar c) : ¬isBlank c := by
  intro hb
  rw [isNameChar, isAlphanumeric_of_isBlank hb, Bool.false_or, beq_iff_eq] at h
  rw [h] at hb
  exact absurd hb (by decide)

lemma isAlpha_iff_toNat :
    c.isAlpha ↔ 65 ≤ c.toNat ∧ c.toNat ≤ 90 ∨ 97 ≤ c.toNat ∧ c.toNat ≤ 122 := by
  change (decide ('A' ≤ c ∧ c ≤ 'Z') || (decide ('a' ≤ c) && decide (c ≤ 'z'))) = true ↔ _
  simp only [Bool.or_eq_true, Bool.and_eq_true, decide_eq_true_eq]
  rfl

lemma lt_of_isAlphanum (h : c.isAlphanum) : c.toNat < 123 := by
  have hnine : '9'.toNat = 57 := rfl
  rw [Char.isAlphanum, Bool.or_eq_true, isAlpha_iff_toNat, Char.isDigit_iff_toNat] at h
  omega

lemma isNameChar_of_isAlphanum (h : c.isAlphanum) : isNameChar c := by
  have hcodes : ∀ n < 123, (Char.ofNat n).isAlphanum → isNameChar (Char.ofNat n) := by
    decide +kernel
  have hc := hcodes c.toNat (lt_of_isAlphanum h)
  rw [Char.ofNat_toNat] at hc
  exact hc h

lemma isNameChar_of_isAlpha (h : c.isAlpha) : isNameChar c := by
  apply isNameChar_of_isAlphanum
  rw [Char.isAlphanum, h, Bool.true_or]

lemma isAlpha_toLower : c.toLower.isAlpha = c.isAlpha := by
  unfold Char.toLower
  split
  · next h =>
    have hle : 65 ≤ c.toNat ∧ c.toNat ≤ 90 := h
    have hadd : (c.val + ('a'.val - 'A'.val)).toNat = c.toNat + 32 := by
      rw [UInt32.toNat_add]
      exact Nat.mod_eq_of_lt (show c.toNat + 32 < 2 ^ 32 by omega)
    rw [Bool.eq_iff_iff, isAlpha_iff_toNat, isAlpha_iff_toNat]
    change 65 ≤ (c.val + ('a'.val - 'A'.val)).toNat ∧ _ ∨ _ ↔ _
    rw [← Char.toNat_val, hadd]
    omega
  · rfl

end Classes

namespace Text

variable {s t : List Char} (h : equalsIgnoringCase s t)
include h

lemma equalsIgnoringCase_congr (u : List Char) :
    equalsIgnoringCase s u = equalsIgnoringCase t u := by
  rw [equalsIgnoringCase, beq_iff_eq.1 h, equalsIgnoringCase]

/-- Only letters are equal to letters up to their case. -/
lemma isAlpha_of_equalsIgnoringCase (ht : ∀ c ∈ t, c.isAlpha) : ∀ c ∈ s, c.isAlpha := by
  intro c hc
  have hmap : s.map Char.toLower = t.map Char.toLower := beq_iff_eq.1 h
  obtain ⟨d, hd, hcase⟩ := List.mem_map.1 (hmap ▸ List.mem_map_of_mem hc)
  rw [← isAlpha_toLower, ← hcase, isAlpha_toLower]
  exact ht d hd

end Text
end FacetSearch
