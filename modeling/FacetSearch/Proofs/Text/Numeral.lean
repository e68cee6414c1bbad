import FacetSearch.Proofs.Text.Cancel
import FacetSearch.Text.Integer
import Mathlib.Data.List.Induction
import Mathlib.Data.List.TakeWhile
import Mathlib.Data.Nat.Digits.Defs

/-! How numbers are written: an integer is digits behind a minus sign or nothing, and a text that
reads as a decimal number has a sign, digits, a fraction and an exponent. -/
namespace FacetSearch.Text

lemma isDigit_of_mem_toDigits {n : Nat} {c : Char} (h : c ∈ Nat.toDigits 10 n) : c.isDigit :=
  Nat.isDigit_of_mem_toDigits (by decide) (by decide) h

lemma toDigits_injective {m n : Nat} (h : Nat.toDigits 10 m = Nat.toDigits 10 n) : m = n := by
  rw [← Nat.ofDigitChars_ten_toDigits (n := m), h, Nat.ofDigitChars_ten_toDigits]

lemma toList_toString_int (n : Int) :
    (toString n).toList =
      if 0 ≤ n then Nat.toDigits 10 n.toNat else '-' :: Nat.toDigits 10 (-n).toNat := by
  rw [Int.toString_eq_repr, Int.repr_eq_if]
  split
  · exact Nat.toList_repr
  · rw [String.toList_append, Nat.toList_repr]
    rfl

/-- An integer is read back off its own text. -/
lemma integer?_toString (n : Int) : integer? (toString n).toList = some n := by
  have hread (m : Nat) : Nat.toDigits 10 m ≠ [] ∧ (Nat.toDigits 10 m).all Char.isDigit :=
    ⟨Nat.toDigits_ne_nil, List.all_eq_true.2 fun _ hc => isDigit_of_mem_toDigits hc⟩
  have hvalue (m : Nat) : Decimal.ofDigits (Nat.toDigits 10 m) = m := Nat.ofDigitChars_ten_toDigits
  rw [toList_toString_int]
  split
  · rw [integer?, if_pos (hread _), hvalue, Int.toNat_of_nonneg ‹_›]
    intro digits hd
    have hminus : '-' ∈ Nat.toDigits 10 n.toNat := by
      rw [hd]
      exact List.mem_cons_self
    exact absurd (isDigit_of_mem_toDigits hminus) (by decide)
  · rw [integer?, if_pos (hread _), hvalue]
    congr 1
    omega

/-- The number that decimal digits stand for, with the ones in the last place. -/
def placeValue (ds : List Char) : Nat :=
  Nat.ofDigits 10 (ds.reverse.map fun c => c.toNat - '0'.toNat)

lemma ofDigits_eq_placeValue (ds : List Char) : Decimal.ofDigits ds = placeValue ds := by
  induction ds using List.reverseRecOn with
  | nil => rfl
  | append_singleton ds d ih =>
    have hlast : Decimal.ofDigits (ds ++ [d]) =
        10 * Decimal.ofDigits ds + (d.toNat - '0'.toNat) := by
      simp [Decimal.ofDigits]
    rw [hlast, ih, placeValue, placeValue, List.reverse_concat, List.map_cons, Nat.ofDigits_cons,
      Nat.add_comm]

/-- Whether a text is an integer in decimal digits, of any size, behind a minus sign or not. -/
inductive Denotes : List Char → Int → Prop
  | digits {ds : List Char} (hne : ds ≠ []) (hds : ∀ c ∈ ds, c.isDigit) : Denotes ds (placeValue ds)
  | minus {ds : List Char} (hne : ds ≠ []) (hds : ∀ c ∈ ds, c.isDigit) :
    Denotes ('-' :: ds) (-placeValue ds)

lemma integer?_eq_some_iff {s : List Char} {n : Int} : integer? s = some n ↔ Denotes s n := by
  constructor
  · intro h
    unfold integer? at h
    split at h <;> split at h
    · next hds =>
      cases h
      rw [ofDigits_eq_placeValue]
      exact .minus hds.1 (List.all_eq_true.1 hds.2)
    · cases h
    · next hds =>
      cases h
      rw [ofDigits_eq_placeValue]
      exact .digits hds.1 (List.all_eq_true.1 hds.2)
    · cases h
  · intro h
    cases h with
    | digits hne hds =>
      rw [integer?, if_pos ⟨hne, List.all_eq_true.2 hds⟩, ofDigits_eq_placeValue]
      rintro ds rfl
      exact absurd (hds '-' List.mem_cons_self) (by decide)
    | minus hne hds =>
      rw [integer?, if_pos ⟨hne, List.all_eq_true.2 hds⟩, ofDigits_eq_placeValue]

lemma denotes_toString (n : Int) : Denotes (toString n).toList n :=
  integer?_eq_some_iff.1 (integer?_toString n)

lemma toInt_min (m n : Int64) : (min m n).toInt = min m.toInt n.toInt := by
  change (if m ≤ n then m else n).toInt = _
  rw [Int.min_def, apply_ite Int64.toInt]
  simp only [Int64.le_iff_toInt_le]

lemma toInt_max (m n : Int64) : (max m n).toInt = max m.toInt n.toInt := by
  change (if m ≤ n then n else m).toInt = _
  rw [Int.max_def, apply_ite Int64.toInt]
  simp only [Int64.le_iff_toInt_le]

/-- An integer is read back off a text if no digit follows it. -/
lemma toString_int_append_inj {m n : Int} {r s : List Char}
    (hr : ∀ c ∈ r.head?, c.isDigit = false) (hs : ∀ c ∈ s.head?, c.isDigit = false)
    (h : (toString m).toList ++ r = (toString n).toList ++ s) : m = n ∧ r = s := by
  have hdigits {a b : Nat} (hab : Nat.toDigits 10 a ++ r = Nat.toDigits 10 b ++ s) :
      a = b ∧ r = s := by
    obtain ⟨he, hrs⟩ := run_append_inj (fun c hc => isDigit_of_mem_toDigits hc)
      (fun c hc => isDigit_of_mem_toDigits hc) hr hs hab
    exact ⟨toDigits_injective he, hrs⟩
  have hminus (a : Nat) (t u : List Char) : Nat.toDigits 10 a ++ t ≠ '-' :: u :=
    run_append_ne_cons (fun c hc => isDigit_of_mem_toDigits hc) Nat.toDigits_ne_nil (by decide) t u
  rw [toList_toString_int, toList_toString_int] at h
  split at h <;> split at h
  · obtain ⟨he, hrs⟩ := hdigits h
    exact ⟨by omega, hrs⟩
  · exact absurd h (hminus _ _ _)
  · exact absurd h.symm (hminus _ _ _)
  · obtain ⟨he, hrs⟩ := hdigits (List.cons.inj h).2
    exact ⟨by omega, hrs⟩

namespace Decimal

def IsSign (s : List Char) : Prop := s = [] ∨ s = ['+'] ∨ s = ['-']

def IsFraction (s : List Char) : Prop := s = [] ∨ ∃ ds, s = '.' :: ds ∧ ∀ c ∈ ds, c.isDigit

def IsExponent (s : List Char) : Prop :=
  s = [] ∨ ∃ mark sign d ds, s = mark :: (sign ++ d :: ds) ∧ (mark = 'e' ∨ mark = 'E') ∧
    IsSign sign ∧ ∀ c ∈ d :: ds, c.isDigit

/-- The parts that the text of a decimal number has. -/
structure Form (s : List Char) where
  sign : List Char
  whole : List Char
  fraction : List Char
  exponent : List Char
  eq_append : s = sign ++ (whole ++ (fraction ++ exponent))
  isSign : IsSign sign
  isDigit_whole : ∀ c ∈ whole, c.isDigit
  isFraction : IsFraction fraction
  isExponent : IsExponent exponent
  magnitude_ne_nil : whole ++ fraction ≠ []

lemma dropSign_eq (s : List Char) : ∃ sign, IsSign sign ∧ s = sign ++ dropSign s := by
  unfold dropSign
  split
  · exact ⟨['+'], .inr (.inl rfl), rfl⟩
  · exact ⟨['-'], .inr (.inr rfl), rfl⟩
  · exact ⟨[], .inl rfl, rfl⟩

lemma isExponent_of_exponent? {s : List Char} {e : Int} (h : exponent? s = some e) :
    IsExponent s := by
  cases s with
  | nil => exact .inl rfl
  | cons mark rest =>
    obtain ⟨sign, hsign, hrest⟩ := dropSign_eq rest
    simp only [exponent?] at h
    split at h
    · next hc =>
      obtain ⟨hmark, hne, hall⟩ := hc
      obtain ⟨d, ds, hd⟩ := List.exists_cons_of_ne_nil hne
      rw [hd] at hrest hall
      exact .inr ⟨mark, sign, d, ds, by rw [hrest], hmark, hsign, List.all_eq_true.1 hall⟩
    · cases h

lemma fraction_eq (s : List Char) :
    ∃ point, IsFraction point ∧ s = point ++ (fraction s).2 ∧
      ((fraction s).1 ≠ [] → point ≠ []) := by
  unfold fraction
  split
  · next rest =>
    refine ⟨'.' :: rest.takeWhile Char.isDigit, .inr ⟨_, rfl, ?_⟩, ?_, ?_⟩
    · intro c hc
      exact List.mem_takeWhile_imp hc
    · simp
    · simp
  · exact ⟨[], .inl rfl, rfl, fun h => absurd rfl h⟩

/-- A text that reads as a number is written in the form of one. -/
lemma nonempty_form {s : List Char} (h : isFiniteDecimal s) : Nonempty (Form s) := by
  unfold isFiniteDecimal ofText? at h
  obtain ⟨sign, hsign, hs⟩ := dropSign_eq s
  obtain ⟨point, hpoint, hrest, hpart⟩ := fraction_eq ((dropSign s).dropWhile Char.isDigit)
  have hunsigned := (dropSign s).takeWhile_append_dropWhile (p := Char.isDigit)
  simp only at h
  split at h
  · next d hd =>
    split at hd
    · cases hd
    · next hne =>
      cases he : exponent? (fraction ((dropSign s).dropWhile Char.isDigit)).2 with
      | none => rw [he] at hd; cases hd
      | some e =>
        refine ⟨⟨sign, (dropSign s).takeWhile Char.isDigit, point, _, ?_, hsign, ?_, hpoint,
          isExponent_of_exponent? he, ?_⟩⟩
        · rw [← hrest, hunsigned, ← hs]
        · intro c hc
          exact List.mem_takeWhile_imp hc
        · intro hnil
          obtain ⟨hwhole, hp⟩ := List.append_eq_nil_iff.1 hnil
          apply hne
          refine ⟨hwhole, ?_⟩
          by_contra hpart'
          exact hpart hpart' hp
  · cases h

/-- The characters that numbers are written with. -/
def isNumeralChar (c : Char) : Bool := c.isDigit || "+-.eE".toList.contains c

lemma isNumeralChar_of_form {s : List Char} (f : Form s) : ∀ c ∈ s, isNumeralChar c := by
  have hdigits {ds : List Char} (hds : ∀ c ∈ ds, c.isDigit) : ∀ c ∈ ds, isNumeralChar c := by
    intro c hc
    simp [isNumeralChar, hds c hc]
  have hsign {sign : List Char} (h : IsSign sign) : ∀ c ∈ sign, isNumeralChar c := by
    rcases h with rfl | rfl | rfl <;> simp [isNumeralChar]
  have hfraction : ∀ c ∈ f.fraction, isNumeralChar c := by
    rcases f.isFraction with h | ⟨ds, h, hds⟩
    · simp [h]
    · rw [h, List.forall_mem_cons]
      exact ⟨by decide, hdigits hds⟩
  have hexponent : ∀ c ∈ f.exponent, isNumeralChar c := by
    rcases f.isExponent with h | ⟨mark, sign, d, ds, h, hmark, hs, hds⟩
    · simp [h]
    · rw [h, List.forall_mem_cons, List.forall_mem_append]
      refine ⟨?_, hsign hs, hdigits hds⟩
      rcases hmark with rfl | rfl <;> decide
  rw [f.eq_append]
  simp only [List.forall_mem_append]
  exact ⟨hsign f.isSign, hdigits f.isDigit_whole, hfraction, hexponent⟩

/-- What follows the sign starts with a digit or a point. -/
lemma exists_cons_magnitude {s : List Char} (f : Form s) :
    ∃ c cs, f.whole ++ (f.fraction ++ f.exponent) = c :: cs ∧ (c.isDigit ∨ c = '.') := by
  cases hw : f.whole with
  | cons d ds => exact ⟨d, _, rfl, .inl (f.isDigit_whole d (hw ▸ List.mem_cons_self))⟩
  | nil =>
    rcases f.isFraction with h | ⟨ds, h, -⟩
    · exact absurd (by rw [hw, h]; rfl) f.magnitude_ne_nil
    · exact ⟨'.', ds ++ f.exponent, by rw [h]; rfl, .inr rfl⟩

end Decimal
end FacetSearch.Text
