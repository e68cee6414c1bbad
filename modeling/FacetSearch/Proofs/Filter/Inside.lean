import FacetSearch.Proofs.Filter.Partners
import Mathlib.Data.Nat.Basic
import Mathlib.Order.Basic

/-! Which parentheses are open at the end of a list of tokens, what stands directly inside a
parenthesis, and what one more token makes of both. -/
namespace FacetSearch.Filter

/-- An opening parenthesis behind which `k` others are still open at the end of the list. -/
def OpenAt (ts : List Token) (k p : ℕ) : Prop :=
  ts[p]? = some .opening ∧ depth? 0 (ts.drop (p + 1)) = some k

/-- A token directly inside the parenthesis that opens at a position, or the one that closes it. -/
def DirectlyIn (ts : List Token) (p i : ℕ) (t : Token) : Prop :=
  ts[i]? = some t ∧ OpenAt (ts.take i) 0 p

variable {ts : List Token} {t u : Token} {i j k p : ℕ}

lemma OpenAt.lt_length (h : OpenAt ts k p) : p < ts.length :=
  (List.getElem?_eq_some_iff.1 h.1).1

lemma not_openAt_nil : ¬OpenAt [] k p := fun h => absurd h.lt_length (Nat.not_lt_zero p)

/-- What one more token makes of the parentheses that are open. -/
lemma openAt_concat : OpenAt (ts ++ [t]) k p ↔
    (t = .opening ∧ k = 0 ∧ p = ts.length) ∨ ∃ m, OpenAt ts m p ∧ depth? m [t] = some k := by
  rcases lt_trichotomy p ts.length with hp | rfl | hp
  · have hdrop : (ts ++ [t]).drop (p + 1) = ts.drop (p + 1) ++ [t] :=
      List.drop_append_of_le_length hp
    simp only [OpenAt, List.getElem?_append_left hp, hdrop, depth?_append, Option.bind_eq_some_iff,
      hp.ne, and_false, false_or]
    constructor
    · rintro ⟨ho, m, hm, hk⟩
      exact ⟨m, ⟨ho, hm⟩, hk⟩
    · rintro ⟨m, ⟨ho, hm⟩, hk⟩
      exact ⟨ho, m, hm, hk⟩
  · simp [OpenAt, depth?, eq_comm]
  · have hnot (m : ℕ) : ¬OpenAt ts m p := fun h => absurd h.lt_length hp.not_gt
    have hlen : ¬OpenAt (ts ++ [t]) k p := by
      intro h
      have := h.lt_length
      rw [List.length_append, List.length_singleton] at this
      omega
    simp [hnot, hlen, hp.ne']

lemma openAt_concat_opening : OpenAt (ts ++ [.opening]) k p ↔
    (k = 0 ∧ p = ts.length) ∨ ∃ m, k = m + 1 ∧ OpenAt ts m p := by
  simp [openAt_concat, depth?, eq_comm, and_comm]

lemma openAt_concat_closing : OpenAt (ts ++ [.closing]) k p ↔ OpenAt ts (k + 1) p := by
  rw [openAt_concat]
  constructor
  · rintro (⟨h, -⟩ | ⟨m, hm, hk⟩)
    · cases h
    · cases m with
      | zero => cases hk
      | succ m =>
        cases hk
        exact hm
  · exact fun h => .inr ⟨k + 1, h, rfl⟩

lemma openAt_concat_of_ne (ho : t ≠ .opening) (hc : t ≠ .closing) :
    OpenAt (ts ++ [t]) k p ↔ OpenAt ts k p := by
  simp [openAt_concat, depth?_token ho hc, depth?, ho]

lemma directlyIn_concat : DirectlyIn (ts ++ [u]) p i t ↔
    DirectlyIn ts p i t ∨ (i = ts.length ∧ t = u ∧ OpenAt ts 0 p) := by
  rcases lt_trichotomy i ts.length with hi | rfl | hi
  · simp [DirectlyIn, List.getElem?_append_left hi, List.take_append_of_le_length hi.le, hi.ne]
  · simp [DirectlyIn, eq_comm]
  · have hnone : (ts ++ [u])[i]? = none := by
      rw [List.getElem?_eq_none_iff, List.length_append, List.length_singleton]
      omega
    have hnone' : ts[i]? = none := List.getElem?_eq_none_iff.2 hi.le
    simp [DirectlyIn, hnone, hnone', hi.ne']

lemma directlyIn_concat_of_ne (h : t ≠ u) : DirectlyIn (ts ++ [u]) p i t ↔ DirectlyIn ts p i t := by
  simp [directlyIn_concat, h]

lemma not_directlyIn_nil : ¬DirectlyIn [] p i t := by
  simp [DirectlyIn]

lemma directlyIn_iff : DirectlyIn ts p i t ↔
    p < i ∧ ts[p]? = some .opening ∧ ts[i]? = some t ∧ Balanced (between ts p i) := by
  rw [DirectlyIn, OpenAt, ← balanced_iff, List.getElem?_take, between]
  by_cases hp : p < i <;> simp [hp, and_left_comm]

lemma drop_eq_between (hlt : p < i) (hi : ts[i]? = some t) :
    ts.drop (p + 1) = between ts p i ++ t :: ts.drop (i + 1) := by
  have hlen : p + 1 ≤ (ts.take i).length := by
    have := (List.getElem?_eq_some_iff.1 hi).1
    rw [List.length_take]
    omega
  conv_lhs => rw [eq_take_append_drop hi, List.drop_append_of_le_length hlen]
  rfl

lemma between_eq_append (hp : p < i) (hi : i < j) (ht : ts[i]? = some t) :
    between ts p j = between ts p i ++ t :: between ts i j := by
  have htake : (ts.take j)[i]? = some t := by
    rw [List.getElem?_take_of_lt hi, ht]
  have hbetween : between (ts.take j) p i = between ts p i := by
    rw [between, between, List.take_take, min_eq_left hi.le]
  rw [between, drop_eq_between hp htake, hbetween]
  rfl

/-- What is closed is no longer open. -/
lemma DirectlyIn.not_openAt (h : DirectlyIn ts p i .closing) (k : ℕ) : ¬OpenAt ts k p := by
  rintro ⟨-, hk⟩
  obtain ⟨hlt, -, hi, hb⟩ := directlyIn_iff.1 h
  rw [drop_eq_between hlt hi, depth?_append, hb.depth?_eq] at hk
  cases hk

end FacetSearch.Filter
