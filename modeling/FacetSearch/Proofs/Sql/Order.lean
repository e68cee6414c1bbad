import FacetSearch.Proofs.Sql.Leaf
import FacetSearch.Proofs.Sort.Legible

/-! The text of a sort term says what it sorts by, if its column and its number are legible. -/
namespace FacetSearch

/-- A term without the mark that its text does not show. -/
def SortTerm.shown (t : SortTerm) : SortTerm :=
  { t with nullsLast := t.condition.isNone && t.nullsLast }

namespace Sql

/-- What a term does not show does not change its text. -/
lemma sortTerm_shown (t : SortTerm) : sortTerm t.shown = sortTerm t := by
  obtain ⟨column, direction, condition, nullsLast⟩ := t
  cases condition <;> rfl

lemma numeral_append_ne_cons {n : List Char} (h : Text.isFiniteDecimal n) {d : Char}
    (hd : Text.Decimal.isNumeralChar d = false) (r s : List Char) : n ++ r ≠ d :: s := by
  obtain ⟨f⟩ := Text.Decimal.nonempty_form h
  obtain ⟨c, cs, hmagnitude, -⟩ := Text.Decimal.exists_cons_magnitude f
  have hne : n ≠ [] := by
    rw [f.eq_append, hmagnitude]
    simp
  exact Text.run_append_ne_cons (Text.Decimal.isNumeralChar_of_form f) hne hd r s

section Literals

variable {v w : Literal} {r s : List Char}
  (hv : ∀ n, v = .numeric n → Text.isFiniteDecimal n.toList)
  (hw : ∀ n, w = .numeric n → Text.isFiniteDecimal n.toList)
include hv

lemma literal_ne_equals (r t : List Char) : (literal v).toList ++ r ≠ '=' :: t := by
  cases v with
  | numeric n => exact numeral_append_ne_cons (hv n rfl) (by decide) r t
  | text a => simp [literal, toList_string]

lemma numeric_ne_text {n a : String} (hn : v = .numeric n) (r t : List Char) :
    n.toList ++ r ≠ (string a).toList ++ t := by
  rw [toList_string]
  exact numeral_append_ne_cons (hv n hn) (by decide) r _

include hw

lemma literal_append_inj (h : (literal v).toList ++ ')' :: r = (literal w).toList ++ ')' :: s) :
    v = w ∧ r = s := by
  cases v with
  | numeric m =>
    cases w with
    | numeric n =>
      obtain ⟨f⟩ := Text.Decimal.nonempty_form (hv m rfl)
      obtain ⟨g⟩ := Text.Decimal.nonempty_form (hw n rfl)
      have hparen : ∀ t, ∀ c ∈ (')' :: t).head?, Text.Decimal.isNumeralChar c = false := by
        intro t c hc
        obtain rfl : ')' = c := by simpa using hc
        decide
      obtain ⟨hmn, hrs⟩ := Text.run_append_inj (Text.Decimal.isNumeralChar_of_form f)
        (Text.Decimal.isNumeralChar_of_form g) (hparen r) (hparen s) h
      exact ⟨by rw [String.toList_inj.1 hmn], (List.cons.inj hrs).2⟩
    | text b => exact absurd h (numeric_ne_text hv rfl _ _)
  | text a =>
    cases w with
    | numeric n => exact absurd h.symm (numeric_ne_text hw rfl _ _)
    | text b =>
      obtain ⟨rfl, hrs⟩ := string_append_inj (stops_cons (.inr (.inr rfl)))
        (stops_cons (.inr (.inr rfl))) h
      exact ⟨rfl, (List.cons.inj hrs).2⟩

end Literals

lemma keyword_append_inj {d d' : Direction} {r s : List Char}
    (h : d.keyword.toList ++ r = d'.keyword.toList ++ s) : d = d' ∧ r = s := by
  cases d <;> cases d' <;> simp_all [Direction.keyword]

/-- No operator goes on with the name in front of it. -/
lemma not_isNameChar_symbol (op : Operator) (r : List Char) :
    ∀ c ∈ (op.symbol.toList ++ r).head?, isNameChar c = false := by
  intro c hc
  cases op <;> (simp only [Operator.symbol] at hc; cases hc; decide)

/-- A name that stands without quotes is told from a quoted one by its first character. -/
lemma name_ne_identifier {a b : String} (ha : isAttributeName a) (r s : List Char) :
    a.toList ++ r ≠ (identifier b).toList ++ s := by
  have hne : a.toList ≠ [] := by
    intro h
    rw [String.toList_eq_nil_iff.1 h] at ha
    cases ha
  rw [toList_identifier]
  exact Text.run_append_ne_cons (isNameChar_of_isAttributeName ha) hne (by decide) r _

section Terms

variable (a : String) (d : Direction) (c : SortCondition) (last : Bool) (r : List Char)

lemma toList_sortTerm_condition :
    (sortTerm ⟨a, d, some c, last⟩).toList ++ r =
      "case when(".toList ++ (a.toList ++ (c.operator.symbol.toList ++ ((literal c.value).toList ++
        ')' :: (" then 1 else 0 end ".toList ++ (d.keyword.toList ++ r))))) := by
  simp [sortTerm]

lemma toList_sortTerm_bucket :
    (sortTerm ⟨a, d, none, true⟩).toList ++ r =
      "case when(".toList ++ ((identifier a).toList ++ ((" is null or " ++ identifier a ++
        " = 0) then 1 else 0 end asc, " ++ identifier a ++ " ").toList ++
        (d.keyword.toList ++ r))) := by
  simp [sortTerm]

lemma toList_sortTerm_column :
    (sortTerm ⟨a, d, none, false⟩).toList ++ r =
      (identifier a).toList ++ ' ' :: (d.keyword.toList ++ r) := by
  simp [sortTerm]

end Terms

lemma condition_append_inj {a b : String} {c c' : SortCondition} {d d' : Direction}
    {last last' : Bool} {r s : List Char} (ht : SortTerm.IsLegible ⟨a, d, some c, last⟩)
    (hu : SortTerm.IsLegible ⟨b, d', some c', last'⟩)
    (h : (sortTerm ⟨a, d, some c, last⟩).toList ++ r =
      (sortTerm ⟨b, d', some c', last'⟩).toList ++ s) : a = b ∧ c = c' ∧ d = d' ∧ r = s := by
  obtain ⟨ha, hnumber⟩ := ht c rfl
  obtain ⟨hb, hnumber'⟩ := hu c' rfl
  rw [toList_sortTerm_condition, toList_sortTerm_condition] at h
  obtain ⟨hab, hoperator⟩ := Text.run_append_inj (isNameChar_of_isAttributeName ha)
    (isNameChar_of_isAttributeName hb) (not_isNameChar_symbol _ _) (not_isNameChar_symbol _ _)
    (List.append_cancel_left h)
  obtain ⟨hop, hliteral⟩ := symbol_append_inj (literal_ne_equals hnumber _)
    (literal_ne_equals hnumber' _) hoperator
  obtain ⟨hvalue, hend⟩ := literal_append_inj hnumber hnumber' hliteral
  obtain ⟨hd, hrs⟩ := keyword_append_inj (List.append_cancel_left hend)
  obtain ⟨operator, value⟩ := c
  obtain ⟨operator', value'⟩ := c'
  obtain rfl : operator = operator' := hop
  obtain rfl : value = value' := hvalue
  exact ⟨String.toList_inj.1 hab, rfl, hd, hrs⟩

lemma condition_ne_bucket {a b : String} {c : SortCondition} {d d' : Direction} {last : Bool}
    (ht : SortTerm.IsLegible ⟨a, d, some c, last⟩) (r s : List Char) :
    (sortTerm ⟨a, d, some c, last⟩).toList ++ r ≠ (sortTerm ⟨b, d', none, true⟩).toList ++ s := by
  rw [toList_sortTerm_condition, toList_sortTerm_bucket]
  intro h
  exact name_ne_identifier (ht c rfl).1 _ _ (List.append_cancel_left h)

lemma case_ne_column (a : String) (d : Direction) (r s : List Char) :
    "case when(".toList ++ r ≠ (sortTerm ⟨a, d, none, false⟩).toList ++ s := by
  rw [toList_sortTerm_column, toList_identifier]
  simp

lemma bucket_append_inj {a b : String} {d d' : Direction} {r s : List Char}
    (h : (sortTerm ⟨a, d, none, true⟩).toList ++ r = (sortTerm ⟨b, d', none, true⟩).toList ++ s) :
    a = b ∧ d = d' ∧ r = s := by
  rw [toList_sortTerm_bucket, toList_sortTerm_bucket] at h
  obtain ⟨rfl, hrest⟩ := identifier_append_inj (by simp [Stops]) (by simp [Stops])
    (List.append_cancel_left h)
  obtain ⟨hd, hrs⟩ := keyword_append_inj (List.append_cancel_left hrest)
  exact ⟨rfl, hd, hrs⟩

lemma column_append_inj {a b : String} {d d' : Direction} {r s : List Char}
    (h : (sortTerm ⟨a, d, none, false⟩).toList ++ r =
      (sortTerm ⟨b, d', none, false⟩).toList ++ s) : a = b ∧ d = d' ∧ r = s := by
  rw [toList_sortTerm_column, toList_sortTerm_column] at h
  obtain ⟨rfl, hrest⟩ := identifier_append_inj (stops_cons (.inl rfl)) (stops_cons (.inl rfl)) h
  obtain ⟨hd, hrs⟩ := keyword_append_inj (List.cons.inj hrest).2
  exact ⟨rfl, hd, hrs⟩

/-- A sort term is one of three texts, told apart by how they start. -/
lemma sortTerm_append_inj {t u : SortTerm} (ht : t.IsLegible) (hu : u.IsLegible)
    {r s : List Char} (h : (sortTerm t).toList ++ r = (sortTerm u).toList ++ s) :
    t.shown = u.shown ∧ r = s := by
  obtain ⟨a, d, condition, last⟩ := t
  obtain ⟨b, d', condition', last'⟩ := u
  cases condition with
  | some c =>
    cases condition' with
    | some c' =>
      obtain ⟨rfl, rfl, rfl, hrs⟩ := condition_append_inj ht hu h
      exact ⟨rfl, hrs⟩
    | none =>
      cases last' with
      | true => exact absurd h (condition_ne_bucket ht r s)
      | false =>
        rw [toList_sortTerm_condition] at h
        exact absurd h (case_ne_column b d' _ s)
  | none =>
    cases condition' with
    | some c' =>
      cases last with
      | true => exact absurd h.symm (condition_ne_bucket hu s r)
      | false =>
        rw [toList_sortTerm_condition] at h
        exact absurd h.symm (case_ne_column a d _ r)
    | none =>
      cases last with
      | true =>
        cases last' with
        | true =>
          obtain ⟨rfl, rfl, hrs⟩ := bucket_append_inj h
          exact ⟨rfl, hrs⟩
        | false =>
          rw [toList_sortTerm_bucket] at h
          exact absurd h (case_ne_column b d' _ s)
      | false =>
        cases last' with
        | true =>
          rw [toList_sortTerm_bucket] at h
          exact absurd h.symm (case_ne_column a d _ r)
        | false =>
          obtain ⟨rfl, rfl, hrs⟩ := column_append_inj h
          exact ⟨rfl, hrs⟩

end Sql
end FacetSearch
