import FacetSearch.Proofs.Sql.Leaf

/-! The text of a predicate list says how its predicates are joined and grouped, to any depth. -/
namespace FacetSearch

namespace Predicate

mutual
/-- A predicate behind a given connective, all below it as its text shows it. -/
def shown (k : Option Connective) : Predicate → Predicate
  | leaf _ a t => leaf k a t.shown
  | group _ negated children => group k negated (shownAll children)

/-- A list as its text shows it: its first predicate has no connective, and each later one has the
connective that joins it. -/
def shownAll : List Predicate → List Predicate
  | [] => []
  | p :: ps => shown none p :: shownRest ps

def shownRest : List Predicate → List Predicate
  | [] => []
  | p :: ps => shown (some (p.connective.getD .and)) p :: shownRest ps
end

@[simp] lemma connective_shown (k : Option Connective) (p : Predicate) :
    (p.shown k).connective = k := by
  cases p <;> simp only [shown, connective]

@[simp] lemma shownAll_eq_nil_iff {ps : List Predicate} : shownAll ps = [] ↔ ps = [] := by
  cases ps <;> simp [shownAll]

end Predicate

namespace Sql
open Predicate (shown shownAll shownRest)

mutual
lemma predicate_shown (k : Option Connective) : ∀ p, predicate (shown k p) = predicate p
  | .leaf _ a t => by simp only [shown, predicate, test_shown]
  | .group _ negated children => by simp only [shown, predicate, predicates_shownAll children]

/-- What a list does not show does not change its text. -/
lemma predicates_shownAll : ∀ ps, predicates (shownAll ps) = predicates ps
  | [] => by simp only [shownAll]
  | p :: ps => by
    simp only [shownAll, predicates, predicate_shown none p, continued_shownRest ps]

lemma continued_shownRest : ∀ ps, continued (shownRest ps) = continued ps
  | [] => by simp only [shownRest]
  | p :: ps => by
    simp only [shownRest, continued, Predicate.connective_shown, predicate_shown _ p,
      continued_shownRest ps, junction, Option.getD_some]
end

lemma toList_predicate_leaf (k : Option Connective) (a : String) (t : Test) (r : List Char) :
    (predicate (.leaf k a t)).toList ++ r = (test a t).toList ++ r := by
  simp only [predicate]

lemma toList_predicate_group (k : Option Connective) (negated : Bool) (children : List Predicate)
    (r : List Char) :
    (predicate (.group k negated children)).toList ++ r =
      (not negated).toList ++ '(' :: ((predicates children).toList ++ ')' :: r) := by
  simp [predicate]

lemma test_ne_group (a : String) (t : Test) (negated : Bool) (r s : List Char) :
    (test a t).toList ++ r ≠ (not negated).toList ++ '(' :: s := by
  rw [test_eq, String.toList_append, toList_identifier]
  cases negated <;> simp [not]

/-- What may follow a list of predicates: nothing, the end of its group or the order of the rows. -/
def EndsList (r : List Char) : Prop :=
  r = [] ∨ (∃ t, r = ')' :: t) ∨ ∃ t, r = " order by ".toList ++ t

lemma EndsList.stops {r : List Char} (h : EndsList r) : Stops r := by
  rcases h with rfl | ⟨t, rfl⟩ | ⟨t, rfl⟩ <;> simp [Stops]

lemma endsList_cons (r : List Char) : EndsList (')' :: r) := .inr (.inl ⟨r, rfl⟩)

/-- The blank in ` or ` tells it from the start of ` order by `. -/
lemma EndsList.ne_junction {r : List Char} (h : EndsList r) (k : Option Connective)
    (t : List Char) : r ≠ (junction k).toList ++ t := by
  unfold junction
  rcases h with rfl | ⟨u, rfl⟩ | ⟨u, rfl⟩ <;> cases k.getD .and <;> simp [Connective.keyword]

lemma EndsList.ne_predicate {r : List Char} (h : EndsList r) (p : Predicate) (t : List Char) :
    r ≠ (predicate p).toList ++ t := by
  cases p with
  | leaf k a u =>
    rw [toList_predicate_leaf, test_eq, String.toList_append, toList_identifier]
    rcases h with rfl | ⟨u, rfl⟩ | ⟨u, rfl⟩ <;> simp
  | group k negated children =>
    rw [toList_predicate_group]
    rcases h with rfl | ⟨u, rfl⟩ | ⟨u, rfl⟩ <;> cases negated <;> simp [not]

lemma stops_continued (ps : List Predicate) {r : List Char} (h : EndsList r) :
    Stops ((continued ps).toList ++ r) := by
  cases ps with
  | nil => simpa [continued] using h.stops
  | cons p ps => simp [continued, junction, Stops]

lemma junction_append_inj {k k' : Option Connective} {r s : List Char}
    (h : (junction k).toList ++ r = (junction k').toList ++ s) :
    k.getD .and = k'.getD .and ∧ r = s := by
  unfold junction at h
  cases hk : k.getD .and <;> cases hk' : k'.getD .and <;>
    simp_all [Connective.keyword]

mutual
/-- A predicate is read back off the start of a text, up to what it does not show. -/
lemma predicate_append_inj : ∀ (p q : Predicate) {r s : List Char}, Stops r → Stops s →
    (predicate p).toList ++ r = (predicate q).toList ++ s →
    (∀ k, p.shown k = q.shown k) ∧ r = s
  | .leaf _ a t, .leaf _ b u, r, s, hr, hs, h => by
    rw [toList_predicate_leaf, toList_predicate_leaf] at h
    obtain ⟨rfl, htu, hrs⟩ := test_append_inj hr hs h
    refine ⟨fun k => ?_, hrs⟩
    simp only [shown, htu]
  | .leaf _ a t, .group _ negated children, r, s, hr, hs, h => by
    rw [toList_predicate_leaf, toList_predicate_group] at h
    exact absurd h (test_ne_group a t negated r _)
  | .group _ negated children, .leaf _ b u, r, s, hr, hs, h => by
    rw [toList_predicate_leaf, toList_predicate_group] at h
    exact absurd h.symm (test_ne_group b u negated s _)
  | .group _ negated ps, .group _ negated' qs, r, s, hr, hs, h => by
    rw [toList_predicate_group, toList_predicate_group] at h
    obtain ⟨rfl, hchildren⟩ := not_append_inj (by simp) (by simp) h
    obtain ⟨hps, hrest⟩ := predicates_append_inj ps qs (endsList_cons r) (endsList_cons s)
      (List.cons.inj hchildren).2
    refine ⟨fun k => ?_, (List.cons.inj hrest).2⟩
    simp only [shown, hps]

lemma predicates_append_inj : ∀ (ps qs : List Predicate) {r s : List Char}, EndsList r →
    EndsList s → (predicates ps).toList ++ r = (predicates qs).toList ++ s →
    shownAll ps = shownAll qs ∧ r = s
  | [], [], r, s, _, _, h => ⟨rfl, by simpa [predicates] using h⟩
  | [], q :: qs, r, s, hr, _, h => by
    simp only [predicates, String.toList_append, List.append_assoc] at h
    exact absurd h (hr.ne_predicate q _)
  | p :: ps, [], r, s, _, hs, h => by
    simp only [predicates, String.toList_append, List.append_assoc] at h
    exact absurd h.symm (hs.ne_predicate p _)
  | p :: ps, q :: qs, r, s, hr, hs, h => by
    simp only [predicates, String.toList_append, List.append_assoc] at h
    obtain ⟨hpq, hrest⟩ := predicate_append_inj p q (stops_continued ps hr)
      (stops_continued qs hs) h
    obtain ⟨hps, hrs⟩ := continued_append_inj ps qs hr hs hrest
    refine ⟨?_, hrs⟩
    rw [shownAll, shownAll, hpq, hps]

lemma continued_append_inj : ∀ (ps qs : List Predicate) {r s : List Char}, EndsList r →
    EndsList s → (continued ps).toList ++ r = (continued qs).toList ++ s →
    shownRest ps = shownRest qs ∧ r = s
  | [], [], r, s, _, _, h => ⟨rfl, by simpa [continued] using h⟩
  | [], q :: qs, r, s, hr, _, h => by
    simp only [continued, String.toList_append, List.append_assoc] at h
    exact absurd h (hr.ne_junction q.connective _)
  | p :: ps, [], r, s, _, hs, h => by
    simp only [continued, String.toList_append, List.append_assoc] at h
    exact absurd h.symm (hs.ne_junction p.connective _)
  | p :: ps, q :: qs, r, s, hr, hs, h => by
    simp only [continued, String.toList_append, List.append_assoc] at h
    obtain ⟨hk, hpredicate⟩ := junction_append_inj h
    obtain ⟨hpq, hrest⟩ := predicate_append_inj p q (stops_continued ps hr)
      (stops_continued qs hs) hpredicate
    obtain ⟨hps, hrs⟩ := continued_append_inj ps qs hr hs hrest
    refine ⟨?_, hrs⟩
    rw [shownRest, shownRest, hk, hpq, hps]
end

end Sql
end FacetSearch
