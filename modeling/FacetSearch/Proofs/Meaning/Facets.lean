import FacetSearch.Proofs.AllowList.Mentions
import FacetSearch.Proofs.Meaning.Predicates

/-! Whether the facets of a query still restrict it when filters follow them in the same list. -/
namespace FacetSearch

lemma Predicate.tail_headed (k : Option Connective) (ps : List Predicate) :
    (headed k ps).tail = ps.tail := by
  cases ps <;> rfl

lemma FacetGroups.link_eq_and {p : Policy} {groups : FacetGroups} {q : Predicate}
    (h : q ∈ (predicates p groups).tail) : q.link = .and := by
  rw [predicates, Predicate.tail_headed] at h
  obtain ⟨⟨a, vs⟩, -, hq⟩ := List.mem_flatMap.1 (List.mem_of_mem_tail h)
  obtain ⟨t, -, rfl⟩ := List.mem_map.1 hq
  rfl

namespace Query
open Predicate (judged)

section Joined

variable {f g : Predicate} {fs gs : List Predicate} (v : ℕ → Truth)

lemma judged_joined : judged v 0 (joined (f :: fs) (g :: gs)) =
    (f.link, v 0) :: (judged v 1 fs ++
      (.and, v (fs.length + 1)) :: judged v (fs.length + 1 + 1) gs) := by
  change judged v 0 (f :: (fs ++ Predicate.headed (some .and) (g :: gs))) = _
  rw [judged, Predicate.judged_append, Predicate.headed_cons, judged, Predicate.link_withConnective,
    Nat.add_comm 1]

/-- Where nothing behind the first filter is joined by `OR` the list is the conjunction of the facets
and the filters. -/
lemma joined_of_and (hfs : ∀ p ∈ fs, p.link = .and) (hgs : ∀ p ∈ gs, p.link = .and) :
    (judged v 0 (joined (f :: fs) (g :: gs))).leftToRight =
        (judged v 0 (f :: fs)).leftToRight.and (judged v (fs.length + 1) (g :: gs)).leftToRight ∧
      (judged v 0 (joined (f :: fs) (g :: gs))).byPrecedence =
        (judged v 0 (f :: fs)).byPrecedence.and
          (judged v (fs.length + 1) (g :: gs)).byPrecedence := by
  have hrow := Predicate.forall_mem_judged_fst v (P := (· = .and)) (i := 1) hfs
  have hrow' := Predicate.forall_mem_judged_fst v (P := (· = .and)) (i := fs.length + 1 + 1) hgs
  have hall : ∀ c ∈ judged v 1 fs ++ (.and, v (fs.length + 1)) :: judged v (fs.length + 1 + 1) gs,
      c.1 = .and := by
    rw [List.forall_mem_append, List.forall_mem_cons]
    exact ⟨hrow, rfl, hrow'⟩
  have hleft := Row.accumulate_append_and hrow' (v 0) (v (fs.length + 1)) (judged v 1 fs)
  rw [judged_joined, judged, judged]
  refine ⟨hleft, ?_⟩
  simp only [Row.byPrecedence, ← Row.accumulate_eq_conjoin_of_and hrow,
    ← Row.accumulate_eq_conjoin_of_and hrow', ← Row.accumulate_eq_conjoin_of_and hall]
  exact hleft

end Joined

/-- The assignment to which the first `n` conditions fail and all others hold. -/
def failsBelow (n i : ℕ) : Truth := if i < n then .fails else .holds

lemma failsBelow_ne_unknown (n i : ℕ) : failsBelow n i ≠ .unknown := by
  unfold failsBelow
  split <;> decide

lemma judged_holds {n i : ℕ} (h : n ≤ i) (ps : List Predicate) :
    ∀ c ∈ judged (failsBelow n) i ps, c.2 = .holds := by
  induction ps generalizing i with
  | nil => simp [judged]
  | cons p ps ih =>
    rw [judged, List.forall_mem_cons]
    exact ⟨if_neg (Nat.not_lt.2 h), ih (Nat.le_succ_of_le h)⟩

/-- Where an `OR` follows behind the first filter the list holds with the filters alone. -/
lemma joined_of_or {f g : Predicate} {fs gs : List Predicate} (hor : ∃ p ∈ gs, p.link = .or) :
    (judged (failsBelow (fs.length + 1)) 0 (joined (f :: fs) (g :: gs))).leftToRight = .holds ∧
      (judged (failsBelow (fs.length + 1)) 0 (joined (f :: fs) (g :: gs))).byPrecedence =
        .holds := by
  obtain ⟨p, hp, hk⟩ := hor
  obtain ⟨c, hc, hck⟩ := Predicate.mem_judged_link (failsBelow (fs.length + 1))
    (fs.length + 1 + 1) hp
  have hholds : ∀ c ∈ judged (failsBelow (fs.length + 1)) (fs.length + 1) (p :: gs),
      c.2 = .holds := judged_holds (Nat.le_refl _) (p :: gs)
  rw [judged_joined]
  apply Row.holds_append_of_or
  · rw [judged, List.forall_mem_cons] at hholds
    rw [List.forall_mem_cons]
    exact hholds
  · exact ⟨c, List.mem_cons_of_mem _ hc, hck.trans hk⟩

/-- If nothing behind the first filter is joined by `OR` a query asks for the facets and for the
filters. If something is, the query may hold where a facet fails. -/
theorem compile_facets_bind {p : Policy} {mode : Mode} {r : Request} {q : Query}
    (h : compile p mode r = .ok q) :
    ∃ facets filters,
      FacetGroups.compile ⟨p, mode⟩ (r.facetFilters.getD "") = .ok facets ∧
      Filter.compile ⟨p, mode⟩ (r.filters.getD "") = .ok filters ∧
      (facets ≠ [] → filters ≠ [] →
        q.predicates = facets ++ Predicate.headed (some .and) filters ∧
        ((∀ f ∈ filters.tail, f.connective ≠ some .or) → ∀ v,
          (judged v 0 q.predicates).leftToRight = (judged v 0 facets).leftToRight.and
            (judged v facets.length filters).leftToRight ∧
          (judged v 0 q.predicates).byPrecedence = (judged v 0 facets).byPrecedence.and
            (judged v facets.length filters).byPrecedence) ∧
        ((∃ f ∈ filters.tail, f.connective = some .or) → ∃ v, (∀ i, v i ≠ .unknown) ∧
          (∃ i < facets.length, v i = .fails) ∧
          (judged v 0 q.predicates).leftToRight = .holds ∧
          (judged v 0 q.predicates).byPrecedence = .holds)) := by
  obtain ⟨hrefused, rfl⟩ := Guard.grant_eq_ok_iff.1 ((compile_eq_grant p mode r).symm.trans h)
  rw [Request.mentions, Guard.refused?_append, Guard.refused?_append, Option.or_eq_none_iff,
    Option.or_eq_none_iff] at hrefused
  obtain ⟨⟨hfacets, hfilters⟩, -⟩ := hrefused
  refine ⟨_, _, (FacetGroups.compile_eq_grant _ _).trans (Guard.grant_eq_ok_iff.2 ⟨hfacets, rfl⟩),
    (Filter.compile_eq_grant _ _).trans (Guard.grant_eq_ok_iff.2 ⟨hfilters, rfl⟩), ?_⟩
  intro hne hne'
  obtain ⟨f, fs, hf⟩ := List.exists_cons_of_ne_nil hne
  obtain ⟨g, gs, hg⟩ := List.exists_cons_of_ne_nil hne'
  have hfs : ∀ q ∈ fs, q.link = .and := by
    intro q hq
    apply FacetGroups.link_eq_and (p := p)
    rw [← FacetGroups.admitted, hf]
    exact hq
  have hpredicates : (admitted p r).predicates = joined (f :: fs) (g :: gs) := by
    rw [admitted, hf, hg]
  rw [hpredicates, hf, hg]
  refine ⟨rfl, ?_, ?_⟩
  · intro hand v
    exact joined_of_and v hfs fun q hq => Predicate.link_eq_and_iff.2 (hand q hq)
  · rintro ⟨q, hq, hor⟩
    refine ⟨failsBelow (fs.length + 1), failsBelow_ne_unknown _, ⟨0, ?_, ?_⟩, ?_⟩
    · exact Nat.succ_pos _
    · exact if_pos (Nat.succ_pos _)
    · exact joined_of_or ⟨q, hq, Predicate.link_eq_or_iff.2 hor⟩

/-- The facet does not restrict the cars of the year 2020 or later. -/
theorem compile_facets_bind_not_or :
    ∃ q, compile { isFilterable := fun _ => true } .permissive
        { facetFilters := some "\"make:Nissan\"", filters := some "price < 9 or year >= 2020" } =
          .ok q ∧
      ∃ v, (∃ i < 1, v i = .fails) ∧ (judged v 0 q.predicates).leftToRight = .holds ∧
        (judged v 0 q.predicates).byPrecedence = .holds := by
  have hq := (compile_eq_grant { isFilterable := fun _ => true } .permissive
    { facetFilters := some "\"make:Nissan\"", filters := some "price < 9 or year >= 2020" }).trans
      (Guard.grant_permissive _ _ _)
  obtain ⟨facets, filters, hfacets, hfilters, hbind⟩ := compile_facets_bind hq
  have hmake : FacetGroups.compile ⟨{ isFilterable := fun _ => true }, .permissive⟩
      "\"make:Nissan\"" = .ok [.leaf none "make" (.comparison .eq (.text "Nissan") false)] := by
    decide +kernel
  have hprice : Filter.compile ⟨{ isFilterable := fun _ => true }, .permissive⟩
      "price < 9 or year >= 2020" =
        .ok [.leaf none "price" (.comparison .lt (.integer 9) false),
          .leaf (some .or) "year" (.comparison .ge (.integer 2020) false)] := by
    decide +kernel
  cases hmake.symm.trans hfacets
  cases hprice.symm.trans hfilters
  obtain ⟨-, -, hor⟩ := hbind (by decide) (by decide)
  obtain ⟨v, -, hfails, hholds⟩ := hor (by decide)
  exact ⟨_, hq, v, hfails, hholds⟩

end Query
end FacetSearch
