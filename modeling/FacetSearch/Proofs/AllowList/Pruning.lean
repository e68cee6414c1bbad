import FacetSearch.Proofs.AllowList.Mentions

/-! Permissive mode as pruning: what a policy leaves of a request are the predicates and terms of the
unrestricted request without those that mention a disallowed attribute. -/
namespace FacetSearch

/-- The policy that lets everything be filtered and else gives the same answers. -/
def Policy.unrestricted (p : Policy) : Policy := { p with isFilterable := fun _ => true }

namespace Predicate

mutual
/-- A predicate without its disallowed leaves, where something is left of it. The first child that a
group keeps has no connective. -/
def prune? (p : Policy) : Predicate → Option Predicate
  | leaf k a t => if p.isFilterable a then some (leaf k a t) else none
  | group k negated children =>
    match headed none (pruneItems p children) with
    | [] => none
    | q :: qs => some (group k negated (q :: qs))

def pruneItems (p : Policy) : List Predicate → List Predicate
  | [] => []
  | q :: qs =>
    match prune? p q with
    | none => pruneItems p qs
    | some q' => q' :: pruneItems p qs
end

/-- A list without its disallowed leaves at any depth; the first predicate left has no connective. -/
def prune (p : Policy) (ps : List Predicate) : List Predicate := headed none (pruneItems p ps)

mutual
/-- The attributes of all leaves. -/
def attributes : Predicate → List String
  | leaf _ a _ => [a]
  | group _ _ children => attributesOf children

def attributesOf : List Predicate → List String
  | [] => []
  | p :: ps => p.attributes ++ attributesOf ps
end

lemma pruneItems_eq_filterMap (p : Policy) (ps : List Predicate) :
    pruneItems p ps = ps.filterMap (prune? p) := by
  induction ps with
  | nil => rw [pruneItems, List.filterMap_nil]
  | cons q qs ih =>
    rw [pruneItems, ih, List.filterMap_cons]
    cases prune? p q <;> rfl

lemma prune_eq_headed (p : Policy) (ps : List Predicate) :
    prune p ps = headed none (ps.filterMap (prune? p)) := by
  rw [prune, pruneItems_eq_filterMap]

lemma prune?_group (p : Policy) (k : Option Connective) (negated : Bool) (ps : List Predicate) :
    prune? p (group k negated ps) =
      if (prune p ps).isEmpty then none else some (group k negated (prune p ps)) := by
  rw [prune?, prune]
  cases headed none (pruneItems p ps) <;> rfl

lemma prune?_withConnective (p : Policy) (k : Option Connective) (q : Predicate) :
    prune? p (q.withConnective k) = (prune? p q).map (withConnective k) := by
  cases q with
  | leaf k' a t => simp only [withConnective, prune?]; split <;> rfl
  | group k' negated ps => simp only [withConnective, prune?_group]; split <;> rfl

/-- The connective of the first predicate does not matter to a pass that keeps connectives and is
followed by another choice of the first one. -/
lemma headed_filterMap_headed {f : Predicate → Option Predicate}
    (hf : ∀ k q, f (q.withConnective k) = (f q).map (withConnective k))
    (k k' : Option Connective) (ps : List Predicate) :
    headed k ((headed k' ps).filterMap f) = headed k (ps.filterMap f) := by
  cases ps with
  | nil => rfl
  | cons q qs =>
    rw [headed_cons, List.filterMap_cons, List.filterMap_cons, hf]
    cases f q with
    | none => rfl
    | some q' => exact congrArg (· :: qs.filterMap f) (withConnective_withConnective k k' q')

lemma headed_filter_headed {keep : Predicate → Bool}
    (hkeep : ∀ k q, keep (withConnective k q) = keep q) (k k' : Option Connective)
    (ps : List Predicate) :
    headed k ((headed k' ps).filter keep) = headed k (ps.filter keep) := by
  rw [← List.filterMap_eq_filter]
  apply headed_filterMap_headed
  intro k q
  cases hq : keep q <;> simp [Option.guard, hkeep, hq]

lemma prune_headed (p : Policy) (k : Option Connective) (ps : List Predicate) :
    prune p (headed k ps) = prune p ps := by
  rw [prune_eq_headed, prune_eq_headed, headed_filterMap_headed (prune?_withConnective p)]

@[simp] lemma attributes_withConnective (k : Option Connective) (q : Predicate) :
    (q.withConnective k).attributes = q.attributes := by
  cases q <;> rfl

@[simp] lemma attributesOf_headed (k : Option Connective) (ps : List Predicate) :
    attributesOf (headed k ps) = attributesOf ps := by
  cases ps <;> simp [attributesOf]

@[simp] lemma attributesOf_append (ps qs : List Predicate) :
    attributesOf (ps ++ qs) = attributesOf ps ++ attributesOf qs := by
  induction ps with
  | nil => rfl
  | cons p ps ih => simp [attributesOf, ih]

mutual
/-- No leaf of a pruned predicate is disallowed, at any depth. -/
lemma allowed_of_prune? {p : Policy} {a : String} :
    ∀ {q q' : Predicate}, prune? p q = some q' → a ∈ q'.attributes → p.isFilterable a
  | leaf k b t, q', hq, ha => by
    rw [prune?] at hq
    split at hq
    · next hb =>
      cases hq
      simpa [attributes] using (List.mem_singleton.1 ha) ▸ hb
    · cases hq
  | group k negated ps, q', hq, ha => by
    rw [prune?_group] at hq
    split at hq
    · cases hq
    · cases hq
      rw [attributes, prune, attributesOf_headed] at ha
      exact allowed_of_pruneItems ha

lemma allowed_of_pruneItems {p : Policy} {a : String} :
    ∀ {ps : List Predicate}, a ∈ attributesOf (pruneItems p ps) → p.isFilterable a
  | [], ha => by simp [pruneItems, attributesOf] at ha
  | q :: qs, ha => by
    rw [pruneItems] at ha
    cases hq : prune? p q with
    | none =>
      rw [hq] at ha
      exact allowed_of_pruneItems ha
    | some q' =>
      rw [hq, attributesOf, List.mem_append] at ha
      rcases ha with ha | ha
      · exact allowed_of_prune? hq ha
      · exact allowed_of_pruneItems ha
end

lemma allowed_of_prune {p : Policy} {a : String} {ps : List Predicate}
    (ha : a ∈ attributesOf (prune p ps)) : p.isFilterable a := by
  rw [prune, attributesOf_headed] at ha
  exact allowed_of_pruneItems ha

/-- Whether a policy allows the attribute that a predicate tests; it allows no group. -/
def isAllowed (p : Policy) (q : Predicate) : Bool := q.attribute?.any p.isFilterable

lemma isAllowed_withConnective (p : Policy) (k : Option Connective) (q : Predicate) :
    isAllowed p (q.withConnective k) = isAllowed p q := by
  rw [isAllowed, attribute?_withConnective, isAllowed]

lemma allowed_of_filter {p : Policy} {a : String} {ps : List Predicate}
    (ha : a ∈ attributesOf (ps.filter (isAllowed p))) : p.isFilterable a := by
  induction ps with
  | nil => simp [attributesOf] at ha
  | cons q qs ih =>
    rw [List.filter_cons] at ha
    split at ha
    · next hq =>
      rw [attributesOf, List.mem_append] at ha
      rcases ha with ha | ha
      · cases q with
        | leaf k b t => exact (List.mem_singleton.1 ha) ▸ hq
        | group k negated children => cases hq
      · exact ih ha
    · exact ih ha

end Predicate

namespace FacetGroups

lemma eraseDups_filter (keep : String → Bool) (names : List String) :
    (names.filter keep).eraseDups = names.eraseDups.filter keep := by
  induction h : names.length using Nat.strongRecOn generalizing names with
  | ind n ih =>
    cases names with
    | nil => rfl
    | cons a names =>
      have hlen : (names.filter fun b => !b == a).length < n :=
        h ▸ Nat.lt_succ_of_le (List.length_filter_le _ _)
      rw [List.eraseDups_cons, List.filter_cons, List.filter_cons, ← ih _ hlen _ rfl]
      cases ha : keep a with
      | true =>
        rw [if_pos rfl, if_pos rfl, List.eraseDups_cons, List.filter_filter, List.filter_filter]
        simp only [Bool.and_comm]
      | false =>
        have hsame : names.filter keep = (names.filter fun b => !b == a).filter keep := by
          rw [List.filter_filter]
          apply List.filter_congr
          intro b _
          by_cases hb : b = a
          · simp [hb, ha]
          · simp [hb]
        simpa using congrArg List.eraseDups hsame

/-- The groups of the facets with certain attributes are the groups of these attributes. -/
lemma ofFacets_filter (keep : String → Bool) (fs : List Facet) :
    ofFacets (fs.filter fun f => keep f.name) = (ofFacets fs).filter fun g => keep g.1 := by
  have hnames : (fs.filter fun f => keep f.name).map (·.name) = (fs.map (·.name)).filter keep := by
    rw [List.filter_map]
    rfl
  simp only [ofFacets]
  rw [hnames, eraseDups_filter, List.filter_map]
  apply List.map_congr_left
  intro a ha
  have hk : keep a := (List.mem_filter.1 ha).2
  have hsame : (fs.filter fun f => keep f.name).filter (fun f => f.name == a) =
      fs.filter fun f => f.name == a := by
    rw [List.filter_filter]
    apply List.filter_congr
    intro f _
    by_cases hf : f.name = a <;> simp [hf, hk]
  rw [hsame]

/-- Dropping groups drops the predicates on their attributes. -/
lemma predicates_filter (p : Policy) (groups : FacetGroups) :
    predicates p (groups.filter fun g => p.isFilterable g.1) =
      Predicate.headed none
        ((predicates p.unrestricted groups).filter (Predicate.isAllowed p)) := by
  rw [predicates, predicates,
    Predicate.headed_filter_headed (Predicate.isAllowed_withConnective p)]
  congr 1
  induction groups with
  | nil => rfl
  | cons g groups ih =>
    obtain ⟨a, vs⟩ := g
    have hall (ts : List Test) :
        (ts.map (Predicate.leaf (some .and) a)).filter (Predicate.isAllowed p) =
          if p.isFilterable a then ts.map (Predicate.leaf (some .and) a) else [] := by
      cases ha : p.isFilterable a <;>
        simp [Predicate.isAllowed, Predicate.attribute?, ha]
    rw [List.filter_cons, List.flatMap_cons, List.filter_append, ← ih, hall]
    cases ha : p.isFilterable a <;> rfl

lemma admitted_eq_filter (p : Policy) (input : String) :
    admitted p input =
      Predicate.headed none ((admitted p.unrestricted input).filter (Predicate.isAllowed p)) := by
  have hall : (Facet.scan input.toList).filter (fun f => p.unrestricted.isFilterable f.name) =
      Facet.scan input.toList := List.filter_eq_self.2 fun _ _ => rfl
  rw [admitted, ofFacets_filter, predicates_filter, admitted, hall]

end FacetGroups

namespace Filter

lemma admittedLeaf?_eq_prune? (p : Policy) (s : Statement) (ts : List Token) :
    admittedLeaf? p s ts = (admittedLeaf? p.unrestricted s ts).bind (Predicate.prune? p) := by
  unfold admittedLeaf?
  cases Clause.ofTokens? ts with
  | none => rfl
  | some c => simp [Policy.unrestricted, Predicate.prune?]

/-- A group is dropped where pruning leaves it no children. -/
lemma admittedGroup?_eq_prune? (p : Policy) (s : Statement) (children : List Predicate) :
    admittedGroup? s (Predicate.prune p children) =
      (admittedGroup? s children).bind (Predicate.prune? p) := by
  unfold admittedGroup?
  cases children with
  | nil => rfl
  | cons q qs => exact (Predicate.prune?_group p _ _ _).symm

lemma admittedSequence_eq_prune {p : Policy} {grouped grouped' : List Token → List Predicate}
    (h : ∀ ts, grouped ts = Predicate.prune p (grouped' ts)) (ts : List Token) :
    admittedSequence p grouped ts =
      Predicate.prune p (admittedSequence p.unrestricted grouped' ts) := by
  have hs : admittedStatement? p grouped = fun s =>
      (admittedStatement? p.unrestricted grouped' s).bind (Predicate.prune? p) := by
    funext s
    unfold admittedStatement?
    cases s.body with
    | leaf ts => exact admittedLeaf?_eq_prune? p s ts
    | group ts =>
      change admittedGroup? s (grouped ts) = _
      rw [h]
      exact admittedGroup?_eq_prune? p s (grouped' ts)
  rw [admittedSequence, admittedSequence, Predicate.prune_headed, Predicate.prune_eq_headed,
    List.filterMap_filterMap, hs]

lemma admitted_eq_prune (p : Policy) (input : String) :
    admitted p input = Predicate.prune p (admitted p.unrestricted input) := by
  have hchildren (ts : List Token) : admittedChildren p ts =
      Predicate.prune p (admittedChildren p.unrestricted ts) :=
    admittedSequence_eq_prune (fun _ => (Predicate.prune_eq_headed p []).symm) ts
  exact admittedSequence_eq_prune hchildren _

end Filter

lemma SortTerm.admitted_eq_filter (p : Policy) (input : String) :
    SortTerm.admitted p input =
      (SortTerm.admitted p.unrestricted input).filter fun t => p.isFilterable t.column := by
  have hall : (scan input.toList).filter (fun t => p.unrestricted.isFilterable t.column) =
      scan input.toList := List.filter_eq_self.2 fun _ _ => rfl
  rw [admitted, admitted, hall, List.filter_map]
  rfl

namespace Query

lemma attributesOf_joined (facets filters : List Predicate) :
    Predicate.attributesOf (joined facets filters) =
      Predicate.attributesOf facets ++ Predicate.attributesOf filters := by
  cases facets with
  | nil => rfl
  | cons q qs =>
    change Predicate.attributesOf (q :: qs ++ Predicate.headed (some .and) filters) = _
    rw [Predicate.attributesOf_append, Predicate.attributesOf_headed]

/-- Permissive mode never fails, and its query is what pruning leaves of the facets, the filters and
the sort terms of the unrestricted request. Nothing disallowed is left in it at any depth. -/
theorem compile_permissive (p : Policy) (r : Request) :
    ∃ q facets filters sort,
      compile p .permissive r = .ok q ∧
      (∀ m, FacetGroups.compile ⟨p.unrestricted, m⟩ (r.facetFilters.getD "") = .ok facets) ∧
      (∀ m, Filter.compile ⟨p.unrestricted, m⟩ (r.filters.getD "") = .ok filters) ∧
      (∀ m, SortTerm.compile ⟨p.unrestricted, m⟩ (r.sortBy.getD "") = .ok sort) ∧
      (let kept := Predicate.headed none (facets.filter (Predicate.isAllowed p))
       let rest := Predicate.prune p filters
       q.predicates =
        kept ++ if kept.isEmpty then rest else Predicate.headed (some .and) rest) ∧
      q.sort = sort.filter (fun t => p.isFilterable t.column) ∧
      q.projection = FacetSearch.projection r.attributesToRetrieve ∧
      (∀ a ∈ Predicate.attributesOf q.predicates, p.isFilterable a) ∧
      (∀ t ∈ q.sort, p.isFilterable t.column) := by
  have hopen {α : Type} (m : Mode) (names : List String) (x : α) :
      Guard.grant ⟨p.unrestricted, m⟩ names x = .ok x := Guard.grant_of_forall x fun _ _ => rfl
  refine ⟨admitted p r, FacetGroups.admitted p.unrestricted (r.facetFilters.getD ""),
    Filter.admitted p.unrestricted (r.filters.getD ""),
    SortTerm.admitted p.unrestricted (r.sortBy.getD ""), compile_eq_grant p .permissive r,
    ?_, ?_, ?_, ?_, ?_, rfl, ?_, ?_⟩
  · intro m
    rw [FacetGroups.compile_eq_grant, hopen]
  · intro m
    rw [Filter.compile_eq_grant, hopen]
  · intro m
    rw [SortTerm.compile_eq_grant, hopen]
  · intro kept rest
    have hkept : FacetGroups.admitted p (r.facetFilters.getD "") = kept :=
      FacetGroups.admitted_eq_filter p _
    have hrest : Filter.admitted p (r.filters.getD "") = rest := Filter.admitted_eq_prune p _
    rw [admitted, hkept, hrest, joined]
    cases hk : kept.isEmpty <;> simp_all
  · exact SortTerm.admitted_eq_filter p _
  · intro a ha
    rw [admitted, attributesOf_joined, FacetGroups.admitted_eq_filter, Filter.admitted_eq_prune,
      Predicate.attributesOf_headed, List.mem_append] at ha
    rcases ha with ha | ha
    · exact Predicate.allowed_of_filter ha
    · exact Predicate.allowed_of_prune ha
  · intro t ht
    rw [admitted, SortTerm.admitted_eq_filter] at ht
    exact (List.mem_filter.1 ht).2

end Query
end FacetSearch
