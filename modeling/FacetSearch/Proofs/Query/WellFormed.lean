import FacetSearch.Proofs.Filter.Fragments
import FacetSearch.Proofs.Filter.Grammar
import FacetSearch.Proofs.Request.Columns
import FacetSearch.Proofs.Sort.Legible

/-! What every compiled query keeps to, however much of its request was dropped on the way: its
predicates are linked, its groups are one level deep, and its tests, terms and columns make sense. -/
namespace FacetSearch

section Lists

variable {α β : Type}

/-- What is not kept first comes from what is not first. -/
lemma exists_of_mem_tail_filterMap {f : α → Option β} {xs : List α} {y : β}
    (h : y ∈ (xs.filterMap f).tail) : ∃ x ∈ xs.tail, f x = some y := by
  cases xs with
  | nil => simp at h
  | cons x xs =>
    have hy : y ∈ xs.filterMap f := by
      cases hx : f x with
      | none =>
        rw [List.filterMap_cons_none hx] at h
        exact List.mem_of_mem_tail h
      | some z =>
        rw [List.filterMap_cons_some hx] at h
        exact h
    exact List.mem_filterMap.1 hy

end Lists

/-- Whether the parts of a test fit together. The least length of a list of values depends on whether
it is negated, and containment is asked for on array attributes only. -/
def Test.WellFormed (least : Bool → ℕ) (isArray : Bool) : Test → Prop
  | comparison op v negated => ∀ s, v = .text s → op = if negated then .ne else .eq
  | range low high _ => low ≤ high
  | inList vs negated => vs.Nodup ∧ least negated ≤ vs.length
  | isNull _ => True
  | arrayContains vs => vs.Nodup ∧ vs ≠ [] ∧ isArray

namespace Predicate

/-- Whether the first predicate of a list has no connective and every later one has one. -/
def Linked (ps : List Predicate) : Prop :=
  (∀ p ∈ ps.head?, p.connective = none) ∧ ∀ p ∈ ps.tail, p.connective.isSome

/-- Whether a predicate is a leaf whose attribute and test have a property. -/
def IsLeaf (P : String → Test → Prop) : Predicate → Prop
  | leaf _ a t => P a t
  | group _ _ _ => False

/-- The leaves that facets make. A single value may be excluded by a list. -/
def OfFacet (p : Policy) : Predicate → Prop :=
  IsLeaf fun a => Test.WellFormed (fun negated => if negated then 1 else 2) (p.isArray a)

/-- The leaves that filters make. -/
def OfClause : Predicate → Prop := IsLeaf fun _ => Test.WellFormed (fun _ => 2) false

/-- The predicates that filters make: a leaf, or a group of leaves. -/
def OfFilter : Predicate → Prop
  | leaf k a t => OfClause (leaf k a t)
  | group _ _ children => children ≠ [] ∧ Linked children ∧ ∀ c ∈ children, c.OfClause

@[simp] lemma linked_nil : Linked [] := by
  simp [Linked]

lemma linked_headed_iff {ps : List Predicate} :
    Linked (headed none ps) ↔ ∀ p ∈ ps.tail, p.connective.isSome := by
  cases ps with
  | nil => simp
  | cons p ps => simp [Linked]

lemma IsLeaf.withConnective {P : String → Test → Prop} {p : Predicate} (h : p.IsLeaf P)
    (k : Option Connective) : (p.withConnective k).IsLeaf P := by
  cases p with
  | leaf k' a t => exact h
  | group k' negated children => exact h

lemma OfFilter.withConnective {p : Predicate} (h : p.OfFilter) (k : Option Connective) :
    (p.withConnective k).OfFilter := by
  cases p with
  | leaf k' a t => exact h
  | group k' negated children => exact h

lemma OfClause.ofFilter {p : Predicate} (h : p.OfClause) : p.OfFilter := by
  cases p with
  | leaf k a t => exact h
  | group k negated children => exact h.elim

lemma forall_mem_headed {P : Predicate → Prop} {k : Option Connective} {ps : List Predicate}
    (hP : ∀ p, P p → P (p.withConnective k)) (h : ∀ p ∈ ps, P p) : ∀ p ∈ headed k ps, P p := by
  cases ps with
  | nil => simp
  | cons p ps =>
    rw [List.forall_mem_cons] at h
    rw [headed_cons, List.forall_mem_cons]
    exact ⟨hP p h.1, h.2⟩

end Predicate

namespace FacetGroups
open Predicate (OfFacet Linked)

lemma nodup_valuesOf (negated : Bool) (vs : List FacetValue) : (valuesOf negated vs).Nodup :=
  (firstPlaces_eraseDups _).nodup

lemma wellFormed_of_mem_exclusion {vs : List String} (hvs : vs.Nodup) {isArray : Bool} {t : Test}
    (h : t ∈ exclusion vs) :
    t.WellFormed (fun negated => if negated then 1 else 2) isArray := by
  unfold exclusion at h
  split at h
  · cases h
  · next hne =>
    obtain rfl : t = .inList vs true := List.mem_singleton.1 h
    exact ⟨hvs, List.length_pos_iff.2 hne⟩

lemma wellFormed_of_mem_inclusion {vs : List String} (hvs : vs.Nodup) {isArray : Bool} {t : Test}
    (h : t ∈ inclusion isArray vs) :
    t.WellFormed (fun negated => if negated then 1 else 2) isArray := by
  unfold inclusion at h
  split at h
  · cases h
  · next v =>
    split at h
    · next harray =>
      obtain rfl : t = .arrayContains [v] := List.mem_singleton.1 h
      exact ⟨hvs, List.cons_ne_nil v [], harray⟩
    · obtain rfl : t = .comparison .eq (.text v) false := List.mem_singleton.1 h
      exact fun _ _ => rfl
  · next hne hone =>
    split at h
    · next harray =>
      obtain rfl : t = .arrayContains vs := List.mem_singleton.1 h
      exact ⟨hvs, hne, harray⟩
    · obtain rfl : t = .inList vs false := List.mem_singleton.1 h
      refine ⟨hvs, ?_⟩
      match vs, hne, hone with
      | [], hne, _ => exact absurd rfl hne
      | [v], _, hone => exact absurd rfl (hone v)
      | _ :: _ :: vs, _, _ => exact Nat.le_add_left 2 vs.length

/-- The predicates of some groups before the first of them loses its connective. -/
lemma exists_of_mem_flatMap {p : Policy} {groups : FacetGroups} {q : Predicate}
    (h : q ∈ groups.flatMap fun (a, vs) =>
      (exclusion (valuesOf true vs) ++ inclusion (p.isArray a) (valuesOf false vs)).map
        (.leaf (some .and) a)) :
    q.connective = some .and ∧ q.OfFacet p := by
  obtain ⟨⟨a, vs⟩, -, hq⟩ := List.mem_flatMap.1 h
  obtain ⟨t, ht, rfl⟩ := List.mem_map.1 hq
  refine ⟨rfl, ?_⟩
  rcases List.mem_append.1 ht with ht | ht
  · exact wellFormed_of_mem_exclusion (nodup_valuesOf true vs) ht
  · exact wellFormed_of_mem_inclusion (nodup_valuesOf false vs) ht

lemma linked_predicates (p : Policy) (groups : FacetGroups) : Linked (predicates p groups) := by
  rw [predicates, Predicate.linked_headed_iff]
  intro q hq
  rw [(exists_of_mem_flatMap (List.mem_of_mem_tail hq)).1]
  rfl

lemma ofFacet_of_mem_predicates (p : Policy) (groups : FacetGroups) :
    ∀ q ∈ predicates p groups, q.OfFacet p := by
  rw [predicates]
  apply Predicate.forall_mem_headed
  · exact fun q hq => hq.withConnective none
  · exact fun q hq => (exists_of_mem_flatMap hq).2

end FacetGroups

namespace Filter
open Predicate (OfClause OfFilter Linked)

section Clauses

/-- Whether the values of a clause are in order: bounds ascend, and no value is named twice. -/
def Clause.InOrder : Clause → Prop
  | range _ low high => low ≤ high
  | numeric _ _ _ => True
  | values _ vs => vs.Nodup

lemma Clause.inOrder_of_ofTokens? {ts : List Token} {c : Clause} (h : ofTokens? ts = some c) :
    c.InOrder := by
  cases spelled_of_ofTokens? h with
  | range _ _ _ _ =>
    change min _ _ ≤ max _ _
    rw [Int64.le_iff_toInt_le, Text.toInt_min, Text.toInt_max]
    exact min_le_max
  | numeric => trivial
  | values _ hvs _ => exact hvs.nodup

lemma Clause.wellFormed_testOf (negated : Bool) (v : String) :
    (testOf negated v).WellFormed (fun _ => 2) false := by
  unfold testOf
  split
  · trivial
  · exact fun _ _ => rfl

lemma Clause.wellFormed_test {c : Clause} (h : c.InOrder) (negated : Bool) :
    (c.test negated).WellFormed (fun _ => 2) false := by
  match c, h with
  | .range a low high, h => exact h
  | .numeric a op n, _ => exact fun s hs => nomatch hs
  | .values a [], _ => exact wellFormed_testOf negated ""
  | .values a [v], _ => exact wellFormed_testOf negated v
  | .values a (v :: w :: vs), h => exact ⟨h, Nat.le_add_left 2 vs.length⟩

end Clauses

section Statements

/-- Every statement but the first has the connective before it. -/
lemma isSome_of_mem_tail_statements {ts : List Token} {s : Statement}
    (h : s ∈ (statements ts).tail) : s.connective.isSome := by
  have htail : (statements ts).tail =
      ((pieces none ts).filterMap Statement.ofFragment?).tail := by
    rw [statements_eq_leading]
    cases (pieces none ts).filterMap Statement.ofFragment? <;> rfl
  rw [htail] at h
  obtain ⟨f, hf, hs⟩ := exists_of_mem_tail_filterMap h
  rw [Statement.connective_of_ofFragment? hs]
  exact isSome_of_mem_fragments hf

end Statements

variable {p : Policy} {grouped : List Token → List Predicate}

lemma cases_of_admittedStatement? {s : Statement} {q : Predicate}
    (h : admittedStatement? p grouped s = some q) :
    (∃ ts c, s.body = .leaf ts ∧ Clause.ofTokens? ts = some c ∧
        q = .leaf s.connective c.name (c.test s.negated)) ∨
      ∃ ts, s.body = .group ts ∧ grouped ts ≠ [] ∧
        q = .group s.connective s.negated (grouped ts) := by
  unfold admittedStatement? at h
  split at h
  · next ts hbody =>
    obtain ⟨c, hc, hq⟩ := Option.bind_eq_some_iff.1 h
    split at hq <;> cases hq
    exact .inl ⟨ts, c, hbody, hc, rfl⟩
  · next ts hbody =>
    unfold admittedGroup? at h
    split at h <;> cases h
    next hne => exact .inr ⟨ts, hbody, by simpa using hne, rfl⟩

lemma connective_of_admittedStatement? {s : Statement} {q : Predicate}
    (h : admittedStatement? p grouped s = some q) : q.connective = s.connective := by
  obtain ⟨ts, c, -, -, rfl⟩ | ⟨ts, -, -, rfl⟩ := cases_of_admittedStatement? h
  · rfl
  · rfl

lemma linked_admittedSequence (ts : List Token) : Linked (admittedSequence p grouped ts) := by
  rw [admittedSequence, Predicate.linked_headed_iff]
  intro q hq
  obtain ⟨s, hs, hsq⟩ := exists_of_mem_tail_filterMap hq
  rw [connective_of_admittedStatement? hsq]
  exact isSome_of_mem_tail_statements hs

/-- Inside a group there are no groups. -/
lemma ofClause_of_admittedStatement? {s : Statement} {q : Predicate}
    (h : admittedStatement? p (fun _ => []) s = some q) : q.OfClause := by
  obtain ⟨ts, c, -, hc, rfl⟩ | ⟨ts, -, hne, -⟩ := cases_of_admittedStatement? h
  · exact Clause.wellFormed_test (Clause.inOrder_of_ofTokens? hc) s.negated
  · exact absurd rfl hne

lemma ofClause_of_mem_admittedChildren {ts : List Token} :
    ∀ q ∈ admittedChildren p ts, q.OfClause := by
  rw [admittedChildren, admittedSequence]
  apply Predicate.forall_mem_headed
  · exact fun q hq => hq.withConnective none
  · intro q hq
    obtain ⟨s, -, hs⟩ := List.mem_filterMap.1 hq
    exact ofClause_of_admittedStatement? hs

lemma ofFilter_of_admittedStatement? {s : Statement} {q : Predicate}
    (h : admittedStatement? p (admittedChildren p) s = some q) : q.OfFilter := by
  obtain ⟨ts, c, -, hc, rfl⟩ | ⟨ts, -, hne, rfl⟩ := cases_of_admittedStatement? h
  · exact Clause.wellFormed_test (Clause.inOrder_of_ofTokens? hc) s.negated
  · exact ⟨hne, linked_admittedSequence ts, ofClause_of_mem_admittedChildren⟩

lemma ofFilter_of_mem_admitted {input : String} : ∀ q ∈ admitted p input, q.OfFilter := by
  rw [admitted, admittedSequence]
  apply Predicate.forall_mem_headed
  · exact fun q hq => hq.withConnective none
  · intro q hq
    obtain ⟨s, -, hs⟩ := List.mem_filterMap.1 hq
    exact ofFilter_of_admittedStatement? hs

end Filter

namespace SortTerm

/-- Whether a term names a column and compares it by one of the operators of sort conditions. The
flag is set exactly on plain terms whose column is bucket-sorted. -/
structure WellFormed (p : Policy) (t : SortTerm) : Prop where
  isAttributeName : isAttributeName t.column
  operator_mem : ∀ c, t.condition = some c → c.operator ∈ [.eq, .ne, .lt, .gt]
  nullsLast_iff : t.nullsLast ↔ t.condition = none ∧ p.isBucketSorted t.column

lemma operator_mem_of_ofText? {body : List Char} {c : SortCondition}
    (h : SortCondition.ofText? body = some (some c)) : c.operator ∈ [.eq, .ne, .lt, .gt] := by
  have hcond {op : Operator} {value : List Char}
      (hc : SortCondition.ofText?.condition op value = some (some c)) : c.operator = op := by
    unfold SortCondition.ofText?.condition at hc
    split at hc <;> cases hc
    rfl
  unfold SortCondition.ofText? at h
  split at h
  · cases h
  · rw [hcond h]
    decide
  · rw [hcond h]
    decide
  · rw [hcond h]
    decide
  · rw [hcond h]
    decide
  · cases h

lemma wellFormed_marked {p : Policy} {direction : Direction} {body : List Char} {t : SortTerm}
    (h : ofBody? direction body = some t) : (t.marked p).WellFormed p := by
  simp only [ofBody?] at h
  split at h
  · cases h
  · next hne =>
    obtain ⟨condition, hcondition, rfl⟩ := Option.map_eq_some_iff.1 h
    constructor
    · simp [FacetSearch.isAttributeName, marked, hne]
    · intro c hc
      obtain rfl : condition = some c := hc
      exact operator_mem_of_ofText? hcondition
    · simp [marked]

lemma wellFormed_of_mem_admitted {p : Policy} {input : String} :
    ∀ t ∈ admitted p input, t.WellFormed p := by
  intro t ht
  obtain ⟨u, hu, rfl⟩ := List.mem_map.1 ht
  obtain ⟨direction, body, hbody⟩ := exists_ofBody?_of_mem_scan (List.mem_filter.1 hu).1
  exact wellFormed_marked hbody

end SortTerm

namespace Query
open Predicate (Linked OfFacet OfFilter)

/-- The connective that joins the filters to the facets keeps the list linked. -/
lemma linked_joined {facets filters : List Predicate} (hfacets : Linked facets)
    (hfilters : Linked filters) : Linked (joined facets filters) := by
  cases facets with
  | nil => exact hfilters
  | cons f fs =>
    refine ⟨fun p hp => hfacets.1 p hp, ?_⟩
    change ∀ p ∈ fs ++ Predicate.headed (some .and) filters, p.connective.isSome
    rw [List.forall_mem_append]
    refine ⟨hfacets.2, ?_⟩
    cases filters with
    | nil => simp
    | cons g gs =>
      rw [Predicate.headed_cons, List.forall_mem_cons]
      exact ⟨by simp, hfilters.2⟩

lemma joined_eq_append (facets filters : List Predicate) :
    joined facets filters =
      facets ++ if facets.isEmpty then filters else Predicate.headed (some .and) filters := by
  cases facets <;> rfl

/-- Every compiled query is well-formed. Its predicates are those of its facets, then those of its
filters, and only a list that excludes the values of a facet may be one value long. -/
theorem compile_wellFormed {p : Policy} {mode : Mode} {r : Request} {q : Query}
    (h : compile p mode r = .ok q) :
    (∃ facets filters,
      FacetGroups.compile ⟨p, mode⟩ (r.facetFilters.getD "") = .ok facets ∧
      q.predicates = facets ++ filters ∧
      (∀ f ∈ facets, f.OfFacet p) ∧ (∀ f ∈ filters, f.OfFilter)) ∧
    Linked q.predicates ∧
    (∀ t ∈ q.sort, t.WellFormed p) ∧
    (∀ names, q.projection = some names →
      names ≠ [] ∧ ∀ a ∈ names, a ≠ "" ∧ a ≠ "*" ∧ Text.Trimmed a.toList) := by
  obtain ⟨hrefused, rfl⟩ := Guard.grant_eq_ok_iff.1 ((compile_eq_grant p mode r).symm.trans h)
  rw [Request.mentions, Guard.refused?_append, Guard.refused?_append, Option.or_eq_none_iff,
    Option.or_eq_none_iff] at hrefused
  obtain ⟨⟨hfacets, -⟩, -⟩ := hrefused
  refine ⟨⟨FacetGroups.admitted p (r.facetFilters.getD ""), _, ?_,
    joined_eq_append _ (Filter.admitted p (r.filters.getD "")), ?_, ?_⟩, ?_, ?_, ?_⟩
  · rw [FacetGroups.compile_eq_grant]
    exact Guard.grant_eq_ok_iff.2 ⟨hfacets, rfl⟩
  · exact FacetGroups.ofFacet_of_mem_predicates p _
  · have hfilters : ∀ f ∈ Filter.admitted p (r.filters.getD ""), f.OfFilter :=
      Filter.ofFilter_of_mem_admitted
    split
    · exact hfilters
    · exact Predicate.forall_mem_headed (fun f hf => hf.withConnective _) hfilters
  · exact linked_joined (FacetGroups.linked_predicates p _) (Filter.linked_admittedSequence _)
  · exact SortTerm.wellFormed_of_mem_admitted
  · exact fun names hnames => wellFormed_of_projection hnames

/-- The first facet excludes one value, and the first statement of the filter, the first one of its
group and a group inside that group are dropped. -/
theorem compile_wellFormed_dropped :
    ∃ q, compile { isFilterable := fun a => a != "secret", isArray := fun a => a == "features" }
        .permissive
        { facetFilters := some "[\"make:-Kia\", \"features:sunroof\"]",
          filters := some "secret:1 or not (secret:2 and year:9 to 1 or (a:1 and b:2) or make:NULL)",
          sortBy := some "secret|price<100,asc|", attributesToRetrieve := ["make", " "] } = .ok q ∧
      q.predicates =
        [.leaf none "make" (.inList ["Kia"] true),
          .leaf (some .and) "features" (.arrayContains ["sunroof"]),
          .group (some .and) true [.leaf none "year" (.range 1 9 false),
            .leaf (some .or) "make" (.isNull false)]] ∧
      Linked q.predicates ∧ q.projection = some ["make"] := by
  have hq : compile { isFilterable := fun a => a != "secret", isArray := fun a => a == "features" }
      .permissive
      { facetFilters := some "[\"make:-Kia\", \"features:sunroof\"]",
        filters := some "secret:1 or not (secret:2 and year:9 to 1 or (a:1 and b:2) or make:NULL)",
        sortBy := some "secret|price<100,asc|", attributesToRetrieve := ["make", " "] } =
      .ok ⟨[.leaf none "make" (.inList ["Kia"] true),
          .leaf (some .and) "features" (.arrayContains ["sunroof"]),
          .group (some .and) true [.leaf none "year" (.range 1 9 false),
            .leaf (some .or) "make" (.isNull false)]],
        [⟨"price", .asc, some ⟨.lt, .numeric "100"⟩, false⟩], some ["make"]⟩ := by
    decide +kernel
  exact ⟨_, hq, rfl, (compile_wellFormed hq).2.1, rfl⟩

end Query
end FacetSearch
