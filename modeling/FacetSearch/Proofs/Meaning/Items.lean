import FacetSearch.Proofs.Meaning.Facets
import FacetSearch.Proofs.Meaning.Record
import Mathlib.Data.Finset.Basic

/-! What facets ask of an item: in each attribute none of the values that are excluded and, where
some are asked for, one of these, or all of them if the attribute is an array. -/
namespace FacetSearch

/-- A record as facets see it: nothing is missing, and array attributes hold sets. Whether such a set
is one of some values is left open, but their order and number do not count. -/
structure Item where
  text : String → String
  texts : String → Finset String
  isOneOf : String → Set String → Truth

namespace Item

variable (i : Item)

/-- The record of a table that holds the texts of an item. -/
def record : Record where
  value? a := some (.text (i.text a))
  contains a vs := .ofBool (∀ s ∈ vs, s ∈ i.texts a)

section Verdict

variable [LinearOrder Value] (p : Policy)

/-- The truth value of a test. What a list asks of a set is up to the item. -/
def test (a : String) : Test → Truth
  | .inList vs negated =>
    if p.isArray a then (i.isOneOf a {s | s ∈ vs}).notIf negated
    else (Test.inList vs negated).verdict i.record a
  | t => t.verdict i.record a

mutual
/-- The truth value of a predicate, where groups are read from left to right. -/
def predicate : Predicate → Truth
  | .leaf _ a t => i.test p a t
  | .group _ negated children => (Row.leftToRight (row children)).notIf negated

def row : List Predicate → Row
  | [] => []
  | q :: qs => (q.link, predicate q) :: row qs
end

@[simp] lemma predicate_withConnective (k : Option Connective) (q : Predicate) :
    i.predicate p (q.withConnective k) = i.predicate p q := by
  cases q <;> rfl

lemma row_eq_map (qs : List Predicate) :
    i.row p qs = qs.map fun q => (q.link, i.predicate p q) := by
  induction qs with
  | nil => rfl
  | cons q qs ih => rw [row, ih, List.map_cons]

lemma forall_mem_headed_iff (k : Option Connective) (qs : List Predicate) :
    (∀ q ∈ Predicate.headed k qs, i.predicate p q = .holds) ↔ ∀ q ∈ qs, i.predicate p q = .holds := by
  cases qs with
  | nil => rfl
  | cons q qs => simp

end Verdict

/-- What some values ask of an attribute. -/
def Meets (p : Policy) (a : String) (vs : List FacetValue) : Prop :=
  if p.isArray a then
    (∀ s, ⟨s, false⟩ ∈ vs → s ∈ i.texts a) ∧
      ((∃ s, ⟨s, true⟩ ∈ vs) → (i.isOneOf a {s | ⟨s, true⟩ ∈ vs}).not = .holds)
  else
    ⟨i.text a, true⟩ ∉ vs ∧ ((∃ s, ⟨s, false⟩ ∈ vs) → ⟨i.text a, false⟩ ∈ vs)

/-- The order and the number of the values do not matter. -/
lemma meets_congr {p : Policy} {a : String} {vs ws : List FacetValue} (h : ∀ v, v ∈ vs ↔ v ∈ ws) :
    i.Meets p a vs ↔ i.Meets p a ws := by
  simp only [Meets, h]

end Item

namespace FacetGroups

lemma mem_valuesOf_iff {negated : Bool} {vs : List FacetValue} {s : String} :
    s ∈ valuesOf negated vs ↔ ⟨s, negated⟩ ∈ vs := by
  rw [valuesOf, List.mem_eraseDups, List.mem_map]
  constructor
  · rintro ⟨v, hv, rfl⟩
    obtain ⟨hmem, hsign⟩ := List.mem_filter.1 hv
    rwa [← beq_iff_eq.1 hsign]
  · intro h
    exact ⟨⟨s, negated⟩, List.mem_filter.2 ⟨h, beq_self_eq_true negated⟩, rfl⟩

lemma valuesOf_ne_nil_iff {negated : Bool} {vs : List FacetValue} :
    valuesOf negated vs ≠ [] ↔ ∃ s, ⟨s, negated⟩ ∈ vs := by
  simp only [← mem_valuesOf_iff]
  exact ⟨List.exists_mem_of_ne_nil _, fun ⟨_, hs⟩ => List.ne_nil_of_mem hs⟩

lemma forall_exclusion_iff {P : Test → Prop} (vs : List String) :
    (∀ t ∈ exclusion vs, P t) ↔ (vs ≠ [] → P (.inList vs true)) := by
  cases vs with
  | nil => simp [exclusion]
  | cons v vs => simp [exclusion]

section Tests

variable [LinearOrder Value] (i : Item) (p : Policy) {a : String}

lemma test_equals (v : String) :
    i.test p a (.comparison .eq (.text v) false) = .ofBool (i.text a = v) := by
  simp [Item.test, Test.verdict, Record.ask, Item.record, Operator.admits]

section Text

variable (ha : p.isArray a = false)
include ha

lemma test_inList (vs : List String) (negated : Bool) :
    i.test p a (.inList vs negated) = (Truth.ofBool (i.text a ∈ vs)).notIf negated := by
  have hmem : Value.isOneOf vs (.text (i.text a)) = decide (i.text a ∈ vs) := by
    rw [Bool.eq_iff_iff]
    simp [Value.isOneOf, Operator.admits]
  rw [Item.test, ha, ← hmem]
  rfl

/-- Of several values, and of one, one has to be that of the item. -/
lemma holds_inclusion_iff (vs : List String) :
    (∀ t ∈ inclusion (p.isArray a) vs, i.test p a t = .holds) ↔ (vs ≠ [] → i.text a ∈ vs) := by
  rw [ha]
  match vs with
  | [] => simp [inclusion]
  | [v] => simp [inclusion, test_equals]
  | v :: w :: vs => simp [inclusion, test_inList i p ha]

lemma holds_exclusion_iff (vs : List String) :
    (∀ t ∈ exclusion vs, i.test p a t = .holds) ↔ i.text a ∉ vs := by
  rw [forall_exclusion_iff, test_inList i p ha]
  cases vs with
  | nil => simp
  | cons v vs => simp

end Text

section Array

variable (ha : p.isArray a)
include ha

lemma holds_inclusion_iff_of_isArray (vs : List String) :
    (∀ t ∈ inclusion (p.isArray a) vs, i.test p a t = .holds) ↔ ∀ s ∈ vs, s ∈ i.texts a := by
  have hcontains (vs : List String) :
      i.test p a (.arrayContains vs) = .ofBool (∀ s ∈ vs, s ∈ i.texts a) := rfl
  rw [ha]
  match vs with
  | [] => simp [inclusion]
  | [v] => simp [inclusion, hcontains]
  | v :: w :: vs => simp [inclusion, hcontains]

lemma holds_exclusion_iff_of_isArray (vs : List String) :
    (∀ t ∈ exclusion vs, i.test p a t = .holds) ↔
      (vs ≠ [] → (i.isOneOf a {s | s ∈ vs}).not = .holds) := by
  rw [forall_exclusion_iff, Item.test, if_pos ha]
  rfl

end Array

/-- The tests of an attribute hold exactly of the items that meet its values. -/
lemma holds_tests_iff (vs : List FacetValue) :
    (∀ t ∈ exclusion (valuesOf true vs) ++ inclusion (p.isArray a) (valuesOf false vs),
      i.test p a t = .holds) ↔ i.Meets p a vs := by
  rw [List.forall_mem_append, Item.Meets]
  split
  · next ha =>
    rw [holds_exclusion_iff_of_isArray i p ha, holds_inclusion_iff_of_isArray i p ha,
      valuesOf_ne_nil_iff, and_comm]
    simp only [mem_valuesOf_iff]
  · next ha =>
    rw [Bool.not_eq_true] at ha
    rw [holds_exclusion_iff i p ha, holds_inclusion_iff i p ha, valuesOf_ne_nil_iff,
      mem_valuesOf_iff, mem_valuesOf_iff]

/-- The predicates of some groups hold exactly of the items that meet each of them. -/
lemma holds_predicates_iff (groups : FacetGroups) :
    (i.row p (predicates p groups)).leftToRight = .holds ↔ ∀ g ∈ groups, i.Meets p g.1 g.2 := by
  have hand : ∀ c ∈ (i.row p (predicates p groups)).tail, c.1 = .and := by
    rw [Item.row_eq_map, ← List.map_tail, List.forall_mem_map]
    exact fun q hq => link_eq_and hq
  rw [Row.leftToRight_eq_holds_iff hand, Item.row_eq_map, List.forall_mem_map, predicates,
    Item.forall_mem_headed_iff, List.forall_mem_flatMap]
  apply forall₂_congr
  intro g hg
  rw [List.forall_mem_map]
  exact holds_tests_iff i p g.2

end Tests

section Tokens

variable {fs gs : List Facet}

lemma forall_mem_ofFacets_iff {P : String → List FacetValue → Prop} :
    (∀ g ∈ ofFacets fs, P g.1 g.2) ↔
      ∀ f ∈ fs, P f.name ((fs.filter (·.name == f.name)).map (·.value)) := by
  rw [ofFacets, List.forall_mem_map]
  simp only [List.mem_eraseDups, List.forall_mem_map]

lemma mem_values_iff {a : String} {v : FacetValue} :
    v ∈ (fs.filter (·.name == a)).map (·.value) ↔ ⟨a, v⟩ ∈ fs := by
  rw [List.mem_map]
  constructor
  · rintro ⟨f, hf, rfl⟩
    obtain ⟨hmem, hname⟩ := List.mem_filter.1 hf
    rwa [← beq_iff_eq.1 hname]
  · intro h
    exact ⟨⟨a, v⟩, List.mem_filter.2 ⟨h, beq_self_eq_true a⟩, rfl⟩

/-- Items meet the groups of the same facets in any order and number alike. -/
lemma meets_ofFacets_congr (i : Item) (p : Policy) (h : ∀ f, f ∈ fs ↔ f ∈ gs) :
    (∀ g ∈ ofFacets fs, i.Meets p g.1 g.2) ↔ ∀ g ∈ ofFacets gs, i.Meets p g.1 g.2 := by
  have hvalues (a : String) (v : FacetValue) : v ∈ (fs.filter (·.name == a)).map (·.value) ↔
      v ∈ (gs.filter (·.name == a)).map (·.value) := by
    rw [mem_values_iff, mem_values_iff, h]
  rw [forall_mem_ofFacets_iff, forall_mem_ofFacets_iff]
  constructor
  · intro hmeets f hf
    exact (i.meets_congr (hvalues f.name)).1 (hmeets f ((h f).2 hf))
  · intro hmeets f hf
    exact (i.meets_congr (hvalues f.name)).2 (hmeets f ((h f).1 hf))

end Tokens

/-- The predicates of facets hold exactly of the items in which every attribute meets its values. So
facet filters mean the same if their tokens are permuted or repeated. -/
theorem predicates_meets [LinearOrder Value] :
    (∀ (p : Policy) (i : Item) (groups : FacetGroups),
      (i.row p (predicates p groups)).leftToRight = .holds ↔
        ∀ a vs, (a, vs) ∈ groups → i.Meets p a vs) ∧
    ∀ (g : Guard) (s t : String), (∀ f, f ∈ Facet.scan s.toList ↔ f ∈ Facet.scan t.toList) →
      ∀ ps, compile g s = .ok ps → ∃ qs, compile g t = .ok qs ∧
        ∀ i : Item, (i.row g.policy ps).leftToRight = .holds ↔
          (i.row g.policy qs).leftToRight = .holds := by
  constructor
  · intro p i groups
    rw [holds_predicates_iff, Prod.forall]
  · intro g s t h ps hps
    rw [compile_eq_grant, Guard.grant_eq_ok_iff] at hps
    obtain ⟨hrefused, rfl⟩ := hps
    have hmentions : g.refused? (mentions t) = none := by
      rw [Guard.refused?_eq_none_iff] at hrefused ⊢
      intro hstrict
      rw [mentions, List.forall_mem_map]
      exact fun f hf => hrefused hstrict f.name (List.mem_map_of_mem ((h f).2 hf))
    refine ⟨admitted g.policy t, ?_, fun i => ?_⟩
    · rw [compile_eq_grant, Guard.grant_eq_ok_iff]
      exact ⟨hmentions, rfl⟩
    · rw [admitted, admitted, holds_predicates_iff, holds_predicates_iff]
      apply meets_ofFacets_congr
      simp [h]

/-- The predicates of the two texts are not the same, but they mean the same. -/
theorem predicates_meets_repeated :
    (∀ f, f ∈ Facet.scan "\"make:Kia\" \"color:-Red\"".toList ↔
      f ∈ Facet.scan "\"color:-Red\" \"make:Kia\" \"color:--Red\"".toList) ∧
    ∃ ps qs,
      compile ⟨{ isFilterable := fun _ => true }, .strict⟩ "\"make:Kia\" \"color:-Red\"" = .ok ps ∧
      compile ⟨{ isFilterable := fun _ => true }, .strict⟩
        "\"color:-Red\" \"make:Kia\" \"color:--Red\"" = .ok qs ∧
      ps ≠ qs ∧ ∀ [LinearOrder Value] (i : Item),
        (i.row { isFilterable := fun _ => true } ps).leftToRight = .holds ↔
          (i.row { isFilterable := fun _ => true } qs).leftToRight = .holds := by
  have hfirst : Facet.scan "\"make:Kia\" \"color:-Red\"".toList =
      [⟨"make", "Kia", false⟩, ⟨"color", "Red", true⟩] := by
    decide +kernel
  have hsecond : Facet.scan "\"color:-Red\" \"make:Kia\" \"color:--Red\"".toList =
      [⟨"color", "Red", true⟩, ⟨"make", "Kia", false⟩, ⟨"color", "Red", true⟩] := by
    decide +kernel
  have hsame : ∀ f, f ∈ Facet.scan "\"make:Kia\" \"color:-Red\"".toList ↔
      f ∈ Facet.scan "\"color:-Red\" \"make:Kia\" \"color:--Red\"".toList := by
    intro f
    simp only [hfirst, hsecond, List.mem_cons]
    tauto
  have hps : compile ⟨{ isFilterable := fun _ => true }, .strict⟩
      "\"make:Kia\" \"color:-Red\"" =
        .ok [.leaf none "make" (.comparison .eq (.text "Kia") false),
          .leaf (some .and) "color" (.inList ["Red"] true)] := by
    decide +kernel
  have hqs : compile ⟨{ isFilterable := fun _ => true }, .strict⟩
      "\"color:-Red\" \"make:Kia\" \"color:--Red\"" =
        .ok [.leaf none "color" (.inList ["Red"] true),
          .leaf (some .and) "make" (.comparison .eq (.text "Kia") false)] := by
    decide +kernel
  refine ⟨hsame, _, _, hps, hqs, by decide, fun i => ?_⟩
  obtain ⟨qs, hcompile, hmeans⟩ := predicates_meets.2 _ _ _ hsame _ hps
  cases hqs.symm.trans hcompile
  exact hmeans i

end FacetGroups
end FacetSearch
