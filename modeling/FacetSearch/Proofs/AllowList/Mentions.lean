import FacetSearch.Proofs.AllowList.Grant
import FacetSearch.Query

/-! The attributes that a request mentions, in the order in which they are looked at, and what a
policy leaves of the request. Every stage of a compilation grants the second for the first, so that
strict mode fails exactly at the first disallowed mention and else agrees with permissive mode. -/
namespace FacetSearch

namespace FacetGroups

def mentions (input : String) : List String := (Facet.scan input.toList).map (·.name)

/-- The predicates of the facets that a policy allows. -/
def admitted (p : Policy) (input : String) : List Predicate :=
  predicates p (ofFacets ((Facet.scan input.toList).filter fun f => p.isFilterable f.name))

lemma compile_eq_grant (g : Guard) (input : String) :
    compile g input = g.grant (mentions input) (admitted g.policy input) := by
  have h : ofText g input = g.grant (mentions input)
      (ofFacets ((Facet.scan input.toList).filter fun f => g.policy.isFilterable f.name)) := by
    rw [ofText, Guard.filter_eq_grant]
    exact Guard.grant_map rfl
  rw [compile, h]
  exact Guard.grant_map rfl

end FacetGroups

namespace Filter

/-- The attribute of a single clause, or those inside a group; a body that is no clause has none. -/
def Body.mentions (grouped : List Token → List String) : Body → List String
  | .leaf ts => ((Clause.ofTokens? ts).map Clause.name).toList
  | .group ts => grouped ts

/-- The attributes of the statements of a token list, with a reading of those inside a group. -/
def sequenceMentions (grouped : List Token → List String) (ts : List Token) : List String :=
  (statements ts).flatMap fun s => s.body.mentions grouped

/-- The attributes inside a group, where further groups have none. -/
def childMentions : List Token → List String := sequenceMentions fun _ => []

def mentions (input : String) : List String := sequenceMentions childMentions (tidy (scan input))

/-- The predicate of a single clause whose attribute a policy allows. -/
def admittedLeaf? (p : Policy) (s : Statement) (ts : List Token) : Option Predicate :=
  (Clause.ofTokens? ts).bind fun c =>
    if p.isFilterable c.name then some (.leaf s.connective c.name (c.test s.negated)) else none

def admittedGroup? (s : Statement) (children : List Predicate) : Option Predicate :=
  if children.isEmpty then none else some (.group s.connective s.negated children)

def admittedStatement? (p : Policy) (grouped : List Token → List Predicate) (s : Statement) :
    Option Predicate :=
  match s.body with
  | .leaf ts => admittedLeaf? p s ts
  | .group ts => admittedGroup? s (grouped ts)

def admittedSequence (p : Policy) (grouped : List Token → List Predicate) (ts : List Token) :
    List Predicate :=
  Predicate.headed none ((statements ts).filterMap (admittedStatement? p grouped))

def admittedChildren (p : Policy) : List Token → List Predicate := admittedSequence p fun _ => []

/-- The predicates of the statements that a policy allows. -/
def admitted (p : Policy) (input : String) : List Predicate :=
  admittedSequence p (admittedChildren p) (tidy (scan input))

lemma leaf?_eq_grant (g : Guard) (s : Statement) (ts : List Token) :
    leaf? g s ts = g.grant ((Clause.ofTokens? ts).map Clause.name).toList
      (admittedLeaf? g.policy s ts) := by
  unfold leaf? admittedLeaf?
  cases Clause.ofTokens? ts with
  | none => exact (g.grant_nil none).symm
  | some c =>
    change (g.check c.name >>= _) = g.grant [c.name] _
    rw [Guard.check_eq_grant]
    exact Guard.grant_map rfl

lemma predicate?_eq_grant {g : Guard} {grouped : List Token → Except CompileError (List Predicate)}
    {names : List Token → List String} {kept : List Token → List Predicate}
    (h : ∀ ts, grouped ts = g.grant (names ts) (kept ts)) (s : Statement) :
    predicate? g grouped s = g.grant (s.body.mentions names) (admittedStatement? g.policy kept s) := by
  unfold predicate? admittedStatement?
  cases s.body with
  | leaf ts => exact leaf?_eq_grant g s ts
  | group ts =>
    change (grouped ts >>= _) = g.grant (names ts) _
    rw [h]
    exact Guard.grant_map rfl

lemma sequence_eq_grant {g : Guard} {grouped : List Token → Except CompileError (List Predicate)}
    {names : List Token → List String} {kept : List Token → List Predicate}
    (h : ∀ ts, grouped ts = g.grant (names ts) (kept ts)) (ts : List Token) :
    sequence g grouped ts =
      g.grant (sequenceMentions names ts) (admittedSequence g.policy kept ts) := by
  rw [sequence, Guard.filterMapM_eq_grant (predicate?_eq_grant h)]
  exact Guard.grant_map rfl

lemma children_eq_grant (g : Guard) (ts : List Token) :
    children g ts = g.grant (childMentions ts) (admittedChildren g.policy ts) :=
  sequence_eq_grant (fun _ => (g.grant_nil []).symm) ts

lemma compile_eq_grant (g : Guard) (input : String) :
    compile g input = g.grant (mentions input) (admitted g.policy input) :=
  sequence_eq_grant (children_eq_grant g) (tidy (scan input))

end Filter

namespace SortTerm

def mentions (input : String) : List String := (scan input.toList).map (·.column)

/-- The terms on the columns that a policy allows. -/
def admitted (p : Policy) (input : String) : List SortTerm :=
  ((scan input.toList).filter fun t => p.isFilterable t.column).map (marked p)

lemma compile_eq_grant (g : Guard) (input : String) :
    compile g input = g.grant (mentions input) (admitted g.policy input) := by
  rw [compile, Guard.filter_eq_grant]
  exact Guard.grant_map rfl

end SortTerm

/-- All attributes that a request mentions where they count: those of its facets, then those of its
filters, then the columns that it sorts by. -/
def Request.mentions (r : Request) : List String :=
  FacetGroups.mentions (r.facetFilters.getD "") ++ Filter.mentions (r.filters.getD "") ++
    SortTerm.mentions (r.sortBy.getD "")

namespace Query

/-- What a policy leaves of a request. -/
def admitted (p : Policy) (r : Request) : Query where
  predicates := joined (FacetGroups.admitted p (r.facetFilters.getD ""))
    (Filter.admitted p (r.filters.getD ""))
  sort := SortTerm.admitted p (r.sortBy.getD "")
  projection := FacetSearch.projection r.attributesToRetrieve

lemma attempt_eq_grant (p : Policy) (mode : Mode) (r : Request) :
    attempt p mode r = Guard.grant ⟨p, mode⟩ r.mentions (admitted p r) := by
  rw [attempt, FacetGroups.compile_eq_grant, Filter.compile_eq_grant, SortTerm.compile_eq_grant,
    Request.mentions, List.append_assoc]
  exact Guard.grant_bind (Guard.grant_bind (Guard.grant_map rfl))

/-- Nothing has to be settled: a permissive guard never fails, and a strict failure stays. -/
lemma compile_eq_grant (p : Policy) (mode : Mode) (r : Request) :
    compile p mode r = Guard.grant ⟨p, mode⟩ r.mentions (admitted p r) := by
  rw [compile, attempt_eq_grant]
  cases mode <;> rfl

/-- Strict mode fails exactly at the first mention that the policy does not allow. Where it allows
all of them both modes give the same query. -/
theorem compile_strict (p : Policy) (r : Request) :
    (∀ a, compile p .strict r = .error (.unfilterable a) ↔
      r.mentions.find? (fun b => !p.isFilterable b) = some a) ∧
    ((∀ a ∈ r.mentions, p.isFilterable a) →
      ∃ q, compile p .strict r = .ok q ∧ compile p .permissive r = .ok q) := by
  simp only [compile_eq_grant]
  constructor
  · exact Guard.grant_strict_eq_error_iff p r.mentions (admitted p r)
  · intro h
    exact ⟨admitted p r, Guard.grant_of_forall _ h, Guard.grant_permissive p _ _⟩

/-- The group comes before the sort term, so its attribute is the one that is reported. -/
theorem compile_strict_inside_group :
    compile { isFilterable := fun a => ["a", "b"].contains a } .strict
        { filters := some "a:1 or (b:2 and secret:3)", sortBy := some "hidden,asc" } =
      .error (.unfilterable "secret") ∧
    ∃ q, compile { isFilterable := fun a => ["a", "b"].contains a } .strict
          { filters := some "a:1 or (b:2 and a:3)" } = .ok q ∧
        compile { isFilterable := fun a => ["a", "b"].contains a } .permissive
          { filters := some "a:1 or (b:2 and a:3)" } = .ok q :=
  ⟨((compile_strict _ _).1 "secret").2 (by decide +kernel),
    (compile_strict _ _).2 (by decide +kernel)⟩

end Query
end FacetSearch
