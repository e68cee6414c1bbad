import FacetSearch.Proofs.Filter.Balanced
import FacetSearch.Proofs.Query.WellFormed
import FacetSearch.Proofs.Sql.Evaluation

/-! A leading `NOT` makes the complement of a statement: each kind of clause, and a group as a whole,
is negated exactly once, in what the predicate says as well as in its text. -/
namespace FacetSearch

namespace Predicate

/-- Whether a predicate has in every record the negated truth value of another, both where their
fields are read from left to right and where SQL evaluates their texts. -/
structure Complements (p q : Predicate) : Prop where
  verdict_eq : ∀ [LinearOrder Value] (r : Record),
    q.verdict r Row.leftToRight = (p.verdict r Row.leftToRight).not
  evaluates_iff : ∀ [LinearOrder Value] (r : Record), ∃ b,
    (∀ c, Sql.Evaluates r (Sql.predicates [p]) c ↔ c = b) ∧
      ∀ c, Sql.Evaluates r (Sql.predicates [q]) c ↔ c = b.not

/-- Whether the two truth values are opposite however groups are read. -/
def Opposes (p q : Predicate) : Prop :=
  ∀ [LinearOrder Value] (r : Record) (read : Row → Truth),
    q.verdict r read = (p.verdict r read).not

lemma Opposes.withConnective {p q : Predicate} (h : Opposes p q) (k : Option Connective) :
    Opposes (p.withConnective k) (q.withConnective k) := by
  intro order r read
  rw [verdict_withConnective, verdict_withConnective]
  exact h r read

lemma OfFilter.everyLevel_ne_nil {p : Predicate} (h : p.OfFilter) :
    EveryLevel (· ≠ []) [p] := by
  refine ⟨List.cons_ne_nil p [], ?_, trivial⟩
  cases p with
  | leaf k a t => trivial
  | group k negated children =>
    obtain ⟨hne, -, hchildren⟩ := h
    refine ⟨hne, belowAll_of_flat (fun c hc => ?_) _⟩
    cases c with
    | leaf k a t => rfl
    | group k negated children => exact (hchildren _ hc).elim

lemma byPrecedence_singleton [LinearOrder Value] (r : Record) (p : Predicate) :
    (verdicts r Row.byPrecedence [p]).byPrecedence = p.verdict r Row.byPrecedence := rfl

lemma Opposes.complements {p q : Predicate} (h : Opposes p q) (hp : p.OfFilter)
    (hq : q.OfFilter) : Complements p q := by
  constructor
  · intro order r
    exact h r Row.leftToRight
  · intro order r
    refine ⟨p.verdict r Row.byPrecedence, fun c => ?_, fun c => ?_⟩
    · rw [Sql.evaluates_iff r hp.everyLevel_ne_nil, byPrecedence_singleton]
    · rw [Sql.evaluates_iff r hq.everyLevel_ne_nil, byPrecedence_singleton, h r Row.byPrecedence]

end Predicate

namespace Filter
open Predicate (Opposes Complements)

section Statements

lemma Clause.verdict_test [LinearOrder Value] (r : Record) (a : String) (c : Clause) :
    (c.test true).verdict r a = ((c.test false).verdict r a).not := by
  have hcomparison (op : Operator) (v : Value) :
      (r.ask a (op.negate.admits · v)) = (r.ask a (op.admits · v)).not := by
    rw [← Record.ask_not]
    simp only [Operator.admits_negate]
  have hvalue (v : String) :
      (testOf true v).verdict r a = ((testOf false v).verdict r a).not := by
    by_cases hv : v = "NULL"
    · simp [testOf, hv, Test.verdict]
    · simp only [testOf, hv, if_false]
      exact hcomparison .eq (.text v)
  cases c with
  | range b low high => rfl
  | numeric b op n => exact hcomparison op (.integer n)
  | values b vs =>
    obtain _ | ⟨v, _ | ⟨w, vs⟩⟩ := vs
    · exact hvalue ""
    · exact hvalue v
    · rfl

variable (p : Policy) (k : Option Connective)

/-- A statement and its negation are both dropped, or their predicates are opposite. -/
lemma rel_admittedStatement? (grouped : List Token → List Predicate) (body : Body) :
    Option.Rel Opposes (admittedStatement? p grouped ⟨k, false, body⟩)
      (admittedStatement? p grouped ⟨k, true, body⟩) := by
  cases body with
  | leaf ts =>
    simp only [admittedStatement?, admittedLeaf?]
    cases Clause.ofTokens? ts with
    | none => exact .none
    | some c =>
      simp only [Option.bind_some]
      split
      · exact .some fun r _ => Clause.verdict_test r c.name c
      · exact .none
  | group ts =>
    simp only [admittedStatement?, admittedGroup?]
    split
    · exact .none
    · exact .some fun _ _ => rfl

lemma forall₂_toList {α β : Type} {R : α → β → Prop} {x : Option α} {y : Option β}
    (h : Option.Rel R x y) : List.Forall₂ R x.toList y.toList := by
  cases h with
  | none => exact .nil
  | some hab => exact .cons hab .nil

lemma forall₂_headed {k : Option Connective} {ps qs : List Predicate}
    (h : List.Forall₂ Opposes ps qs) :
    List.Forall₂ Opposes (Predicate.headed k ps) (Predicate.headed k qs) := by
  cases h with
  | nil => exact .nil
  | cons hpq hrest => exact .cons (hpq.withConnective k) hrest

lemma forall₂_complements {ps qs : List Predicate} (h : List.Forall₂ Opposes ps qs)
    (hps : ∀ p ∈ ps, p.OfFilter) (hqs : ∀ q ∈ qs, q.OfFilter) :
    List.Forall₂ Complements ps qs := by
  induction h with
  | nil => exact .nil
  | cons hpq _ ih =>
    rw [List.forall_mem_cons] at hps hqs
    exact .cons (hpq.complements hps.1 hqs.1) (ih hps.2 hqs.2)

end Statements

/-- Whether two results are the same error, or lists of predicates of which the second ones complement
the first ones. -/
def Complementary (x y : Except CompileError (List Predicate)) : Prop :=
  (∃ e, x = .error e ∧ y = .error e) ∨
    ∃ ps qs, x = .ok ps ∧ y = .ok qs ∧ List.Forall₂ Complements ps qs

lemma complementary_grant (g : Guard) (names : List String) {ps qs : List Predicate}
    (h : List.Forall₂ Complements ps qs) :
    Complementary (g.grant names ps) (g.grant names qs) := by
  unfold Guard.grant
  cases g.refused? names with
  | none => exact .inr ⟨ps, qs, rfl, rfl, h⟩
  | some a => exact .inl ⟨.unfilterable a, rfl, rfl⟩

section Text

/-- Whether tokens are all of one statement without a `NOT` in front: no connective stands outside
their parentheses. -/
structure IsBody (ts : List Token) : Prop where
  ne_nil : ts ≠ []
  head_ne : ts.head? ≠ some .negation
  fragments_eq : fragments 0 ts = (ts, [])

lemma tidy_negation (ts : List Token) : tidy (.negation :: ts) = .negation :: tidy ts := by
  have hopenings (us : List Token) :
      dropStrayOpenings (.negation :: us) = .negation :: dropStrayOpenings us := by
    rw [dropStrayOpenings, List.foldr_cons, dropStrayOpenings]
    rfl
  rw [tidy, dropStrayClosings, hopenings, dropEmptyPairs_cons, tidy]
  · rfl
  all_goals simp

namespace IsBody

variable {ts : List Token} (h : IsBody ts)
include h

lemma statements_eq : statements ts = [⟨none, false, .ofTokens ts⟩] := by
  rw [statements, h.fragments_eq]
  simp [Statement.ofFragment?_of_ne h.ne_nil h.head_ne, Statement.leading]

lemma statements_negation : statements (.negation :: ts) = [⟨none, true, .ofTokens ts⟩] := by
  have hfragments : fragments 0 (.negation :: ts) = (.negation :: ts, []) := by
    have hdepth : Token.negation.depthAfter 0 = 0 := rfl
    rw [Balanced.fragments_cons (.inr rfl), hdepth, h.fragments_eq]
  have hfragment : Statement.ofFragment? (none, .negation :: ts) =
      some ⟨none, true, .ofTokens ts⟩ := by
    rw [Statement.ofFragment?]
    exact h.ne_nil
  rw [statements, hfragments]
  simp [hfragment, Statement.leading]

end IsBody

/-- The negation of a statement gives the complement of what the statement gives, or the same error. -/
lemma complementary_predicate? {g : Guard}
    {grouped : List Token → Except CompileError (List Predicate)}
    {names : List Token → List String} {kept : List Token → List Predicate}
    (h : ∀ ts, grouped ts = g.grant (names ts) (kept ts))
    (hkept : ∀ s q, admittedStatement? g.policy kept s = some q → q.OfFilter)
    (k : Option Connective) (body : Body) :
    Complementary ((predicate? g grouped ⟨k, false, body⟩).map Option.toList)
      ((predicate? g grouped ⟨k, true, body⟩).map Option.toList) := by
  have hgrant (s : Statement) : (predicate? g grouped s).map Option.toList =
      g.grant (s.body.mentions names) (admittedStatement? g.policy kept s).toList := by
    rw [predicate?_eq_grant h]
    exact Guard.grant_map rfl
  rw [hgrant, hgrant]
  apply complementary_grant
  apply forall₂_complements (forall₂_toList (rel_admittedStatement? g.policy k kept body))
  · exact fun q hq => hkept _ q (Option.mem_toList.1 hq)
  · exact fun q hq => hkept _ q (Option.mem_toList.1 hq)

/-- A clause or a group has a predicate if something in it is mentioned and all of it is allowed. -/
lemma exists_admittedStatement? {p : Policy} {body : Body} (k : Option Connective) (negated : Bool)
    (hne : body.mentions childMentions ≠ [])
    (hall : ∀ a ∈ body.mentions childMentions, p.isFilterable a) :
    ∃ q, admittedStatement? p (admittedChildren p) ⟨k, negated, body⟩ = some q := by
  have hleaf {s : Statement} {ts : List Token} {c : Clause} (hc : Clause.ofTokens? ts = some c)
      (ha : p.isFilterable c.name) : ∃ q, admittedLeaf? p s ts = some q := by
    simp [admittedLeaf?, hc, ha]
  cases body with
  | leaf ts =>
    simp only [Body.mentions] at hne hall
    cases hc : Clause.ofTokens? ts with
    | none => simp [hc] at hne
    | some c => exact hleaf hc (hall c.name (by simp [hc]))
  | group ts =>
    simp only [Body.mentions, childMentions, sequenceMentions] at hne hall
    obtain ⟨a, ha⟩ := List.exists_mem_of_ne_nil _ hne
    obtain ⟨s, hs, has⟩ := List.mem_flatMap.1 ha
    have hchild : ∃ q, admittedStatement? p (fun _ => []) s = some q := by
      obtain ⟨k', negated', body'⟩ := s
      cases body' with
      | leaf us =>
        obtain ⟨c, hc, rfl⟩ := Option.map_eq_some_iff.1 (Option.mem_toList.1 has)
        exact hleaf hc (hall _ ha)
      | group us => cases has
    obtain ⟨q, hq⟩ := hchild
    have hmem : q ∈ (statements ts).filterMap (admittedStatement? p fun _ => []) :=
      List.mem_filterMap.2 ⟨s, hs, hq⟩
    have hchildren : admittedChildren p ts ≠ [] := by
      intro hnil
      rw [admittedChildren, admittedSequence, Predicate.headed_eq_nil_iff] at hnil
      rw [hnil] at hmem
      cases hmem
    simp [admittedStatement?, admittedGroup?, hchildren]

variable {t u : String}

lemma mentions_of_statements {s : Statement} (h : statements (tidy (scan t)) = [s]) :
    mentions t = s.body.mentions childMentions := by
  rw [mentions, sequenceMentions, h]
  simp

lemma admitted_of_statements {s : Statement} (h : statements (tidy (scan t)) = [s]) (p : Policy) :
    admitted p t =
      Predicate.headed none (admittedStatement? p (admittedChildren p) s).toList := by
  rw [admitted, admittedSequence, h]
  cases hs : admittedStatement? p (admittedChildren p) s <;> simp [hs]

/-- With a `NOT` in front a statement gives the complement of its predicate, at the top of a filter
and inside a group, or the same error. So does the text of a statement, which gives a predicate
wherever something in it is understood and all of it is allowed. -/
theorem compile_not (g : Guard) :
    (∀ grouped ∈ [children g, fun _ => .ok []], ∀ k body,
      Complementary ((predicate? g grouped ⟨k, false, body⟩).map Option.toList)
        ((predicate? g grouped ⟨k, true, body⟩).map Option.toList)) ∧
    (∀ t u, IsBody (tidy (scan t)) → scan u = .negation :: scan t →
      Complementary (compile g t) (compile g u) ∧
      (mentions t ≠ [] → (∀ a ∈ mentions t, g.policy.isFilterable a) →
        ∃ p q, compile g t = .ok [p] ∧ compile g u = .ok [q])) := by
  constructor
  · intro grouped hgrouped k body
    rw [List.mem_cons, List.mem_singleton] at hgrouped
    rcases hgrouped with rfl | rfl
    · exact complementary_predicate? (children_eq_grant g)
        (fun _ _ => ofFilter_of_admittedStatement?) k body
    · exact complementary_predicate? (fun _ => (g.grant_nil []).symm)
        (fun _ _ h => (ofClause_of_admittedStatement? h).ofFilter) k body
  · intro t u hbody hu
    have ht := hbody.statements_eq
    have hnot := hbody.statements_negation
    rw [← tidy_negation, ← hu] at hnot
    have hmentions : mentions u = mentions t := by
      rw [mentions_of_statements ht, mentions_of_statements hnot]
    have hrel := rel_admittedStatement? g.policy none (admittedChildren g.policy)
      (.ofTokens (tidy (scan t)))
    rw [compile_eq_grant, compile_eq_grant, hmentions]
    refine ⟨complementary_grant g _ ?_, fun hne hall => ?_⟩
    · have hopposed : List.Forall₂ Opposes (admitted g.policy t) (admitted g.policy u) := by
        rw [admitted_of_statements ht, admitted_of_statements hnot]
        exact forall₂_headed (forall₂_toList hrel)
      exact forall₂_complements hopposed ofFilter_of_mem_admitted ofFilter_of_mem_admitted
    · have hnames := mentions_of_statements ht
      rw [Guard.grant_of_forall _ hall, Guard.grant_of_forall _ hall]
      rw [hnames] at hne hall
      obtain ⟨p, hp⟩ := exists_admittedStatement? none false hne hall
      obtain ⟨q, hq⟩ := exists_admittedStatement? none true hne hall
      rw [admitted_of_statements ht, admitted_of_statements hnot, hp, hq]
      exact ⟨_, _, rfl, rfl⟩

/-- A whole group is negated once, and so is a comparison inside of one. -/
theorem compile_not_group :
    (IsBody (tidy (scan "(price:9 to 1 or make:NULL)")) ∧
      scan "not(price:9 to 1 or make:NULL)" = .negation :: scan "(price:9 to 1 or make:NULL)" ∧
      ∃ p q, Complements p q ∧
        compile ⟨{ isFilterable := fun _ => true }, .strict⟩ "(price:9 to 1 or make:NULL)" =
          .ok [p] ∧
        compile ⟨{ isFilterable := fun _ => true }, .strict⟩ "not(price:9 to 1 or make:NULL)" =
          .ok [q]) ∧
    Complementary (.ok [.leaf (some .or) "year" (.comparison .lt (.integer 9) false)])
      (.ok [.leaf (some .or) "year" (.comparison .ge (.integer 9) true)]) := by
  have hnot := compile_not ⟨{ isFilterable := fun _ => true }, .strict⟩
  constructor
  · have hbody : IsBody (tidy (scan "(price:9 to 1 or make:NULL)")) :=
      ⟨by decide +kernel, by decide +kernel, by decide +kernel⟩
    have hscan : scan "not(price:9 to 1 or make:NULL)" =
        .negation :: scan "(price:9 to 1 or make:NULL)" := by
      decide +kernel
    obtain ⟨hcomplementary, hexists⟩ := hnot.2 _ _ hbody hscan
    obtain ⟨p, q, hp, hq⟩ := hexists (by decide +kernel) (fun _ _ => rfl)
    refine ⟨hbody, hscan, p, q, ?_, hp, hq⟩
    rw [hp, hq] at hcomplementary
    obtain ⟨e, he, -⟩ | ⟨ps, qs, hps, hqs, hall⟩ := hcomplementary
    · cases he
    · cases hps
      cases hqs
      exact (List.forall₂_cons.1 hall).1
  · exact hnot.1 (fun _ => .ok []) (by simp) (some .or)
      (.leaf [.word "year", .comparison .lt, .word "9"])

end Text
end Filter
end FacetSearch
