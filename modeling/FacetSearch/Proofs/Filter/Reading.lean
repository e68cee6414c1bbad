import FacetSearch.Proofs.AllowList.Mentions
import FacetSearch.Proofs.Filter.Clauses

/-! A filter as it is meant to be written is understood: from its text the predicates are compiled
that it asks for. -/
namespace FacetSearch.Filter.Written

section Phrases

def Body.tokens : Body → List Token
  | clause c => c.tokens
  | group p q ps => .opening :: (listTokens Clause.tokens (p :: q :: ps) ++ [.closing])

/-- A clause is read as it is, and a group by what stands between its parentheses. -/
def Body.read : Body → Filter.Body
  | clause c => .leaf c.tokens
  | group p q ps => .group (listTokens Clause.tokens (p :: q :: ps))

/-- A group holds a connective. -/
lemma hasOuterConnective_group (p q : Part Clause) (ps : List (Part Clause)) :
    hasOuterConnective (listTokens Clause.tokens (p :: q :: ps)) = true := by
  have hp := (settled_part phrase_clause p).balanced
  have hq := (settled_part phrase_clause q).balanced.append (settled_more phrase_clause ps).balanced
  have hmore : Balanced (.connective q.connective :: (q.tokens Clause.tokens ++
      ps.flatMap fun x => .connective x.connective :: x.tokens Clause.tokens)) :=
    .token (by simp) (by simp) hq
  rw [listTokens, List.flatMap_cons, List.cons_append, hp.hasOuterConnective_append hmore,
    Balanced.hasOuterConnective_token (by simp) (by simp) hq]
  simp [Token.connective?]

lemma scanAfter_group (p q : Part Clause) (ps : List (Part Clause)) (r : List Char) :
    scanAfter false ((Body.group p q ps).text.toList ++ r) =
      (Body.group p q ps).tokens ++ scanAfter false r := by
  have hcuts : Cuts (')' :: r) := cuts_cons (by decide) r
  calc scanAfter false ((Body.group p q ps).text.toList ++ r)
    _ = scanAfter false ('(' :: ((listText Clause.text (p :: q :: ps)).toList ++ ')' :: r)) := by
      rw [Body.text, String.toList_append, String.toList_append, List.append_assoc,
        List.append_assoc]
      rfl
    _ = (Body.group p q ps).tokens ++ scanAfter false r := by
      rw [scanAfter_mark (by decide) rfl]
      change Token.opening :: scanAfter false _ = _
      rw [scanAfter_listText phrase_clause _ hcuts, scanAfter_mark (by decide) rfl, Body.tokens,
        List.cons_append, List.append_assoc]
      rfl

lemma phrase_body (b : Body) : Phrase b.text b.tokens := by
  cases b with
  | clause c => exact phrase_clause c
  | group p q ps =>
    have hinside := settled_listTokens phrase_clause (p :: q :: ps)
    have hne : listTokens Clause.tokens (p :: q :: ps) ≠ [] := by
      intro hnil
      have hk := hasOuterConnective_group p q ps
      rw [hnil] at hk
      cases hk
    exact {
      scanAfter_eq := fun r _ => scanAfter_group p q ps r
      settled := hinside.enclosed hne
      not_outer := hinside.balanced.hasOuterConnective_pair .nil
      ne_nil := List.cons_ne_nil _ _
      head_ne := by simp [Body.tokens] }

lemma ofTokens_body (b : Body) : Filter.Body.ofTokens b.tokens = b.read := by
  cases b with
  | clause c =>
    have hhead : c.tokens.head? ≠ some .opening := by
      cases c <;> simp [Clause.tokens]
    exact (settled_clause c).balanced.body_of_head_ne hhead
  | group p q ps =>
    have hinside := settled_listTokens phrase_clause (p :: q :: ps)
    rw [Body.tokens, hinside.balanced.body_enclosed, if_pos (hasOuterConnective_group p q ps)]
    rfl

end Phrases

section Compile

/-- The predicates of a list are those of its items, where these are known. -/
lemma admittedSequence_listTokens {p : Policy} {α : Type} {text : α → String}
    {tokens : α → List Token} {predicate : Option Connective → Bool → α → Predicate}
    {grouped : List Token → List Predicate} (h : ∀ x, Phrase (text x) (tokens x))
    (hitem : ∀ k n x, admittedStatement? p grouped ⟨k, n, .ofTokens (tokens x)⟩ =
      some (predicate k n x))
    (hk : ∀ n x, (predicate none n x).withConnective none = predicate none n x)
    (xs : List (Part α)) :
    admittedSequence p grouped (listTokens tokens xs) = listPredicates predicate xs := by
  cases xs with
  | nil => rfl
  | cons x xs =>
    have hmore : (admittedStatement? p grouped ∘ fun q : Part α =>
        ⟨some q.connective, q.negated, .ofTokens (tokens q.body)⟩) =
          fun q => some (predicate (some q.connective) q.negated q.body) :=
      funext fun q => hitem _ _ _
    rw [admittedSequence, statements_listTokens h, List.filterMap_cons, hitem, listPredicates,
      List.filterMap_map, hmore, List.filterMap_eq_map', Predicate.headed_cons, hk]

variable {g : Guard} (hg : ∀ a, g.policy.isFilterable a)
include hg

lemma admittedLeaf?_clause (s : Filter.Statement) (c : Clause) :
    admittedLeaf? g.policy s c.tokens = some (c.predicate s.connective s.negated) := by
  rw [admittedLeaf?, ofTokens?_tokens, Option.bind_some, if_pos (hg _), name_read, test_read]
  rfl

lemma admittedStatement?_clause (grouped : List Token → List Predicate) (k : Option Connective)
    (negated : Bool) (c : Clause) :
    admittedStatement? g.policy grouped ⟨k, negated, .ofTokens c.tokens⟩ =
      some (c.predicate k negated) := by
  have hbody : Filter.Body.ofTokens c.tokens = .leaf c.tokens := ofTokens_body (.clause c)
  rw [admittedStatement?, hbody]
  exact admittedLeaf?_clause hg _ c

lemma admittedStatement?_body (k : Option Connective) (negated : Bool) (b : Body) :
    admittedStatement? g.policy (admittedChildren g.policy) ⟨k, negated, .ofTokens b.tokens⟩ =
      some (b.predicate k negated) := by
  cases b with
  | clause c => exact admittedStatement?_clause hg _ k negated c
  | group p q ps =>
    have hchildren := admittedSequence_listTokens (p := g.policy) phrase_clause
      (admittedStatement?_clause hg fun _ => []) (fun _ _ => rfl) (p :: q :: ps)
    rw [ofTokens_body, Body.read, admittedStatement?, admittedChildren]
    simp only [hchildren]
    rfl

/-- From the text of a filter the predicates are compiled that it asks for. -/
theorem compile_text (ss : List Statement) : compile g (text ss) = .ok (predicates ss) := by
  have hscan : scan (text ss) = listTokens Body.tokens ss := by
    have hend := scanAfter_listText phrase_body ss (r := []) nofun
    rwa [List.append_nil, scanAfter_nil, List.append_nil] at hend
  have hadmitted := admittedSequence_listTokens (p := g.policy) phrase_body
    (admittedStatement?_body hg) (fun _ b => by cases b <;> rfl) ss
  rw [Filter.compile_eq_grant, Guard.grant_of_forall _ fun a _ => hg a, Filter.admitted, hscan,
    (settled_listTokens phrase_body ss).tidy_eq, hadmitted]
  rfl

end Compile

/-- A range, a list that names one value twice, and an operator under `NOT`. -/
theorem compile_text_group :
    compile ⟨{ isFilterable := fun _ => true }, .strict⟩
        "price:9 TO -1 OR NOT (make:(\"NULL\",\"a \\\"or\\\" b\",\"NULL\") AND NOT year < 2020)" =
      .ok [.leaf none "price" (.range (-1) 9 false),
        .group (some .or) true [.leaf none "make" (.inList ["NULL", "a \"or\" b"] false),
          .leaf (some .and) "year" (.comparison .ge (.integer 2020) true)]] := by
  have hcompile := compile_text (g := ⟨{ isFilterable := fun _ => true }, .strict⟩) (fun _ => rfl)
    [⟨.and, false, .clause (.range ⟨"price", by decide +kernel, by decide⟩ 9 (-1))⟩,
      ⟨.or, true, .group
        ⟨.and, false, .list ⟨"make", by decide +kernel, by decide⟩ "NULL" ["a \"or\" b", "NULL"]⟩
        ⟨.and, true, .numeric ⟨"year", by decide +kernel, by decide⟩ .lt 2020⟩ []⟩]
  exact hcompile

end FacetSearch.Filter.Written
