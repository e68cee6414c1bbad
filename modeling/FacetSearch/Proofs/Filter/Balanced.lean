import FacetSearch.Filter.Parens
import FacetSearch.Filter.Statement
import Mathlib.Tactic.Common

/-! Token lists whose parentheses are balanced, and what each stage of a compilation makes of them:
nothing is stray, only empty pairs are dropped, and no cut goes through a pair. -/
namespace FacetSearch.Filter

namespace Forest

@[simp] lemma append_nil (f : Forest) : f.append .nil = f := by
  induction f with
  | nil => rfl
  | token t f ih => rw [append, ih]
  | pair i f _ ih => rw [append, ih]

lemma tokensBefore_append (f g : Forest) (ts : List Token) :
    (f.append g).tokensBefore ts = f.tokensBefore (g.tokensBefore ts) := by
  induction f generalizing ts with
  | nil => rfl
  | token t f ih => rw [append, tokensBefore, tokensBefore, ih]
  | pair i f _ ih => rw [append, tokensBefore, tokensBefore, ih]

lemma finish_token (t : Token) (f : Forest) (behind : List Forest) :
    finish (token t f) behind = token t (finish f behind) := by
  cases behind <;> rfl

lemma finish_pair (i f : Forest) (behind : List Forest) :
    finish (pair i f) behind = pair i (finish f behind) := by
  cases behind <;> rfl

lemma tokens_finish_consToken (t : Token) (f : Forest) (behind : List Forest) :
    (finish (consToken t (f, behind)).1 (consToken t (f, behind)).2).tokens =
      t :: (finish f behind).tokens := by
  cases t with
  | closing => rfl
  | opening =>
    cases behind with
    | nil => rfl
    | cons rest behind =>
      simp only [consToken, finish_pair, finish, tokens, tokensBefore, tokensBefore_append]
  | _ => simp only [consToken, finish_token, tokens, tokensBefore]

/-- No token is lost, whether it has a partner or not. -/
lemma tokens_ofTokens (ts : List Token) : (ofTokens ts).tokens = ts := by
  induction ts with
  | nil => rfl
  | cons t ts ih =>
    rw [ofTokens] at ih ⊢
    rw [List.foldr_cons, tokens_finish_consToken, ih]

end Forest

/-- Token lists in which every parenthesis has a partner. -/
inductive Balanced : List Token → Prop
  | nil : Balanced []
  | token {t : Token} {ts : List Token} : t ≠ .opening → t ≠ .closing → Balanced ts →
    Balanced (t :: ts)
  | pair {inner rest : List Token} : Balanced inner → Balanced rest →
    Balanced (.opening :: (inner ++ .closing :: rest))

/-- The tokens without the parentheses that have no partner. -/
def paired (ts : List Token) : List Token := dropStrayOpenings (dropStrayClosings 0 ts)

lemma tidy_eq_paired (ts : List Token) : tidy ts = dropEmptyPairs (paired ts) := rfl

/-- Whether a connective stands outside all pairs of parentheses. -/
def hasOuterConnective (ts : List Token) : Bool := (Forest.ofTokens ts).hasConnective

namespace Balanced

variable {ts us : List Token}

lemma append (h : Balanced ts) (h' : Balanced us) : Balanced (ts ++ us) := by
  induction h with
  | nil => exact h'
  | token ho hc _ ih => exact token ho hc ih
  | @pair inner rest hi _ _ ih =>
    rw [List.cons_append, List.append_assoc, List.cons_append]
    exact pair hi ih

lemma of_forall (h : ∀ t ∈ ts, t ≠ .opening ∧ t ≠ .closing) : Balanced ts := by
  induction ts with
  | nil => exact nil
  | cons t ts ih =>
    rw [List.forall_mem_cons] at h
    exact token h.1.1 h.1.2 (ih h.2)

/-- A pair of parentheses around a balanced list. -/
lemma enclosed (h : Balanced ts) : Balanced (.opening :: (ts ++ [.closing])) := pair h nil

lemma head_ne_closing (h : Balanced ts) : ts.head? ≠ some .closing := by
  cases h with
  | nil => simp
  | token ho hc _ => simpa using hc
  | pair hi hr => simp

section Stray

lemma dropStrayClosings_append (h : Balanced ts) (n : ℕ) (us : List Token) :
    dropStrayClosings n (ts ++ us) = ts ++ dropStrayClosings n us := by
  induction h generalizing n us with
  | nil => rfl
  | @token t ts ho hc _ ih =>
    rw [List.cons_append, dropStrayClosings, ih, List.cons_append]
    · exact ho
    · exact fun _ => hc
    · exact fun _ _ => hc
  | @pair inner rest _ _ ihi ihr =>
    simp only [List.cons_append, List.append_assoc, dropStrayClosings, ihi, ihr]

lemma foldr_consClosed (h : Balanced ts) (n : ℕ) (us : List Token) :
    ts.foldr consClosed (n, us) = (n, ts ++ us) := by
  induction h generalizing n us with
  | nil => rfl
  | @token t ts ho hc _ ih =>
    rw [List.foldr_cons, ih, consClosed, List.cons_append]
    · exact fun h _ => ho h
    · exact fun _ h _ => ho h
    · exact hc
  | @pair inner rest _ _ ihi ihr =>
    simp only [List.foldr_cons, List.foldr_append, ihi, ihr, consClosed, List.cons_append,
      List.append_assoc]

lemma paired_eq (h : Balanced ts) : paired ts = ts := by
  have hclosings := h.dropStrayClosings_append 0 []
  have hopenings := h.foldr_consClosed 0 []
  simp only [dropStrayClosings, List.append_nil] at hclosings hopenings
  rw [paired, hclosings, dropStrayOpenings, hopenings]

lemma tidy_eq (h : Balanced ts) : tidy ts = dropEmptyPairs ts := by
  rw [tidy_eq_paired, h.paired_eq]

end Stray

section Empty

lemma consNonempty_pair (h : Balanced ts) (us : List Token) :
    consNonempty .opening (ts ++ .closing :: us) =
      if ts = [] then us else .opening :: (ts ++ .closing :: us) := by
  cases ts with
  | nil => rfl
  | cons t ts =>
    rw [if_neg (List.cons_ne_nil t ts), List.cons_append, consNonempty]
    rintro vs - hvs
    exact h.head_ne_closing (congrArg List.head? hvs)

lemma dropEmptyPairs_append_and (h : Balanced ts) :
    Balanced (dropEmptyPairs ts) ∧
      ∀ us, dropEmptyPairs (ts ++ us) = dropEmptyPairs ts ++ dropEmptyPairs us := by
  induction h with
  | nil => exact ⟨nil, fun _ => rfl⟩
  | @token t ts ho hc _ ih =>
    have hcons (us : List Token) : consNonempty t us = t :: us := by
      rw [consNonempty]
      exact fun _ h => absurd h ho
    obtain ⟨hb, happend⟩ := ih
    simp only [List.cons_append, dropEmptyPairs_cons, hcons, happend]
    exact ⟨token ho hc hb, fun _ => trivial⟩
  | @pair inner rest _ _ ihi ihr =>
    obtain ⟨hbi, hi⟩ := ihi
    obtain ⟨hbr, hr⟩ := ihr
    have hpair (us : List Token) : dropEmptyPairs (.opening :: (inner ++ .closing :: us)) =
        if dropEmptyPairs inner = [] then dropEmptyPairs us
        else .opening :: (dropEmptyPairs inner ++ .closing :: dropEmptyPairs us) := by
      rw [dropEmptyPairs_cons, hi, dropEmptyPairs_cons]
      exact hbi.consNonempty_pair _
    simp only [List.cons_append, List.append_assoc, hpair, hr]
    split_ifs
    · exact ⟨hbr, fun _ => rfl⟩
    · refine ⟨pair hbi hbr, fun us => ?_⟩
      simp only [List.cons_append, List.append_assoc]

lemma dropEmptyPairs (h : Balanced ts) : Balanced (dropEmptyPairs ts) :=
  h.dropEmptyPairs_append_and.1

lemma dropEmptyPairs_append (h : Balanced ts) (us : List Token) :
    Filter.dropEmptyPairs (ts ++ us) = Filter.dropEmptyPairs ts ++ Filter.dropEmptyPairs us :=
  h.dropEmptyPairs_append_and.2 us

/-- A pair goes exactly if all goes that is between its parentheses. -/
lemma dropEmptyPairs_pair (h : Balanced ts) (us : List Token) :
    Filter.dropEmptyPairs (.opening :: (ts ++ .closing :: us)) =
      if Filter.dropEmptyPairs ts = [] then Filter.dropEmptyPairs us
      else .opening :: (Filter.dropEmptyPairs ts ++ .closing :: Filter.dropEmptyPairs us) := by
  rw [dropEmptyPairs_cons, h.dropEmptyPairs_append, dropEmptyPairs_cons]
  exact h.dropEmptyPairs.consNonempty_pair _

end Empty

section Pairs

lemma consToken_of_ne {t : Token} (ho : t ≠ .opening) (hc : t ≠ .closing) (f : Forest)
    (behind : List Forest) : Forest.consToken t (f, behind) = (.token t f, behind) := by
  rw [Forest.consToken]
  · exact hc
  · exact fun _ _ h => absurd h ho

lemma ofTokens_of_foldr {f : Forest} (h : ts.foldr Forest.consToken (.nil, []) = (f, [])) :
    Forest.ofTokens ts = f := by
  rw [Forest.ofTokens, h]
  rfl

/-- A balanced list leaves the closing parentheses behind it as they are. -/
lemma exists_forest (h : Balanced ts) :
    ∃ g : Forest, ∀ f behind, ts.foldr Forest.consToken (f, behind) = (g.append f, behind) := by
  induction h with
  | nil => exact ⟨.nil, fun _ _ => rfl⟩
  | @token t ts ho hc _ ih =>
    obtain ⟨g, hg⟩ := ih
    refine ⟨.token t g, fun f behind => ?_⟩
    rw [List.foldr_cons, hg, consToken_of_ne ho hc, Forest.append]
  | @pair inner rest _ _ ihi ihr =>
    obtain ⟨i, hi⟩ := ihi
    obtain ⟨g, hg⟩ := ihr
    refine ⟨.pair i g, fun f behind => ?_⟩
    simp only [List.foldr_cons, List.foldr_append, hi, hg, Forest.consToken, Forest.append,
      Forest.append_nil]

/-- What stands behind a balanced list does not change how it is read. -/
lemma foldr_consToken (h : Balanced ts) (f : Forest) (behind : List Forest) :
    ts.foldr Forest.consToken (f, behind) = ((Forest.ofTokens ts).append f, behind) := by
  obtain ⟨g, hg⟩ := h.exists_forest
  have hts : Forest.ofTokens ts = g := by
    rw [ofTokens_of_foldr (hg .nil []), Forest.append_nil]
  rw [hts, hg]

lemma ofTokens_token {t : Token} (ho : t ≠ .opening) (hc : t ≠ .closing) (h : Balanced ts) :
    Forest.ofTokens (t :: ts) = .token t (Forest.ofTokens ts) := by
  apply ofTokens_of_foldr
  rw [List.foldr_cons, h.foldr_consToken, consToken_of_ne ho hc, Forest.append_nil]

lemma ofTokens_pair (h : Balanced ts) (h' : Balanced us) :
    Forest.ofTokens (.opening :: (ts ++ .closing :: us)) =
      .pair (Forest.ofTokens ts) (Forest.ofTokens us) := by
  apply ofTokens_of_foldr
  simp only [List.foldr_cons, List.foldr_append, h.foldr_consToken, h'.foldr_consToken,
    Forest.consToken, Forest.append_nil]

lemma hasOuterConnective_token {t : Token} (ho : t ≠ .opening) (hc : t ≠ .closing)
    (h : Balanced ts) :
    hasOuterConnective (t :: ts) = (t.connective?.isSome || hasOuterConnective ts) := by
  rw [hasOuterConnective, ofTokens_token ho hc h]
  rfl

lemma hasOuterConnective_pair (h : Balanced ts) (h' : Balanced us) :
    hasOuterConnective (.opening :: (ts ++ .closing :: us)) = hasOuterConnective us := by
  rw [hasOuterConnective, ofTokens_pair h h']
  rfl

lemma hasOuterConnective_append (h : Balanced ts) (h' : Balanced us) :
    hasOuterConnective (ts ++ us) = (hasOuterConnective ts || hasOuterConnective us) := by
  induction h with
  | nil => rfl
  | @token t ts ho hc h ih =>
    rw [List.cons_append, hasOuterConnective_token ho hc (h.append h'),
      hasOuterConnective_token ho hc h, ih, Bool.or_assoc]
  | @pair inner rest hi hr _ ih =>
    rw [List.cons_append, List.append_assoc, List.cons_append,
      hasOuterConnective_pair hi (hr.append h'), hasOuterConnective_pair hi hr, ih]

/-- The pair around a whole text is opened, unless a connective stands directly inside. -/
lemma body_enclosed (h : Balanced ts) : Body.ofTokens (.opening :: (ts ++ [.closing])) =
    if hasOuterConnective ts then .group ts else Body.ofTokens ts := by
  rw [Body.ofTokens, ofTokens_pair h nil]
  change Body.ofForest (.pair (Forest.ofTokens ts) .nil) = _
  rw [Body.ofForest, Forest.tokens_ofTokens]
  rfl

lemma body_of_head_ne (h : Balanced ts) (ho : ts.head? ≠ some .opening) :
    Body.ofTokens ts = .leaf ts := by
  cases h with
  | nil => rfl
  | @token t ts hto htc h =>
    have htokens := Forest.tokens_ofTokens (t :: ts)
    rw [ofTokens_token hto htc h] at htokens
    rw [Body.ofTokens, ofTokens_token hto htc h, Body.ofForest, htokens]
    exact fun _ => nofun
  | pair => exact absurd rfl ho

end Pairs

section Fragments

lemma fragments_cons {n : ℕ} {t : Token} (h : n ≠ 0 ∨ t.connective? = none) (ts : List Token) :
    fragments n (t :: ts) =
      (t :: (fragments (t.depthAfter n) ts).1, (fragments (t.depthAfter n) ts).2) := by
  rw [fragments]
  rintro k rfl rfl
  rcases h with h | h
  · exact h rfl
  · cases h

/-- No cut goes through a balanced list, unless it has a connective outside its pairs and stands in
none itself. -/
lemma fragments_append (h : Balanced ts) {n : ℕ} (hn : n ≠ 0 ∨ hasOuterConnective ts = false)
    (us : List Token) :
    fragments n (ts ++ us) = (ts ++ (fragments n us).1, (fragments n us).2) := by
  induction h generalizing n us with
  | nil => rfl
  | @token t ts ho hc h ih =>
    have hdepth : t.depthAfter n = n := by
      rw [Token.depthAfter]
      · exact ho
      · exact hc
    rw [hasOuterConnective_token ho hc h, Bool.or_eq_false_iff, Option.isSome_eq_false_iff,
      Option.isNone_iff_eq_none] at hn
    have ht : n ≠ 0 ∨ t.connective? = none := hn.imp_right And.left
    rw [List.cons_append, fragments_cons ht, hdepth, ih (hn.imp_right And.right), List.cons_append]
  | @pair inner rest hi hr ihi ihr =>
    rw [hasOuterConnective_pair hi hr] at hn
    have hinner : n + 1 ≠ 0 ∨ hasOuterConnective inner = false := .inl (Nat.succ_ne_zero n)
    rw [List.cons_append, fragments_cons (.inr rfl), List.append_assoc, List.cons_append]
    change (Token.opening :: (fragments (n + 1) _).1, (fragments (n + 1) _).2) = _
    rw [ihi hinner, fragments_cons (.inr rfl)]
    change (Token.opening :: (inner ++ Token.closing :: (fragments n _).1), (fragments n _).2) = _
    rw [ihr hn]
    simp only [List.cons_append, List.append_assoc]

lemma fragments_eq (h : Balanced ts) (hk : hasOuterConnective ts = false) :
    fragments 0 ts = (ts, []) := by
  have happend := h.fragments_append (n := 0) (.inr hk) []
  rwa [List.append_nil, fragments, List.append_nil] at happend

end Fragments

end Balanced

lemma Statement.ofFragment?_of_ne {ts : List Token} {k : Option Connective} (hne : ts ≠ [])
    (hn : ts.head? ≠ some .negation) :
    Statement.ofFragment? (k, ts) = some ⟨k, false, .ofTokens ts⟩ := by
  cases ts with
  | nil => exact absurd rfl hne
  | cons t ts =>
    rw [Statement.ofFragment?]
    · simp
    · exact fun ht => hn (congrArg List.head? ht)
    · exact fun us ht => hn (congrArg List.head? ht)

end FacetSearch.Filter
