import FacetSearch.Proofs.Filter.Forest
import FacetSearch.Proofs.Filter.Fragments
import FacetSearch.Proofs.Filter.Phrases
import FacetSearch.Proofs.Filter.Tidy

/-! The statements of a list of tokens: nothing that a clause is made of is lost or moved, and
statements that are written down one after the other are read back. -/
namespace FacetSearch.Filter
open Written (negationTokens uncut_negationTokens)

variable {ts us : List Token} {k : Option Connective} {s : Statement}

/-- Whether a token can be part of a clause. -/
def Token.isClausal : Token → Bool
  | word _ | quoted _ | comparison _ | colon | comma => true
  | _ => false

/-- The tokens that clauses are made of. -/
def clauseTokens (ts : List Token) : List Token := ts.filter Token.isClausal

@[simp] lemma clauseTokens_append (ts us : List Token) :
    clauseTokens (ts ++ us) = clauseTokens ts ++ clauseTokens us :=
  List.filter_append ts us

/-- Whether a pair of parentheses encloses a list as a whole. -/
def IsPair (ts : List Token) : Prop := ∃ us, Balanced us ∧ ts = .opening :: (us ++ [.closing])

namespace Body

def tokens : Body → List Token
  | leaf ts => ts
  | group ts => ts

/-- The tokens of a body as they stand in a list: a group has its parentheses. -/
def written : Body → List Token
  | leaf ts => ts
  | group ts => .opening :: (ts ++ [.closing])

/-- What a statement is about: a leaf has no connective and no parentheses left to open, and a group
has a connective. -/
structure Proper (b : Body) : Prop where
  ne_nil : b.tokens ≠ []
  balanced : Balanced b.tokens
  leaf : ∀ ts, b = leaf ts → ¬ConnectiveOutside ts ∧ ¬IsPair ts
  group : ∀ ts, b = group ts → ConnectiveOutside ts

end Body

section Bodies

lemma body_of_not_isPair (hp : ¬IsPair ts) : Body.ofTokens ts = .leaf ts := by
  rw [Body.ofTokens, Body.ofForest, Forest.tokens_ofTokens]
  exact fun i hi => hp (Forest.exists_of_ofTokens_eq_pair hi)

/-- A fragment is the body that it has in some pairs of parentheses. -/
lemma Uncut.body_proper (h : Uncut ts) (hne : ts ≠ []) (hempty : ¬HasEmptyPair ts) :
    (Body.ofTokens ts).Proper ∧ ∃ n, ts = nested n (Body.ofTokens ts).written := by
  induction hlen : ts.length using Nat.strongRecOn generalizing ts with
  | ind n ih =>
    subst hlen
    by_cases hp : IsPair ts
    · obtain ⟨us, hus, rfl⟩ := hp
      have hne' : us ≠ [] := by
        rintro rfl
        exact hempty (by decide)
      by_cases hk : hasOuterConnective us
      · rw [hus.body_enclosed, if_pos hk]
        refine ⟨⟨hne', hus, nofun, ?_⟩, 0, rfl⟩
        rintro _ ⟨⟩
        exact hus.hasOuterConnective_iff.1 hk
      · have hempty' : ¬HasEmptyPair us :=
          fun he => hempty (he.trans ⟨[.opening], [.closing], rfl⟩)
        have hlen : us.length < (Token.opening :: (us ++ [.closing])).length := by
          simp only [List.length_cons, List.length_append]
          omega
        have huncut : Uncut us := hus.uncut (by simpa using hk)
        obtain ⟨hproper, m, hm⟩ := ih _ hlen huncut hne' hempty' rfl
        rw [hus.body_enclosed, if_neg hk]
        exact ⟨hproper, m + 1, congrArg (fun vs => Token.opening :: (vs ++ [.closing])) hm⟩
    · rw [body_of_not_isPair hp]
      refine ⟨⟨hne, h.balanced, ?_, nofun⟩, 0, rfl⟩
      rintro _ ⟨⟩
      exact ⟨h.not_outside, hp⟩

lemma Body.Proper.ofTokens_written {b : Body} (h : b.Proper) : Body.ofTokens b.written = b := by
  cases b with
  | leaf ts => exact body_of_not_isPair (h.leaf ts rfl).2
  | group ts =>
    have hk := h.balanced.hasOuterConnective_iff.2 (h.group ts rfl)
    exact h.balanced.body_enclosed.trans (if_pos hk)

lemma Body.Proper.uncut_written {b : Body} (h : b.Proper) : Uncut b.written := by
  cases b with
  | leaf ts => exact ⟨h.balanced, (h.leaf ts rfl).1⟩
  | group ts => exact h.balanced.uncut_enclosed

lemma clauseTokens_nested (n : ℕ) (ts : List Token) :
    clauseTokens (nested n ts) = clauseTokens ts := by
  induction n with
  | zero => rfl
  | succ n ih =>
    rw [nested, ← List.singleton_append, clauseTokens_append, clauseTokens_append, ih]
    simp [clauseTokens, Token.isClausal]

lemma clauseTokens_written (b : Body) : clauseTokens b.written = clauseTokens b.tokens := by
  cases b with
  | leaf ts => rfl
  | group ts => exact clauseTokens_nested 1 ts

end Bodies

namespace Statement

/-- The tokens of a statement as they stand in a list. -/
def tokens (s : Statement) : List Token := negationTokens s.negated ++ s.body.written

/-- A statement with the connective before it, as a fragment. -/
def piece (s : Statement) : Option Connective × List Token := (s.connective, s.tokens)

/-- A statement as it can stand in a list. What starts with `NOT` is negated, unless the `NOT` is in
parentheses. -/
structure Proper (s : Statement) : Prop where
  body : s.body.Proper
  head_ne : s.negated = false → ∀ ts, s.body = .leaf ts → ts.head? ≠ some .negation

/-- Whether the first statement of a list has no connective and every later one has one. -/
def Linked (ss : List Statement) : Prop :=
  (∀ s ∈ ss.head?, s.connective = none) ∧ ∀ s ∈ ss.tail, s.connective.isSome

/-- The tokens that the clauses of some statements are made of. -/
def clauseTokens (ss : List Statement) : List Token :=
  ss.flatMap fun s => Filter.clauseTokens s.body.tokens

/-- The last connective of a list, in parentheses or not. -/
def lastConnective? (ts : List Token) : Option Connective :=
  (ts.filterMap Token.connective?).getLast?

/-- Where a statement stands in a list: its fragment is its body in some pairs of parentheses, behind
a `NOT` if it is negated. What stands before and behind the fragment makes the other statements, and
the last connective before it is that of the statement, unless it is the first one. -/
def StandsIn (ts : List Token) (before : List Statement) (s : Statement) (after : List Statement) :
    Prop :=
  ∃ front frag back n, ts = front ++ frag ++ back ∧ IsFragment front frag back ∧
    frag = negationTokens s.negated ++ nested n s.body.written ∧
    Filter.clauseTokens front = clauseTokens before ∧ Filter.clauseTokens back = clauseTokens after ∧
    s.connective = if before = [] then none else lastConnective? front

end Statement

section Reading

lemma Statement.exists_of_ofFragment? (h : Statement.ofFragment? (k, ts) = some s) :
    ∃ us, us ≠ [] ∧ ts = negationTokens s.negated ++ us ∧ s.body = .ofTokens us := by
  cases ts with
  | nil => cases h
  | cons t ts =>
    by_cases ht : t = .negation
    · subst ht
      cases ts with
      | nil => cases h
      | cons u ts =>
        cases h
        exact ⟨u :: ts, by simp, rfl, rfl⟩
    · rw [Statement.ofFragment?_of_ne (by simp) (by simpa using ht)] at h
      cases h
      exact ⟨t :: ts, by simp, rfl, rfl⟩

lemma clauseTokens_of_ofFragment?_eq_none (h : Statement.ofFragment? (k, ts) = none) :
    clauseTokens ts = [] := by
  cases ts with
  | nil => rfl
  | cons t ts =>
    by_cases ht : t = .negation
    · subst ht
      cases ts with
      | nil => rfl
      | cons u ts => cases h
    · rw [Statement.ofFragment?_of_ne (by simp) (by simpa using ht)] at h
      cases h

lemma Statement.Proper.ofFragment?_piece (h : s.Proper) : Statement.ofFragment? s.piece = some s := by
  obtain ⟨k, negated, b⟩ := s
  have hwritten := h.body.ofTokens_written
  have hne : b.written ≠ [] := by
    cases b with
    | leaf ts => exact h.body.ne_nil
    | group ts => simp [Body.written]
  cases negated with
  | false =>
    have hhead : b.written.head? ≠ some .negation := by
      cases b with
      | leaf ts => exact h.head_ne rfl ts rfl
      | group ts => simp [Body.written]
    change Statement.ofFragment? (k, b.written) = _
    rw [Statement.ofFragment?_of_ne hne hhead, hwritten]
  | true =>
    change Statement.ofFragment? (k, .negation :: b.written) = _
    rw [Statement.ofFragment?, hwritten]
    exact hne

lemma Statement.Proper.uncut_tokens (h : s.Proper) : Uncut s.tokens :=
  (uncut_negationTokens s.negated).append h.body.uncut_written

/-- A fragment without an empty pair holds what its statement is made of and no more. -/
lemma Uncut.ofFragment? (h : Uncut ts) (hempty : ¬HasEmptyPair ts)
    (hs : Statement.ofFragment? (k, ts) = some s) :
    s.body.Proper ∧ ∃ n, ts = negationTokens s.negated ++ nested n s.body.written := by
  obtain ⟨us, hne, rfl, hbody⟩ := Statement.exists_of_ofFragment? hs
  have hempty' : ¬HasEmptyPair us := fun he => hempty (he.trans (List.suffix_append _ us).isInfix)
  obtain ⟨hproper, n, hn⟩ := (h.of_append (uncut_negationTokens s.negated).balanced).body_proper hne hempty'
  rw [hbody]
  exact ⟨hproper, n, by rw [← hn]⟩

lemma clauseTokens_joined {fs : List (Option Connective × List Token)}
    (h : ∀ f ∈ fs, Uncut f.2 ∧ ¬HasEmptyPair f.2) :
    clauseTokens (joined fs) = Statement.clauseTokens (fs.filterMap Statement.ofFragment?) := by
  induction fs with
  | nil => rfl
  | cons f fs ih =>
    obtain ⟨⟨hf, hempty⟩, hfs⟩ := List.forall_mem_cons.1 h
    have hconnective : clauseTokens (connectiveTokens f.1) = [] := by
      cases f.1 <;> rfl
    rw [joined_cons, clauseTokens_append, clauseTokens_append, hconnective, List.nil_append, ih hfs]
    cases hs : Statement.ofFragment? f with
    | none =>
      rw [List.filterMap_cons_none hs, clauseTokens_of_ofFragment?_eq_none hs, List.nil_append]
    | some s =>
      obtain ⟨-, n, hn⟩ := hf.ofFragment? hempty hs
      have hnegation : clauseTokens (negationTokens s.negated) = [] := by
        cases s.negated <;> rfl
      rw [List.filterMap_cons_some hs, hn, clauseTokens_append, hnegation, List.nil_append,
        clauseTokens_nested, clauseTokens_written]
      rfl

end Reading

section Leading

lemma clauseTokens_leading (ss : List Statement) :
    Statement.clauseTokens (Statement.leading ss) = Statement.clauseTokens ss := by
  cases ss <;> rfl

lemma exists_of_leading_eq_append {ss before after : List Statement}
    (h : Statement.leading ss = before ++ s :: after) : ∃ before' s',
      ss = before' ++ s' :: after ∧ before = Statement.leading before' ∧
        s = { s' with connective := if before = [] then none else s'.connective } := by
  cases ss with
  | nil => simp [Statement.leading] at h
  | cons t ss =>
    cases before with
    | nil =>
      obtain ⟨rfl, rfl⟩ := List.cons.inj h
      exact ⟨[], t, rfl, rfl, rfl⟩
    | cons u before =>
      obtain ⟨rfl, rfl⟩ := List.cons.inj h
      exact ⟨t :: before, s, rfl, rfl, rfl⟩

end Leading

/-- Statements that are written down one after the other are read back. -/
lemma statements_joined {ss : List Statement} (hlinked : Statement.Linked ss)
    (hproper : ∀ s ∈ ss, s.Proper) : statements (joined (ss.map Statement.piece)) = ss := by
  have hread (ss : List Statement) (h : ∀ s ∈ ss, s.Proper) :
      (ss.map Statement.piece).filterMap Statement.ofFragment? = ss := by
    induction ss with
    | nil => rfl
    | cons s ss ih =>
      rw [List.forall_mem_cons] at h
      rw [List.map_cons, List.filterMap_cons_some h.1.ofFragment?_piece, ih h.2]
  cases ss with
  | nil => rfl
  | cons s ss =>
    obtain ⟨k, negated, b⟩ := s
    obtain rfl : k = none := hlinked.1 _ rfl
    obtain ⟨hs, hss⟩ := List.forall_mem_cons.1 hproper
    have hpieces : pieces none (joined (List.map Statement.piece (⟨none, negated, b⟩ :: ss))) =
        (⟨none, negated, b⟩ :: ss).map Statement.piece := by
      apply pieces_joined hs.uncut_tokens
      intro f hf
      obtain ⟨t, ht, rfl⟩ := List.mem_map.1 hf
      exact ⟨hlinked.2 t ht, (hss t ht).uncut_tokens⟩
    rw [statements_eq_leading, hpieces, hread _ hproper]
    rfl

section Places

variable (h : Balanced ts) (hempty : ¬HasEmptyPair ts)
include h hempty

lemma Balanced.forall_mem_pieces : ∀ f ∈ pieces none ts, Uncut f.2 ∧ ¬HasEmptyPair f.2 := by
  intro f hf
  refine ⟨h.uncut_of_mem_pieces hf, fun he => hempty (he.trans ?_)⟩
  obtain ⟨fs, gs, hfs⟩ := List.append_of_mem hf
  have hjoined : joined (pieces none ts) = ts := h.joined_pieces none
  rw [hfs, joined_append, joined_cons] at hjoined
  exact ⟨joined fs ++ connectiveTokens f.1, joined gs, by rw [← hjoined]; simp⟩

lemma Balanced.clauseTokens_statements :
    Statement.clauseTokens (statements ts) = clauseTokens ts := by
  have hjoined : joined (pieces none ts) = ts := h.joined_pieces none
  rw [statements_eq_leading, clauseTokens_leading,
    ← clauseTokens_joined (h.forall_mem_pieces hempty), hjoined]

/-- Every statement comes from a fragment of the list. -/
lemma Balanced.standsIn {before after : List Statement} (hs : statements ts = before ++ s :: after) :
    s.body.Proper ∧ s.StandsIn ts before after := by
  have hproper := h.forall_mem_pieces hempty
  rw [statements_eq_leading] at hs
  obtain ⟨before', s', hss, rfl, rfl⟩ := exists_of_leading_eq_append hs
  obtain ⟨fs, gs, hpieces, hbefore, hgs⟩ := List.filterMap_eq_append_iff.1 hss
  obtain ⟨fs', f, gs', rfl, hnone, hf, hafter⟩ := List.filterMap_eq_cons_iff.1 hgs
  rw [← List.append_assoc] at hpieces
  have hjoined : joined (pieces none ts) = ts := h.joined_pieces none
  rw [hpieces] at hproper hjoined
  obtain ⟨hfragment, hsome⟩ := h.isFragment hpieces
  obtain ⟨hfront, hmore⟩ := List.forall_mem_append.1 hproper
  obtain ⟨⟨huncut, hfempty⟩, hback⟩ := List.forall_mem_cons.1 hmore
  obtain ⟨hbody, n, hn⟩ := huncut.ofFragment? hfempty hf
  refine ⟨hbody, _, f.2, joined gs', n, ?_, hfragment, hn, ?_, ?_, ?_⟩
  · rw [← hjoined]
    simp
  · have hdropped : fs'.filterMap Statement.ofFragment? = [] := List.filterMap_eq_nil_iff.2 hnone
    have hconnective : clauseTokens (connectiveTokens f.1) = [] := by
      cases f.1 <;> rfl
    rw [clauseTokens_append, hconnective, List.append_nil, clauseTokens_joined hfront,
      List.filterMap_append, hdropped, List.append_nil, hbefore, clauseTokens_leading]
  · rw [clauseTokens_joined hback, hafter]
  · by_cases hnil : Statement.leading before' = []
    · simp [hnil]
    · -- Where a statement comes before, so does a fragment, and a connective between the two.
      have hne : fs ++ fs' ≠ [] := by
        intro hfs
        rw [(List.append_eq_nil_iff.1 hfs).1] at hbefore
        rw [← hbefore] at hnil
        exact hnil rfl
      obtain ⟨j, hj⟩ := Option.isSome_iff_exists.1 (hsome hne)
      have hconnective := Statement.connective_of_ofFragment? hf
      simp [hnil, hconnective, hj, Statement.lastConnective?, connectiveTokens, Token.connective?]

end Places

/-- The statements of a tidy list are what stands in it, and statements are read back from the list
that they make. -/
theorem statements_exact :
    (∀ ts, Balanced ts → ¬HasEmptyPair ts →
      (∀ s ∈ statements ts, s.body.Proper) ∧
      Statement.clauseTokens (statements ts) = clauseTokens ts ∧
      ∀ before s after, statements ts = before ++ s :: after → s.StandsIn ts before after) ∧
    ∀ ss, Statement.Linked ss → (∀ s ∈ ss, s.Proper) →
      statements (joined (ss.map Statement.piece)) = ss := by
  refine ⟨fun ts h hempty => ⟨?_, h.clauseTokens_statements hempty, ?_⟩, ?_⟩
  · intro s hs
    obtain ⟨before, after, hss⟩ := List.append_of_mem hs
    exact (h.standsIn hempty hss).1
  · intro before s after hss
    exact (h.standsIn hempty hss).2
  · intro ss hlinked hproper
    exact statements_joined hlinked hproper

/-- Of the connectives before a group the last one counts, and the parentheses around it are opened.
-/
theorem statements_exact_group :
    (⟨some .and, true, .group (scan "b:2 or (c:3)")⟩ : Statement).StandsIn
      (scan "and a:1 or and not ((b:2 or (c:3))) or not and (d:(\"x\",y))")
      [⟨none, false, .leaf (scan "a:1")⟩] [⟨some .and, false, .leaf (scan "d:(\"x\",y)")⟩] ∧
    statements (joined ([⟨none, false, .leaf (scan "a:1")⟩,
        ⟨some .or, true, .group (scan "not b:2 and (c:3)")⟩].map Statement.piece)) =
      [⟨none, false, .leaf (scan "a:1")⟩, ⟨some .or, true, .group (scan "not b:2 and (c:3)")⟩] := by
  have hleaf : Body.Proper (.leaf (scan "a:1")) := by
    refine ⟨by decide +kernel, by decide +kernel, ?_, nofun⟩
    rintro _ ⟨⟩
    have huncut : Uncut (scan "a:1") := by decide +kernel
    have hhead : (scan "a:1").head? ≠ some .opening := by decide +kernel
    refine ⟨huncut.not_outside, ?_⟩
    rintro ⟨us, -, hus⟩
    rw [hus] at hhead
    exact hhead rfl
  have hgroup : Body.Proper (.group (scan "not b:2 and (c:3)")) := by
    refine ⟨by decide +kernel, by decide +kernel, nofun, ?_⟩
    rintro _ ⟨⟩
    exact ⟨scan "not b:2", .and, scan "(c:3)", by decide +kernel, by decide +kernel⟩
  constructor
  · exact (statements_exact.1 _ (by decide +kernel) (by decide +kernel)).2.2 _ _ _ (by decide +kernel)
  · refine statements_exact.2 _ ⟨by simp, by simp⟩ (List.forall_mem_cons.2 ⟨⟨hleaf, ?_⟩,
      List.forall_mem_singleton.2 ⟨hgroup, nofun⟩⟩)
    rintro - _ ⟨⟩
    decide +kernel

end FacetSearch.Filter
