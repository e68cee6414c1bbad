import FacetSearch.Filter.Predicates
import FacetSearch.Proofs.Filter.Depth

/-! The fragments of a list of tokens: what stands between the connectives outside its parentheses.
A list is its fragments joined by the connectives, and the predicates of a list come from each of
its fragments alone. -/
namespace FacetSearch.Filter

/-- The fragments of some tokens, each with the connective before it; the first connective is given.
-/
def pieces (k : Option Connective) (ts : List Token) : List (Option Connective × List Token) :=
  (k, (fragments 0 ts).1) :: (fragments 0 ts).2

lemma statements_eq_leading (ts : List Token) :
    statements ts = Statement.leading ((pieces none ts).filterMap Statement.ofFragment?) := rfl

lemma Statement.connective_of_ofFragment? {f : Option Connective × List Token} {s : Statement}
    (h : Statement.ofFragment? f = some s) : s.connective = f.1 := by
  unfold Statement.ofFragment? at h
  split at h <;> cases h <;> rfl

/-- Every fragment but the first has a connective before it. -/
lemma isSome_of_mem_fragments {n : ℕ} {ts : List Token} {f : Option Connective × List Token}
    (h : f ∈ (fragments n ts).2) : f.1.isSome := by
  fun_induction fragments n ts with
  | case1 n => cases h
  | case2 k ts first more hmore ih =>
    rw [hmore] at ih
    rcases List.mem_cons.1 h with rfl | h
    · rfl
    · exact ih h
  | case3 n t ts hne first more hmore ih =>
    rw [hmore] at ih
    exact ih h

/-- The token of a connective, where there is one. -/
def connectiveTokens (k : Option Connective) : List Token := (k.map .connective).toList

/-- The tokens of fragments that stand behind their connectives. -/
def joined (fs : List (Option Connective × List Token)) : List Token :=
  fs.flatMap fun f => connectiveTokens f.1 ++ f.2

@[simp] lemma joined_nil : joined [] = [] := rfl

@[simp] lemma joined_cons (f : Option Connective × List Token)
    (fs : List (Option Connective × List Token)) :
    joined (f :: fs) = connectiveTokens f.1 ++ f.2 ++ joined fs := rfl

@[simp] lemma joined_append (fs gs : List (Option Connective × List Token)) :
    joined (fs ++ gs) = joined fs ++ joined gs :=
  List.flatMap_append

variable {ts us vs : List Token} {k : Option Connective} {j : Connective}

section Cuts

/-- Tokens that no connective cuts: none stands outside their parentheses. -/
structure Uncut (ts : List Token) : Prop where
  balanced : Balanced ts
  not_outside : ¬ConnectiveOutside ts

lemma Uncut.not_outer (h : Uncut ts) : hasOuterConnective ts = false := by
  rw [← Bool.not_eq_true, h.balanced.hasOuterConnective_iff]
  exact h.not_outside

lemma Balanced.uncut (h : Balanced ts) (hk : hasOuterConnective ts = false) : Uncut ts := by
  rw [← Bool.not_eq_true, h.hasOuterConnective_iff] at hk
  exact ⟨h, hk⟩

lemma Uncut.append (h : Uncut ts) (h' : Uncut us) : Uncut (ts ++ us) := by
  apply (h.balanced.append h'.balanced).uncut
  rw [h.balanced.hasOuterConnective_append h'.balanced, h.not_outer, h'.not_outer, Bool.or_self]

lemma Uncut.of_append (h : Uncut (ts ++ us)) (hts : Balanced ts) : Uncut us := by
  have hus := h.balanced.of_append hts
  have hk := h.not_outer
  rw [hts.hasOuterConnective_append hus, Bool.or_eq_false_iff] at hk
  exact hus.uncut hk.2

lemma uncut_nil : Uncut [] := Balanced.nil.uncut rfl

lemma uncut_singleton {t : Token} (ho : t ≠ .opening) (hc : t ≠ .closing)
    (hk : t.connective? = none) : Uncut [t] := by
  apply (Balanced.token ho hc .nil).uncut
  rw [Balanced.hasOuterConnective_token ho hc .nil, hk]
  rfl

lemma Balanced.uncut_enclosed (h : Balanced ts) : Uncut (.opening :: (ts ++ [.closing])) :=
  h.enclosed.uncut (h.hasOuterConnective_pair .nil)

lemma Balanced.append_connective (h : Balanced ts) (j : Connective) (h' : Balanced us) :
    Balanced (ts ++ .connective j :: us) :=
  h.append (.token (by simp) (by simp) h')

instance : DecidablePred Uncut := fun ts =>
  decidable_of_iff (Balanced ts ∧ hasOuterConnective ts = false)
    ⟨fun h => h.1.uncut h.2, fun h => ⟨h.balanced, h.not_outer⟩⟩

/-- A balanced list has no connective outside its parentheses or a first one. -/
lemma Balanced.uncut_or_exists (h : Balanced ts) :
    Uncut ts ∨ ∃ us j vs, Uncut us ∧ Balanced vs ∧ ts = us ++ .connective j :: vs := by
  induction h with
  | nil => exact .inl uncut_nil
  | @token t ts ho hc h ih =>
    cases hk : t.connective? with
    | some j =>
      obtain rfl : t = .connective j := by
        cases t <;> cases hk
        rfl
      exact .inr ⟨[], j, ts, uncut_nil, h, rfl⟩
    | none =>
      have ht := uncut_singleton ho hc hk
      rcases ih with h | ⟨us, j, vs, hus, hvs, rfl⟩
      · exact .inl (ht.append h)
      · exact .inr ⟨t :: us, j, vs, ht.append hus, hvs, rfl⟩
  | @pair inner rest hi _ _ ih =>
    have happend (us : List Token) : Token.opening :: (inner ++ .closing :: us) =
        (.opening :: (inner ++ [.closing])) ++ us := by
      simp
    have hpair := hi.uncut_enclosed
    rcases ih with h | ⟨us, j, vs, hus, hvs, rfl⟩
    · rw [happend]
      exact .inl (hpair.append h)
    · rw [happend, ← List.append_assoc]
      exact .inr ⟨_, j, vs, hpair.append hus, hvs, rfl⟩

/-- Every balanced list is a fragment, or a fragment with a connective and a balanced list behind
it. -/
@[elab_as_elim]
theorem Balanced.cutInduction {P : (ts : List Token) → Balanced ts → Prop}
    (uncut : ∀ ts (h : Uncut ts), P ts h.balanced)
    (cut : ∀ us j vs (hus : Uncut us) (hvs : Balanced vs), P vs hvs →
      P (us ++ .connective j :: vs) (hus.balanced.append_connective j hvs))
    {ts : List Token} (h : Balanced ts) : P ts h := by
  induction hlen : ts.length using Nat.strongRecOn generalizing ts with
  | ind n ih =>
    subst hlen
    rcases h.uncut_or_exists with hts | ⟨us, j, vs, hus, hvs, rfl⟩
    · exact uncut ts hts
    · apply cut us j vs hus hvs
      apply ih _ _ hvs rfl
      simp only [List.length_append, List.length_cons]
      omega

end Cuts

section Pieces

lemma Uncut.pieces_eq (h : Uncut ts) (k : Option Connective) : pieces k ts = [(k, ts)] := by
  rw [pieces, h.balanced.fragments_eq h.not_outer]

lemma Uncut.pieces_connective (h : Uncut ts) (k : Option Connective) (j : Connective)
    (us : List Token) : pieces k (ts ++ .connective j :: us) = (k, ts) :: pieces (some j) us := by
  rw [pieces, h.balanced.fragments_append (.inr h.not_outer), fragments, List.append_nil, pieces]

/-- A connective outside parentheses keeps the fragments on its two sides apart. -/
lemma Balanced.pieces_connective (h : Balanced ts) (k : Option Connective) (j : Connective)
    (us : List Token) :
    pieces k (ts ++ .connective j :: us) = pieces k ts ++ pieces (some j) us := by
  induction h using Balanced.cutInduction generalizing k with
  | uncut ts h => rw [h.pieces_connective, h.pieces_eq, List.singleton_append]
  | cut ts l vs h _ ih =>
    rw [List.append_assoc, List.cons_append, h.pieces_connective, h.pieces_connective, ih,
      List.cons_append]

lemma Balanced.joined_pieces (h : Balanced ts) (k : Option Connective) :
    joined (pieces k ts) = connectiveTokens k ++ ts := by
  induction h using Balanced.cutInduction generalizing k with
  | uncut ts h => simp [h.pieces_eq]
  | cut ts l vs h _ ih => simp [h.pieces_connective, ih, connectiveTokens]

lemma Balanced.uncut_of_mem_pieces (h : Balanced ts) {f : Option Connective × List Token}
    (hf : f ∈ pieces k ts) : Uncut f.2 := by
  induction h using Balanced.cutInduction generalizing k with
  | uncut ts h =>
    rw [h.pieces_eq, List.mem_singleton] at hf
    rwa [hf]
  | cut ts l vs h _ ih =>
    rw [h.pieces_connective, List.mem_cons] at hf
    rcases hf with rfl | hf
    · exact h
    · exact ih hf

/-- Fragments that are joined are cut apart again. -/
lemma pieces_joined {fs : List (Option Connective × List Token)} {ts : List Token} (h : Uncut ts)
    (hfs : ∀ f ∈ fs, f.1.isSome ∧ Uncut f.2) (k : Option Connective) :
    pieces k (ts ++ joined fs) = (k, ts) :: fs := by
  induction fs generalizing ts k with
  | nil => rw [joined_nil, List.append_nil, h.pieces_eq]
  | cons f fs ih =>
    obtain ⟨k', us⟩ := f
    obtain ⟨⟨hk, hf⟩, hmore⟩ := List.forall_mem_cons.1 hfs
    obtain ⟨j, rfl⟩ := Option.isSome_iff_exists.1 hk
    have hjoined : ts ++ joined ((some j, us) :: fs) = ts ++ .connective j :: (us ++ joined fs) := by
      simp [connectiveTokens]
    rw [hjoined, h.pieces_connective, ih hf hmore]

end Pieces

section Places

/-- A fragment between what is before and what is behind it. The one is empty or ends with a
connective, the other is empty or starts with one. -/
structure IsFragment (front ts back : List Token) : Prop where
  front : front = [] ∨ ∃ us j, Balanced us ∧ front = us ++ [.connective j]
  uncut : Uncut ts
  back : back = [] ∨ ∃ j us, Balanced us ∧ back = .connective j :: us

variable {front back : List Token}

lemma IsFragment.balanced_front (h : IsFragment front ts back) : Balanced front := by
  rcases h.front with rfl | ⟨us, j, hus, rfl⟩
  · exact .nil
  · exact hus.append_connective j .nil

lemma IsFragment.balanced_back (h : IsFragment front ts back) : Balanced back := by
  rcases h.back with rfl | ⟨j, us, hus, rfl⟩
  · exact .nil
  · exact Balanced.nil.append_connective j hus

/-- What is before and behind a fragment has the same fragments whatever stands in its place. -/
lemma IsFragment.exists_pieces (h : IsFragment front ts back) : ∃ fs k gs, ∀ us, Uncut us →
    pieces none (front ++ us ++ back) = fs ++ (k, us) :: gs := by
  have hback : ∃ gs, ∀ k us, Uncut us → pieces k (us ++ back) = (k, us) :: gs := by
    rcases h.back with rfl | ⟨j, vs, -, rfl⟩
    · exact ⟨[], fun k us hus => by rw [List.append_nil, hus.pieces_eq]⟩
    · exact ⟨_, fun k us hus => hus.pieces_connective k j vs⟩
  obtain ⟨gs, hgs⟩ := hback
  rcases h.front with rfl | ⟨vs, j, hvs, rfl⟩
  · exact ⟨[], none, gs, fun us hus => by rw [List.nil_append, hgs none us hus, List.nil_append]⟩
  · refine ⟨pieces none vs, some j, gs, fun us hus => ?_⟩
    rw [List.append_assoc, List.append_assoc, List.singleton_append, hvs.pieces_connective,
      hgs (some j) us hus]

lemma balanced_connectiveTokens (k : Option Connective) : Balanced (connectiveTokens k) := by
  cases k with
  | none => exact .nil
  | some j => exact .token (by simp) (by simp) .nil

lemma balanced_joined {fs : List (Option Connective × List Token)} (h : ∀ f ∈ fs, Uncut f.2) :
    Balanced (joined fs) := by
  induction fs with
  | nil => exact .nil
  | cons f fs ih =>
    rw [List.forall_mem_cons] at h
    exact ((balanced_connectiveTokens f.1).append h.1.balanced).append (ih h.2)

/-- Every piece of a list is a fragment of it, and only the first one has no connective before it.
-/
lemma Balanced.isFragment (h : Balanced ts) {fs gs : List (Option Connective × List Token)}
    {f : Option Connective × List Token} (hf : pieces none ts = fs ++ f :: gs) :
    IsFragment (joined fs ++ connectiveTokens f.1) f.2 (joined gs) ∧ (fs ≠ [] → f.1.isSome) := by
  have huncut (g : Option Connective × List Token) (hg : g ∈ fs ++ f :: gs) : Uncut g.2 :=
    h.uncut_of_mem_pieces (hf ▸ hg)
  have hsome (g : Option Connective × List Token) (hg : g ∈ (fs ++ f :: gs).tail) : g.1.isSome := by
    rw [← hf] at hg
    exact isSome_of_mem_fragments hg
  have hfront : fs ≠ [] → f.1.isSome := by
    intro hne
    apply hsome
    rw [List.tail_append_of_ne_nil hne]
    simp
  have hgs (g : Option Connective × List Token) (hg : g ∈ gs) : g.1.isSome := by
    apply hsome
    cases fs <;> simp [hg]
  refine ⟨⟨?_, huncut f (by simp), ?_⟩, hfront⟩
  · cases fs with
    | nil =>
      have hnone : f.1 = none := congrArg Prod.fst (List.cons.inj hf).1.symm
      exact .inl (by rw [hnone]; rfl)
    | cons g fs =>
      obtain ⟨j, hj⟩ := Option.isSome_iff_exists.1 (hfront (List.cons_ne_nil g fs))
      refine .inr ⟨joined (g :: fs), j, balanced_joined fun g hg => huncut g (List.mem_append_left _ hg), ?_⟩
      rw [hj]
      rfl
  · cases gs with
    | nil => exact .inl rfl
    | cons g gs =>
      obtain ⟨j, hj⟩ := Option.isSome_iff_exists.1 (hgs g List.mem_cons_self)
      have hbalanced : Balanced (g.2 ++ joined gs) :=
        (huncut g (by simp)).balanced.append (balanced_joined fun g hg => huncut g (by simp [hg]))
      refine .inr ⟨j, g.2 ++ joined gs, hbalanced, ?_⟩
      simp [hj, connectiveTokens]

end Places

section Nested

/-- Tokens in some pairs of parentheses, one around the other. -/
def nested : ℕ → List Token → List Token
  | 0, ts => ts
  | n + 1, ts => .opening :: (nested n ts ++ [.closing])

lemma Balanced.nested (h : Balanced ts) (n : ℕ) : Balanced (nested n ts) := by
  induction n with
  | zero => exact h
  | succ n ih => exact ih.enclosed

/-- All pairs around a group are opened. -/
lemma Balanced.body_nested (h : Balanced ts) (hk : ConnectiveOutside ts) (n : ℕ) :
    Body.ofTokens (Filter.nested (n + 1) ts) = .group ts := by
  induction n with
  | zero => rw [Filter.nested, Filter.nested, h.body_enclosed, if_pos (h.hasOuterConnective_iff.2 hk)]
  | succ n ih =>
    have hinner : hasOuterConnective (Filter.nested (n + 1) ts) = false :=
      (h.nested n).uncut_enclosed.not_outer
    rw [Filter.nested, (h.nested (n + 1)).body_enclosed, if_neg (by simp [hinner]), ih]

end Nested

end FacetSearch.Filter
