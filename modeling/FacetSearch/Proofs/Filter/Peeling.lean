import FacetSearch.Proofs.Filter.Statements

/-! The parentheses around a whole list of tokens, peeled off one pair after the other by counting
those that are open. What is left is the body that is read from the list, balanced or not. -/
namespace FacetSearch.Filter

/-- The first position behind which no parenthesis is open, where `n` are open before the list. -/
def closedAt? : ℕ → List Token → Option ℕ
  | _, [] => none
  | n, t :: ts => if t.depthAfter n = 0 then some 0 else (closedAt? (t.depthAfter n) ts).map (· + 1)

/-- Whether a connective stands where no parenthesis is open. -/
def connectiveAtZero : ℕ → List Token → Bool
  | _, [] => false
  | n, t :: ts => n == 0 && t.connective?.isSome || connectiveAtZero (t.depthAfter n) ts

/-- Whether the first token opens a parenthesis, and from there on the number of open ones is zero
again at the last token for the first time. -/
def IsWrapped (ts : List Token) : Prop :=
  2 ≤ ts.length ∧ ts.head? = some .opening ∧ closedAt? 0 ts = some (ts.length - 1)

instance : DecidablePred IsWrapped := fun _ => inferInstanceAs (Decidable (_ ∧ _))

/-- The tokens between the first and the last one. -/
def inside (ts : List Token) : List Token := ts.tail.dropLast

/-- The tokens in all the parentheses around a list, unless a connective stands directly inside a
pair of them: then these enclose a group. -/
def Body.peeled (ts : List Token) : Body :=
  if _h : IsWrapped ts then
    if connectiveAtZero 0 (inside ts) then .group (inside ts) else peeled (inside ts)
  else .leaf ts
termination_by ts.length
decreasing_by
  have hlen := _h.1
  simp only [inside, List.length_dropLast, List.length_tail]
  omega

variable {ts us : List Token}

section Counting

lemma closedAt?_closing (n : ℕ) (ts : List Token) :
    closedAt? (n + 2) (.closing :: ts) = (closedAt? (n + 1) ts).map (· + 1) := rfl

lemma depthAfter_of_ne {t : Token} (ho : t ≠ .opening) (hc : t ≠ .closing) (n : ℕ) :
    t.depthAfter n = n := by
  rw [Token.depthAfter]
  · exact ho
  · exact hc

/-- Nothing that was open before a balanced list is closed in it. -/
lemma Balanced.closedAt?_append (h : Balanced ts) (n : ℕ) (us : List Token) :
    closedAt? (n + 1) (ts ++ us) = (closedAt? (n + 1) us).map (· + ts.length) := by
  induction h generalizing n us with
  | nil => simp
  | @token t ts ho hc _ ih =>
    rw [List.cons_append, closedAt?, depthAfter_of_ne ho hc, if_neg (Nat.succ_ne_zero n), ih,
      Option.map_map]
    rfl
  | @pair inner rest _ _ ihi ihr =>
    have hopening : closedAt? (n + 1) (.opening :: (inner ++ .closing :: (rest ++ us))) =
        (closedAt? (n + 2) (inner ++ .closing :: (rest ++ us))).map (· + 1) := rfl
    rw [List.cons_append, List.append_assoc, List.cons_append, hopening, ihi, closedAt?_closing, ihr]
    simp only [Option.map_map]
    congr 1
    funext k
    simp only [Function.comp_apply, List.length_cons, List.length_append]
    omega

/-- The first position behind which nothing is open closes what was open before the list, and what
is before it closes nothing of that. -/
lemma exists_of_closedAt? {n k : ℕ} (h : closedAt? (n + 1) ts = some k) : ∃ us vs,
    ts = us ++ .closing :: vs ∧ us.length = k ∧ depth? n us = some 0 := by
  induction ts generalizing n k with
  | nil => cases h
  | cons t ts ih =>
    rw [closedAt?] at h
    split at h
    · next hzero =>
      cases h
      by_cases hc : t = .closing
      · subst hc
        obtain rfl : n = 0 := hzero
        exact ⟨[], ts, rfl, rfl, rfl⟩
      · by_cases ho : t = .opening
        · subst ho
          cases hzero
        · rw [depthAfter_of_ne ho hc] at hzero
          cases hzero
    · next hzero =>
      obtain ⟨k, hk, rfl⟩ := Option.map_eq_some_iff.1 h
      by_cases hc : t = .closing
      · subst hc
        obtain ⟨m, rfl⟩ := Nat.exists_eq_add_one_of_ne_zero hzero
        obtain ⟨us, vs, rfl, rfl, hus⟩ := ih hk
        exact ⟨.closing :: us, vs, rfl, rfl, hus⟩
      · by_cases ho : t = .opening
        · subst ho
          obtain ⟨us, vs, rfl, rfl, hus⟩ := ih hk
          exact ⟨.opening :: us, vs, rfl, rfl, hus⟩
        · rw [depthAfter_of_ne ho hc] at hk
          obtain ⟨us, vs, rfl, rfl, hus⟩ := ih hk
          exact ⟨t :: us, vs, rfl, rfl, by rwa [depth?_token ho hc]⟩

lemma Balanced.connectiveAtZero_append (h : Balanced ts) (n : ℕ) (us : List Token) :
    connectiveAtZero n (ts ++ us) = (n == 0 && hasOuterConnective ts || connectiveAtZero n us) := by
  induction h generalizing n us with
  | nil => cases n <;> rfl
  | @token t ts ho hc h ih =>
    rw [List.cons_append, connectiveAtZero, depthAfter_of_ne ho hc, ih,
      hasOuterConnective_token ho hc h, ← Bool.or_assoc, Bool.and_or_distrib_left]
  | @pair inner rest hi hr ihi ihr =>
    have hopening (vs : List Token) :
        connectiveAtZero n (.opening :: vs) = connectiveAtZero (n + 1) vs := by
      simp [connectiveAtZero, Token.connective?, Token.depthAfter]
    have hclosing (vs : List Token) :
        connectiveAtZero (n + 1) (.closing :: vs) = connectiveAtZero n vs := by
      simp [connectiveAtZero, Token.depthAfter]
    rw [List.cons_append, List.append_assoc, List.cons_append, hopening, ihi, hclosing, ihr,
      hasOuterConnective_pair hi hr]
    rfl

lemma Balanced.connectiveAtZero_eq (h : Balanced ts) :
    connectiveAtZero 0 ts = hasOuterConnective ts := by
  have happend := h.connectiveAtZero_append 0 []
  rwa [List.append_nil, connectiveAtZero, Bool.or_false] at happend

end Counting

section Peeling

lemma isWrapped_iff : IsWrapped ts ↔ IsPair ts := by
  constructor
  · rintro ⟨hlen, hhead, hclosed⟩
    obtain ⟨ts, rfl⟩ := List.head?_eq_some_iff.1 hhead
    have hopening : closedAt? 0 (.opening :: ts) = (closedAt? 1 ts).map (· + 1) := rfl
    rw [hopening] at hclosed
    obtain ⟨k, hk, hlast⟩ := Option.map_eq_some_iff.1 hclosed
    obtain ⟨us, vs, rfl, rfl, hus⟩ := exists_of_closedAt? hk
    simp only [List.length_cons, List.length_append] at hlast
    obtain rfl : vs = [] := List.length_eq_zero_iff.1 (by omega)
    exact ⟨us, balanced_iff.2 hus, rfl⟩
  · rintro ⟨us, hus, rfl⟩
    have hclosed : closedAt? 0 (.opening :: (us ++ [.closing])) =
        (closedAt? 1 (us ++ [.closing])).map (· + 1) := rfl
    refine ⟨by simp, rfl, ?_⟩
    rw [hclosed, hus.closedAt?_append 0]
    simp [closedAt?, Token.depthAfter]

lemma inside_enclosed (us : List Token) : inside (.opening :: (us ++ [.closing])) = us := by
  simp [inside]

lemma Body.peeled_of_not_isPair (h : ¬IsPair ts) : peeled ts = .leaf ts := by
  rw [peeled, dif_neg (mt isWrapped_iff.1 h)]

lemma Balanced.peeled_enclosed (h : Balanced ts) : Body.peeled (.opening :: (ts ++ [.closing])) =
    if hasOuterConnective ts then .group ts else Body.peeled ts := by
  rw [Body.peeled, dif_pos (isWrapped_iff.2 ⟨ts, h, rfl⟩), inside_enclosed, h.connectiveAtZero_eq]

/-- The body of a list is what comes out when its parentheses are peeled off. -/
lemma body_eq_peeled (ts : List Token) : Body.ofTokens ts = Body.peeled ts := by
  induction hlen : ts.length using Nat.strongRecOn generalizing ts with
  | ind n ih =>
    subst hlen
    by_cases hp : IsPair ts
    · obtain ⟨us, hus, rfl⟩ := hp
      have hlen : us.length < (Token.opening :: (us ++ [.closing])).length := by
        simp only [List.length_cons, List.length_append]
        omega
      rw [hus.body_enclosed, hus.peeled_enclosed, ih _ hlen us rfl]
    · rw [body_of_not_isPair hp, Body.peeled_of_not_isPair hp]

end Peeling
end FacetSearch.Filter
