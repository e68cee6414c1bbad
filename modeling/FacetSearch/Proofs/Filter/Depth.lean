import FacetSearch.Proofs.Filter.Balanced

/-! The number of open parentheses along a list of tokens. Counting tells balanced lists, and every
list falls into balanced ones with a stray parenthesis between each two. -/
namespace FacetSearch.Filter

/-- The number of open parentheses behind some tokens, unless one of them closes nothing. -/
def depth? : ℕ → List Token → Option ℕ
  | n, [] => some n
  | n, .opening :: ts => depth? (n + 1) ts
  | 0, .closing :: _ => none
  | n + 1, .closing :: ts => depth? n ts
  | n, _ :: ts => depth? n ts

variable {ts us : List Token}

lemma depth?_token {t : Token} (ho : t ≠ .opening) (hc : t ≠ .closing) (n : ℕ) (ts : List Token) :
    depth? n (t :: ts) = depth? n ts := by
  rw [depth?]
  · exact ho
  · exact fun _ => hc
  · exact fun _ _ => hc

lemma depth?_append (n : ℕ) (ts us : List Token) :
    depth? n (ts ++ us) = (depth? n ts).bind fun m => depth? m us := by
  fun_induction depth? n ts with
  | case1 n => rfl
  | case2 n ts ih => rw [List.cons_append, depth?, ih]
  | case3 ts => rfl
  | case4 n ts ih => rw [List.cons_append, depth?, ih]
  | case5 n t ts ho hc hc' ih =>
    rw [List.cons_append, depth?, ih]
    · exact ho
    · exact hc
    · exact hc'

/-- Parentheses that were open before stay open. -/
lemma depth?_add {n m : ℕ} (h : depth? n ts = some m) (k : ℕ) :
    depth? (n + k) ts = some (m + k) := by
  fun_induction depth? n ts with
  | case1 n =>
    cases h
    rfl
  | case2 n ts ih => rw [depth?, Nat.add_right_comm, ih h]
  | case3 ts => cases h
  | case4 n ts ih => rw [Nat.succ_add, depth?, ih h]
  | case5 n t ts ho hc hc' ih =>
    have hclosing : t ≠ .closing := by
      cases n with
      | zero => exact hc rfl
      | succ n => exact hc' n rfl
    rw [depth?_token ho hclosing, ih h]

lemma Balanced.depth?_eq (h : Balanced ts) (n : ℕ) : depth? n ts = some n := by
  induction h generalizing n with
  | nil => rfl
  | token ho hc _ ih => rw [depth?_token ho hc, ih]
  | pair _ _ ihi ihr =>
    rw [depth?, depth?_append, ihi, Option.bind_some, depth?, ihr]

/-- A list that is not balanced has a first parenthesis that closes nothing, or a last one that
nothing closes. -/
lemma balanced_or_stray (ts : List Token) :
    Balanced ts ∨ (∃ us vs, Balanced us ∧ ts = us ++ .closing :: vs) ∨
      ∃ us vs, Balanced vs ∧ ts = us ++ .opening :: vs := by
  induction h : ts.length using Nat.strongRecOn generalizing ts with
  | ind n ih =>
    subst h
    cases ts with
    | nil => exact .inl .nil
    | cons t ts =>
      by_cases hc : t = .closing
      · subst hc
        exact .inr (.inl ⟨[], ts, .nil, rfl⟩)
      by_cases ho : t = .opening
      · subst ho
        rcases ih _ (Nat.lt_succ_self _) ts rfl with hb | ⟨us, vs, hus, rfl⟩ | ⟨us, vs, hvs, rfl⟩
        · exact .inr (.inr ⟨[], ts, hb, rfl⟩)
        · -- The two are partners, so what is stray is behind them.
          have hlen : vs.length < (Token.opening :: (us ++ .closing :: vs)).length := by
            simp only [List.length_cons, List.length_append]
            omega
          have hpair {ws : List Token} (hws : Balanced ws) := Balanced.pair hus hws
          rcases ih _ hlen vs rfl with hb | ⟨xs, ys, hxs, rfl⟩ | ⟨xs, ys, hys, rfl⟩
          · exact .inl (hpair hb)
          · exact .inr (.inl ⟨_, ys, hpair hxs, by simp⟩)
          · exact .inr (.inr ⟨.opening :: (us ++ .closing :: xs), ys, hys, by simp⟩)
        · exact .inr (.inr ⟨.opening :: us, vs, hvs, rfl⟩)
      · rcases ih _ (Nat.lt_succ_self _) ts rfl with hb | ⟨us, vs, hus, rfl⟩ | ⟨us, vs, hvs, rfl⟩
        · exact .inl (.token ho hc hb)
        · exact .inr (.inl ⟨t :: us, vs, .token ho hc hus, rfl⟩)
        · exact .inr (.inr ⟨t :: us, vs, hvs, rfl⟩)

/-- Every list is a balanced one, or comes from a shorter one by a stray parenthesis with balanced
tokens on its outer side. -/
@[elab_as_elim]
theorem strayInduction {P : List Token → Prop} (balanced : ∀ ts, Balanced ts → P ts)
    (closing : ∀ us vs, Balanced us → P vs → P (us ++ .closing :: vs))
    (opening : ∀ us vs, Balanced vs → P us → P (us ++ .opening :: vs)) (ts : List Token) : P ts := by
  induction h : ts.length using Nat.strongRecOn generalizing ts with
  | ind n ih =>
    subst h
    rcases balanced_or_stray ts with hb | ⟨us, vs, hus, rfl⟩ | ⟨us, vs, hvs, rfl⟩
    · exact balanced ts hb
    · apply closing us vs hus
      apply ih _ _ vs rfl
      simp only [List.length_append, List.length_cons]
      omega
    · apply opening us vs hvs
      apply ih _ _ us rfl
      simp only [List.length_append, List.length_cons]
      omega

lemma balanced_iff : Balanced ts ↔ depth? 0 ts = some 0 := by
  refine ⟨fun h => h.depth?_eq 0, fun h => ?_⟩
  rcases balanced_or_stray ts with hb | ⟨us, vs, hus, rfl⟩ | ⟨us, vs, hvs, rfl⟩
  · exact hb
  · rw [depth?_append, hus.depth?_eq] at h
    cases h
  · rw [depth?_append] at h
    obtain ⟨n, -, hn⟩ := Option.bind_eq_some_iff.1 h
    rw [depth?, hvs.depth?_eq] at hn
    cases hn

instance : DecidablePred Balanced := fun _ => decidable_of_iff _ balanced_iff.symm

lemma Balanced.of_append (h : Balanced (ts ++ us)) (hts : Balanced ts) : Balanced us := by
  rw [balanced_iff, depth?_append, hts.depth?_eq] at h
  exact balanced_iff.2 h

/-- A list with a connective outside its parentheses: what is before it is balanced. -/
def ConnectiveOutside (ts : List Token) : Prop :=
  ∃ us k vs, Balanced us ∧ ts = us ++ .connective k :: vs

lemma Balanced.hasOuterConnective_iff (h : Balanced ts) :
    hasOuterConnective ts ↔ ConnectiveOutside ts := by
  constructor
  · intro hk
    induction h with
    | nil => cases hk
    | @token t ts ho hc hb ih =>
      rw [hasOuterConnective_token ho hc hb, Bool.or_eq_true] at hk
      rcases hk with hk | hk
      · cases t with
        | connective k => exact ⟨[], k, ts, .nil, rfl⟩
        | _ => cases hk
      · obtain ⟨us, k, vs, hus, rfl⟩ := ih hk
        exact ⟨t :: us, k, vs, .token ho hc hus, rfl⟩
    | @pair inner rest hi hr _ ih =>
      rw [hasOuterConnective_pair hi hr] at hk
      obtain ⟨us, k, vs, hus, rfl⟩ := ih hk
      exact ⟨_, k, vs, .pair hi hus, by simp⟩
  · rintro ⟨us, k, vs, hus, rfl⟩
    have hkvs := h.of_append hus
    have hvs : Balanced vs := by
      cases hkvs with
      | token _ _ hvs => exact hvs
    have hkey : hasOuterConnective (.connective k :: vs) :=
      hasOuterConnective_token (by simp) (by simp) hvs
    rw [hus.hasOuterConnective_append hkvs, hkey, Bool.or_true]

end FacetSearch.Filter
