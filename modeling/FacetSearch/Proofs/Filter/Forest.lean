import FacetSearch.Proofs.Filter.Balanced

/-! Forests of any tokens, with parentheses that have no partner among them: one that is a single
pair has balanced tokens in it. -/
namespace FacetSearch.Filter

variable {ts : List Token} {f : Forest} {behind : List Forest}

namespace Forest

/-- A closing parenthesis that is still to be met by its partner has balanced tokens before it, and
what was read behind it stands as it was. -/
lemma exists_of_foldr {rest : Forest}
    (h : ts.foldr consToken (nil, []) = (f, rest :: behind)) : ∃ us vs, Balanced us ∧
      ts = us ++ .closing :: vs ∧ vs.foldr consToken (nil, []) = (rest, behind) := by
  induction hlen : ts.length using Nat.strongRecOn generalizing ts f rest behind with
  | ind n ih =>
    subst hlen
    cases ts with
    | nil => cases h
    | cons t ts =>
      rw [List.foldr_cons] at h
      obtain ⟨g, behind', hts⟩ : ∃ g behind', ts.foldr consToken (nil, []) = (g, behind') :=
        ⟨_, _, rfl⟩
      rw [hts] at h
      by_cases hc : t = .closing
      · subst hc
        cases h
        exact ⟨[], ts, .nil, rfl, hts⟩
      by_cases ho : t = .opening
      · subst ho
        cases behind' with
        | nil => cases h
        | cons rest' behind' =>
          -- The first parenthesis met its partner, and what is still open stands behind that one.
          cases h
          obtain ⟨us, vs, hus, rfl, hvs⟩ := ih _ (Nat.lt_succ_self _) hts rfl
          have hlen : vs.length < (Token.opening :: (us ++ .closing :: vs)).length := by
            simp only [List.length_cons, List.length_append]
            omega
          obtain ⟨us', vs', hus', rfl, hvs'⟩ := ih _ hlen hvs rfl
          exact ⟨.opening :: (us ++ .closing :: us'), vs', .pair hus hus', by simp, hvs'⟩
      · rw [Balanced.consToken_of_ne ho hc] at h
        cases h
        obtain ⟨us, vs, hus, rfl, hvs⟩ := ih _ (Nat.lt_succ_self _) hts rfl
        exact ⟨t :: us, vs, .token ho hc hus, rfl, hvs⟩

lemma eq_nil_of_ofTokens (h : ofTokens ts = nil) : ts = [] := by
  rw [← tokens_ofTokens ts, h]
  rfl

/-- A pair that is all of a forest stands around balanced tokens. -/
lemma exists_of_ofTokens_eq_pair {i : Forest} (h : ofTokens ts = pair i nil) :
    ∃ us, Balanced us ∧ ts = .opening :: (us ++ [.closing]) := by
  cases ts with
  | nil => cases h
  | cons t ts =>
    obtain ⟨g, behind, hts⟩ : ∃ g behind, ts.foldr consToken (nil, []) = (g, behind) := ⟨_, _, rfl⟩
    rw [ofTokens, List.foldr_cons, hts] at h
    dsimp only at h
    by_cases hc : t = .closing
    · subst hc
      cases h
    by_cases ho : t = .opening
    · subst ho
      cases behind with
      | nil => cases h
      | cons rest behind =>
        obtain ⟨us, vs, hus, rfl, hvs⟩ := exists_of_foldr hts
        rw [consToken, finish_pair] at h
        have hnil : ofTokens vs = nil := by
          rw [ofTokens, hvs]
          exact (pair.inj h).2
        rw [eq_nil_of_ofTokens hnil]
        exact ⟨us, hus, rfl⟩
    · rw [Balanced.consToken_of_ne ho hc, finish_token] at h
      cases h

end Forest
end FacetSearch.Filter
