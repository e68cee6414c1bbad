import FacetSearch.Proofs.Meaning.Predicates
import FacetSearch.Proofs.Sql.Tree

/-! The text of a predicate list as SQL reads it, where `AND` binds tighter than `OR`, against the
list itself, which is read from left to right. -/
namespace FacetSearch.Sql
open Predicate (truth truths meaning leafCount leafCounts link Below BelowAll EveryLevel OrsLast shown
  shownAll shownRest)

mutual
/-- Texts that are one condition: a test, or any condition in parentheses. The tests of a text are
numbered, here from `i` up to but not including `j`, and `v` gives each its truth value. -/
inductive Condition (v : ℕ → Truth) : ℕ → ℕ → List Char → Truth → Prop
  | test (i : ℕ) (a : String) (t : Test) : Condition v i (i + 1) (test a t).toList (v i)
  | group {i j : ℕ} {s : List Char} {b : Truth} :
    Disjunction v i j s b → Condition v i j ('(' :: (s ++ [')'])) b
  | negated {i j : ℕ} {s : List Char} {b : Truth} :
    Disjunction v i j s b → Condition v i j ("not (".toList ++ (s ++ [')'])) b.not

/-- Texts that are conditions with `and` between them. -/
inductive Conjunction (v : ℕ → Truth) : ℕ → ℕ → List Char → Truth → Prop
  | one {i j : ℕ} {s : List Char} {b : Truth} : Condition v i j s b → Conjunction v i j s b
  | and {i j k : ℕ} {s t : List Char} {b c : Truth} : Conjunction v i j s b → Condition v j k t c →
    Conjunction v i k (s ++ (" and ".toList ++ t)) (b.and c)

/-- Texts that are conjunctions with `or` between them. -/
inductive Disjunction (v : ℕ → Truth) : ℕ → ℕ → List Char → Truth → Prop
  | one {i j : ℕ} {s : List Char} {b : Truth} : Conjunction v i j s b → Disjunction v i j s b
  | or {i j k : ℕ} {s t : List Char} {b c : Truth} : Disjunction v i j s b → Conjunction v j k t c →
    Disjunction v i k (s ++ (" or ".toList ++ t)) (b.or c)
end

/-- Whether SQL reads a text as a condition with the given truth value. -/
def Reads (v : ℕ → Truth) (s : String) (b : Truth) : Prop := ∃ j, Disjunction v 0 j s.toList b

lemma toList_continued_cons (p : Predicate) (ps : List Predicate) :
    (continued (p :: ps)).toList = (" " ++ p.link.keyword ++ " ").toList ++
      ((predicate p).toList ++ (continued ps).toList) := by
  rw [continued, String.toList_append, String.toList_append, List.append_assoc]
  rfl

section Existence

variable {v : ℕ → Truth}

/-- A disjunction may start with one more conjunction. -/
lemma Disjunction.cons {i j k : ℕ} {s t : List Char} {b c : Truth} (hs : Conjunction v i j s b) :
    Disjunction v j k t c → Disjunction v i k (s ++ (" or ".toList ++ t)) (b.or c)
  | .one ht => .or (.one hs) ht
  | .or (s := t₁) (t := t₂) (b := c₁) (c := c₂) h₁ h₂ => by
    have h := Disjunction.or (Disjunction.cons hs h₁) h₂
    rw [show (b.or c₁).or c₂ = b.or (c₁.or c₂) from Connective.or.join_assoc b c₁ c₂] at h
    simpa only [List.append_assoc] using h

mutual
lemma condition_predicate : ∀ (p : Predicate) (i : ℕ), p.Below (· ≠ []) →
    Condition v i (i + p.leafCount) (predicate p).toList (p.truth Row.byPrecedence v i)
  | .leaf _ a t, i, _ => by
    simpa only [predicate, leafCount, truth] using Condition.test i a t
  | .group _ negated children, i, h => by
    have hchildren := disjunction_predicates children i h.1 h.2
    cases negated with
    | false => simpa [predicate, leafCount, truth, not] using Condition.group hchildren
    | true => simpa [predicate, leafCount, truth, not] using Condition.negated hchildren

/-- A list is read as the disjunction that its precedence makes of it. -/
lemma disjunction_predicates : ∀ (ps : List Predicate) (i : ℕ), ps ≠ [] → BelowAll (· ≠ []) ps →
    Disjunction v i (i + leafCounts ps) (predicates ps).toList
      (truths Row.byPrecedence v i ps).byPrecedence
  | [], _, h, _ => absurd rfl h
  | p :: ps, i, _, h => by
    have hp := condition_predicate p i h.1
    have hps := disjunction_continued ps (Conjunction.one hp) h.2
    rw [predicates, String.toList_append, leafCounts, ← Nat.add_assoc]
    exact hps

/-- The conjunction before a list goes on in it up to the first `or`. -/
lemma disjunction_continued : ∀ (ps : List Predicate) {i j : ℕ} {s : List Char} {b : Truth},
    Conjunction v i j s b → BelowAll (· ≠ []) ps →
    Disjunction v i (j + leafCounts ps) (s ++ (continued ps).toList)
      (Row.conjoin b (truths Row.byPrecedence v j ps))
  | [], _, _, _, _, hs, _ => by
    simpa [continued, leafCounts, truths, Row.conjoin] using Disjunction.one hs
  | p :: ps, i, j, s, b, hs, h => by
    have hp := condition_predicate p j h.1
    have hcount : j + leafCounts (p :: ps) = j + p.leafCount + leafCounts ps := by
      rw [leafCounts, Nat.add_assoc]
    rw [hcount, truths]
    cases hk : p.link with
    | and =>
      have htext : s ++ (continued (p :: ps)).toList =
          s ++ (" and ".toList ++ (predicate p).toList) ++ (continued ps).toList := by
        simp [toList_continued_cons, hk, Connective.keyword]
      rw [htext]
      exact disjunction_continued ps (hs.and hp) h.2
    | or =>
      have htext : s ++ (continued (p :: ps)).toList =
          s ++ (" or ".toList ++ ((predicate p).toList ++ (continued ps).toList)) := by
        simp [toList_continued_cons, hk, Connective.keyword]
      rw [htext]
      exact .cons hs (disjunction_continued ps (.one hp) h.2)
end

end Existence

section Uniqueness

variable {v : ℕ → Truth}

lemma continued_append (ps qs : List Predicate) :
    continued (ps ++ qs) = continued ps ++ continued qs := by
  induction ps with
  | nil => simp [continued]
  | cons p ps ih => simp only [List.cons_append, continued, ih, String.append_assoc]

lemma predicate_withConnective (k : Option Connective) (p : Predicate) :
    predicate (p.withConnective k) = predicate p := by
  cases p <;> simp only [Predicate.withConnective, predicate]

/-- What a text shares with the list of predicates that it is the text of. -/
structure Shows (v : ℕ → Truth) (i j : ℕ) (s : List Char) (b : Truth) (ps : List Predicate) :
    Prop where
  text : s = (predicates ps).toList
  count : j = i + leafCounts ps
  value : b = (truths Row.byPrecedence v i ps).byPrecedence

/-- Two lists with a connective between them show what their texts show with its word between them.
-/
lemma Shows.append {i j l : ℕ} {s t : List Char} {b c d : Truth} {p q : Predicate}
    {ps qs : List Predicate} (k : Connective) (hs : Shows v i j s b (p :: ps))
    (ht : Shows v j l t c (q :: qs))
    (hd : d = Row.conjoin (p.truth Row.byPrecedence v i)
      (truths Row.byPrecedence v (i + p.leafCount) ps ++
        (k, q.truth Row.byPrecedence v j) :: truths Row.byPrecedence v (j + q.leafCount) qs)) :
    Shows v i l (s ++ ((" " ++ k.keyword ++ " ").toList ++ t)) d
      (p :: (ps ++ q.withConnective (some k) :: qs)) := by
  have hj : i + p.leafCount + leafCounts ps = j := by rw [hs.count, leafCounts, Nat.add_assoc]
  constructor
  · rw [hs.text, ht.text, predicates, predicates, predicates, continued_append]
    simp only [String.toList_append, toList_continued_cons, Predicate.link_withConnective,
      predicate_withConnective, List.append_assoc]
  · simp only [ht.count, ← hj, leafCounts, Predicate.leafCounts_append,
      Predicate.leafCount_withConnective]
    omega
  · rw [hd, truths, Row.byPrecedence, Predicate.truths_append, hj, truths,
      Predicate.link_withConnective, Predicate.truth_withConnective,
      Predicate.leafCount_withConnective]

mutual
lemma exists_of_condition : ∀ {i j : ℕ} {s : List Char} {b : Truth}, Condition v i j s b →
    ∃ p, Shows v i j s b [p]
  | _, _, _, _, .test i a t => by
    refine ⟨.leaf none a t, ?_, rfl, rfl⟩
    simp [predicates, predicate, continued]
  | _, _, _, _, .group h => by
    obtain ⟨p, ps, hps⟩ := exists_of_disjunction h
    refine ⟨.group none false (p :: ps), ?_, hps.count, hps.value⟩
    rw [hps.text]
    simp [predicates, predicate, continued, not]
  | _, _, _, _, .negated h => by
    obtain ⟨p, ps, hps⟩ := exists_of_disjunction h
    refine ⟨.group none true (p :: ps), ?_, hps.count, ?_⟩
    · rw [hps.text]
      simp [predicates, predicate, continued, not]
    · rw [hps.value]
      rfl

lemma exists_of_conjunction : ∀ {i j : ℕ} {s : List Char} {b : Truth}, Conjunction v i j s b →
    ∃ p ps, Shows v i j s b (p :: ps) ∧ ∀ q ∈ ps, q.link = .and
  | _, _, _, _, .one h => by
    obtain ⟨p, hp⟩ := exists_of_condition h
    exact ⟨p, [], hp, by simp⟩
  | i, _, _, _, .and h h' => by
    obtain ⟨p, ps, hps, hand⟩ := exists_of_conjunction h
    obtain ⟨q, hq⟩ := exists_of_condition h'
    refine ⟨p, ps ++ [q.withConnective (some .and)], hps.append .and hq ?_, ?_⟩
    · have hkeys := Predicate.forall_mem_truths_fst Row.byPrecedence v (P := (· = .and))
        (i := i + p.leafCount) hand
      rw [hps.value, hq.value]
      exact (Row.conjoin_append_and hkeys _ _).symm
    · rw [List.forall_mem_append, List.forall_mem_singleton]
      exact ⟨hand, Predicate.link_withConnective _ _⟩

lemma exists_of_disjunction : ∀ {i j : ℕ} {s : List Char} {b : Truth}, Disjunction v i j s b →
    ∃ p ps, Shows v i j s b (p :: ps)
  | _, _, _, _, .one h => by
    obtain ⟨p, ps, hps, -⟩ := exists_of_conjunction h
    exact ⟨p, ps, hps⟩
  | _, _, _, _, .or h h' => by
    obtain ⟨p, ps, hps⟩ := exists_of_disjunction h
    obtain ⟨q, qs, hqs, -⟩ := exists_of_conjunction h'
    refine ⟨p, ps ++ q.withConnective (some .or) :: qs, hps.append .or hqs ?_⟩
    rw [hps.value, hqs.value]
    exact (Row.conjoin_append_or _ _ _ _).symm
end

mutual
lemma truth_shown (k : Option Connective) : ∀ (p : Predicate) (i : ℕ),
    (p.shown k).truth Row.byPrecedence v i = p.truth Row.byPrecedence v i ∧
      (p.shown k).leafCount = p.leafCount
  | .leaf _ _ _, _ => ⟨rfl, rfl⟩
  | .group _ negated children, i => by
    obtain ⟨hvalue, hcount⟩ := truths_shownAll children i
    simp only [shown, truth, leafCount, hvalue, hcount, and_self]

/-- What a list does not show changes neither its truth value nor the number of its leaves. -/
lemma truths_shownAll : ∀ (ps : List Predicate) (i : ℕ),
    (truths Row.byPrecedence v i (shownAll ps)).byPrecedence =
        (truths Row.byPrecedence v i ps).byPrecedence ∧
      leafCounts (shownAll ps) = leafCounts ps
  | [], _ => ⟨rfl, rfl⟩
  | p :: ps, i => by
    obtain ⟨hp, hcount⟩ := truth_shown none p i
    obtain ⟨hps, hcounts⟩ := truths_shownRest ps (i + p.leafCount)
    simp only [shownAll, truths, leafCounts, Row.byPrecedence, hp, hcount, hps, hcounts, and_self]

lemma truths_shownRest : ∀ (ps : List Predicate) (i : ℕ),
    truths Row.byPrecedence v i (shownRest ps) = truths Row.byPrecedence v i ps ∧
      leafCounts (shownRest ps) = leafCounts ps
  | [], _ => ⟨rfl, rfl⟩
  | p :: ps, i => by
    obtain ⟨hp, hcount⟩ := truth_shown (some p.link) p i
    obtain ⟨hps, hcounts⟩ := truths_shownRest ps (i + p.leafCount)
    have hlink : (p.shown (some p.link)).link = p.link := by
      rw [link, Predicate.connective_shown, Option.getD_some]
    change truths Row.byPrecedence v i (p.shown (some p.link) :: shownRest ps) = _ ∧
      leafCounts (p.shown (some p.link) :: shownRest ps) = _
    simp only [truths, leafCounts, hlink, hp, hcount, hps, hcounts, and_self]
end

end Uniqueness

/-- The text of a list can be read in one way, and its value is the one by precedence. -/
lemma reads_iff (v : ℕ → Truth) {ps : List Predicate} (h : EveryLevel (· ≠ []) ps) (b : Truth) :
    Reads v (predicates ps) b ↔ b = meaning Row.byPrecedence v ps := by
  constructor
  · rintro ⟨j, hread⟩
    obtain ⟨q, qs, hqs⟩ := exists_of_disjunction hread
    have htext : (predicates ps).toList ++ [] = (predicates (q :: qs)).toList ++ [] := by
      rw [hqs.text]
    obtain ⟨hshown, -⟩ := predicates_append_inj ps (q :: qs) (.inl rfl) (.inl rfl) htext
    rw [hqs.value, ← (truths_shownAll (q :: qs) 0).1, ← hshown, (truths_shownAll ps 0).1, meaning]
  · rintro rfl
    exact ⟨_, disjunction_predicates ps 0 h.1 h.2⟩

/-- A list in which no `OR` comes before an `AND` at any level means what its text says, whatever
the truth values of its tests are. A flat list in which one does has a text that says something else:
for some truth values of its tests the text holds and the list fails. -/
theorem reads_predicates_leftToRight :
    (∀ ps, EveryLevel (· ≠ []) ps → EveryLevel OrsLast ps → ∀ v b,
      Reads v (predicates ps) b ↔ b = meaning Row.leftToRight v ps) ∧
    (∀ ps, (∀ p ∈ ps, p.attribute?.isSome) → ¬OrsLast ps → ∃ v, (∀ n, v n ≠ .unknown) ∧
      (∀ b, Reads v (predicates ps) b ↔ b = .holds) ∧
      meaning Row.leftToRight v ps = .fails) := by
  constructor
  · intro ps hne hor v b
    rw [reads_iff v hne, Predicate.leftToRight_eq_byPrecedence v hor]
  · intro ps hflat hor
    obtain ⟨m, hleft, hprecedence⟩ := Predicate.exists_leftToRight_ne hor
    have hne : EveryLevel (· ≠ []) ps := by
      refine ⟨?_, Predicate.belowAll_of_flat hflat _⟩
      rintro rfl
      exact hor List.Pairwise.nil
    refine ⟨Predicate.holdsUpTo m, Predicate.holdsUpTo_ne_unknown m, fun b => ?_, ?_⟩
    · rw [reads_iff _ hne, meaning, Predicate.truths_eq_judged hflat, hprecedence]
    · rw [meaning, Predicate.truths_eq_judged hflat, hleft]

/-- The first text has an `or` only behind an `and` and inside its group. In the second one the `or`
comes first, and its three tests are the same. -/
theorem reads_predicates_or_last :
    Reads (fun n => if n = 1 then .fails else .holds)
        "\"a\" = 'x' and not (\"b\" is null or \"c\" < 3) or \"d\" between 1 and 2" .holds ∧
      ∃ v, (∀ n, v n ≠ .unknown) ∧
        (∀ b, Reads v "\"a\" is null or \"a\" is null and \"a\" is null" b ↔ b = .holds) ∧
        meaning Row.leftToRight v [.leaf none "a" (.isNull false),
          .leaf (some .or) "a" (.isNull false), .leaf none "a" (.isNull false)] = .fails := by
  constructor
  · exact (reads_predicates_leftToRight.1
      [.leaf none "a" (.comparison .eq (.text "x") false),
        .group (some .and) true [.leaf none "b" (.isNull false),
          .leaf (some .or) "c" (.comparison .lt (.integer 3) false)],
        .leaf (some .or) "d" (.range 1 2 false)]
      (by simp [EveryLevel, BelowAll, Below])
      (by simp [EveryLevel, BelowAll, Below, OrsLast, Predicate.connective]) _ _).2 (by decide)
  · exact reads_predicates_leftToRight.2 [.leaf none "a" (.isNull false),
      .leaf (some .or) "a" (.isNull false), .leaf none "a" (.isNull false)] (by decide)
      (by simp [OrsLast, Predicate.connective])

end FacetSearch.Sql
