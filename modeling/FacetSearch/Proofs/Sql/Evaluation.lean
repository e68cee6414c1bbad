import FacetSearch.Proofs.Meaning.Record
import FacetSearch.Proofs.Sql.Precedence

/-! The text of a predicate list as SQL evaluates it in a record: its tests by their words, and what
joins them with `AND` binding tighter than `OR`. -/
namespace FacetSearch.Sql
open Predicate (verdict verdicts link Below BelowAll EveryLevel shown shownAll shownRest)

section Grammar

variable [LinearOrder Value] (r : Record)

/-- Texts that are one test, with their truth values. -/
inductive Atom : List Char → Truth → Prop
  | comparison (a : String) (op : Operator) (v : Value) :
    Atom (identifier a ++ " " ++ op.symbol ++ " " ++ value v).toList (r.ask a (op.admits · v))
  | between (a : String) (low high : Int64) :
    Atom (identifier a ++ " between " ++ toString low.toInt ++ " and " ++
      toString high.toInt).toList (r.ask a (Value.isBetween low high))
  | notBetween (a : String) (low high : Int64) :
    Atom (identifier a ++ " not between " ++ toString low.toInt ++ " and " ++
      toString high.toInt).toList (r.ask a (Value.isBetween low high)).not
  | oneOf (a : String) (vs : List String) :
    Atom (identifier a ++ " in (" ++ ", ".intercalate (vs.map string) ++ ")").toList
      (r.ask a (Value.isOneOf vs))
  | noneOf (a : String) (vs : List String) :
    Atom (identifier a ++ " not in (" ++ ", ".intercalate (vs.map string) ++ ")").toList
      (r.ask a (Value.isOneOf vs)).not
  | null (a : String) : Atom (identifier a ++ " is null").toList (.ofBool (r.value? a).isNone)
  | notNull (a : String) :
    Atom (identifier a ++ " is not null").toList (.ofBool (r.value? a).isSome)
  | contains (a : String) (vs : List String) :
    Atom (identifier a ++ " @> " ++ string (Json.array (vs.map .string)).compact).toList
      (r.contains a vs)

mutual
/-- Texts that are one test, or any expression in parentheses. -/
inductive Factor : List Char → Truth → Prop
  | atom {s : List Char} {b : Truth} : Atom r s b → Factor s b
  | group {s : List Char} {b : Truth} : Expression s b → Factor ('(' :: (s ++ [')'])) b
  | negated {s : List Char} {b : Truth} : Expression s b →
    Factor ("not (".toList ++ (s ++ [')'])) b.not

/-- Texts that are factors with `and` between them. -/
inductive Term : List Char → Truth → Prop
  | one {s : List Char} {b : Truth} : Factor s b → Term s b
  | and {s t : List Char} {b c : Truth} : Term s b → Factor t c →
    Term (s ++ (" and ".toList ++ t)) (b.and c)

/-- Texts that are terms with `or` between them. -/
inductive Expression : List Char → Truth → Prop
  | one {s : List Char} {b : Truth} : Term s b → Expression s b
  | or {s t : List Char} {b c : Truth} : Expression s b → Term t c →
    Expression (s ++ (" or ".toList ++ t)) (b.or c)
end

/-- Whether SQL gives a text the truth value in a record. -/
def Evaluates (s : String) (b : Truth) : Prop := Expression r s.toList b

end Grammar

variable [LinearOrder Value] {r : Record}

section Existence

lemma atom_test (a : String) (t : Test) : Atom r (test a t).toList (t.verdict r a) := by
  cases t with
  | comparison op v negated => exact .comparison a op v
  | range low high negated =>
    cases negated with
    | false => simpa [test, not, Test.verdict] using Atom.between (r := r) a low high
    | true => simpa [test, not, Test.verdict] using Atom.notBetween (r := r) a low high
  | inList vs negated =>
    cases negated with
    | false => simpa [test, not, Test.verdict] using Atom.oneOf (r := r) a vs
    | true => simpa [test, not, Test.verdict] using Atom.noneOf (r := r) a vs
  | isNull negated =>
    cases negated with
    | false => simpa [test, not, Test.verdict] using Atom.null (r := r) a
    | true => simpa [test, not, Test.verdict] using Atom.notNull (r := r) a
  | arrayContains vs => exact .contains a vs

/-- An expression may start with one more term. -/
lemma Expression.cons {s t : List Char} {b c : Truth} (hs : Term r s b) :
    Expression r t c → Expression r (s ++ (" or ".toList ++ t)) (b.or c)
  | .one ht => .or (.one hs) ht
  | .or (s := t₁) (t := t₂) (b := c₁) (c := c₂) h₁ h₂ => by
    have h := Expression.or (Expression.cons hs h₁) h₂
    rw [show (b.or c₁).or c₂ = b.or (c₁.or c₂) from Connective.or.join_assoc b c₁ c₂] at h
    simpa only [List.append_assoc] using h

mutual
lemma factor_predicate : ∀ p : Predicate, p.Below (· ≠ []) →
    Factor r (predicate p).toList (p.verdict r Row.byPrecedence)
  | .leaf _ a t, _ => by
    simpa only [predicate, verdict] using Factor.atom (atom_test a t)
  | .group _ negated children, h => by
    have hchildren := expression_predicates children h.1 h.2
    cases negated with
    | false => simpa [predicate, verdict, not] using Factor.group hchildren
    | true => simpa [predicate, verdict, not] using Factor.negated hchildren

lemma expression_predicates : ∀ ps : List Predicate, ps ≠ [] → BelowAll (· ≠ []) ps →
    Expression r (predicates ps).toList (verdicts r Row.byPrecedence ps).byPrecedence
  | [], h, _ => absurd rfl h
  | p :: ps, _, h => by
    have hp := factor_predicate p h.1
    rw [predicates, String.toList_append]
    exact expression_continued ps (Term.one hp) h.2

/-- The term before a list goes on in it up to the first `or`. -/
lemma expression_continued : ∀ (ps : List Predicate) {s : List Char} {b : Truth},
    Term r s b → BelowAll (· ≠ []) ps →
    Expression r (s ++ (continued ps).toList)
      (Row.conjoin b (verdicts r Row.byPrecedence ps))
  | [], _, _, hs, _ => by
    simpa [continued, verdicts, Row.conjoin] using Expression.one hs
  | p :: ps, s, b, hs, h => by
    have hp := factor_predicate p h.1
    rw [toList_continued_cons, verdicts]
    cases hk : p.link with
    | and =>
      have hps := expression_continued ps (hs.and hp) h.2
      simpa [Connective.keyword, Row.conjoin] using hps
    | or =>
      have hps := expression_continued ps (.one hp) h.2
      simpa [Connective.keyword, Row.conjoin] using Expression.cons hs hps
end

end Existence

section Uniqueness

lemma exists_of_atom {s : List Char} {b : Truth} (h : Atom r s b) :
    ∃ a t, s = (test a t).toList ∧ b = t.verdict r a := by
  cases h with
  | comparison a op v => exact ⟨a, .comparison op v false, rfl, rfl⟩
  | between a low high => exact ⟨a, .range low high false, by simp [test, not], rfl⟩
  | notBetween a low high => exact ⟨a, .range low high true, by simp [test, not], rfl⟩
  | oneOf a vs => exact ⟨a, .inList vs false, by simp [test, not], rfl⟩
  | noneOf a vs => exact ⟨a, .inList vs true, by simp [test, not], rfl⟩
  | null a => exact ⟨a, .isNull false, by simp [test, not], rfl⟩
  | notNull a =>
    refine ⟨a, .isNull true, by simp [test, not], ?_⟩
    simp [Test.verdict]
  | contains a vs => exact ⟨a, .arrayContains vs, rfl, rfl⟩

/-- What a text shares with the list of predicates that it is the text of. -/
structure Displays (r : Record) (s : List Char) (b : Truth) (ps : List Predicate) : Prop where
  text : s = (predicates ps).toList
  value : b = (verdicts r Row.byPrecedence ps).byPrecedence

/-- Two lists with a connective between them display what their texts do with its word between them.
-/
lemma Displays.append {s t : List Char} {b c d : Truth} {p q : Predicate} {ps qs : List Predicate}
    (k : Connective) (hs : Displays r s b (p :: ps)) (ht : Displays r t c (q :: qs))
    (hd : d = Row.conjoin (p.verdict r Row.byPrecedence) (verdicts r Row.byPrecedence ps ++
      (k, q.verdict r Row.byPrecedence) :: verdicts r Row.byPrecedence qs)) :
    Displays r (s ++ ((" " ++ k.keyword ++ " ").toList ++ t)) d
      (p :: (ps ++ q.withConnective (some k) :: qs)) := by
  constructor
  · rw [hs.text, ht.text, predicates, predicates, predicates, continued_append]
    simp only [String.toList_append, toList_continued_cons, Predicate.link_withConnective,
      predicate_withConnective, List.append_assoc]
  · rw [hd, verdicts, Row.byPrecedence, Predicate.verdicts_append, verdicts,
      Predicate.link_withConnective, Predicate.verdict_withConnective]

mutual
lemma exists_of_factor : ∀ {s : List Char} {b : Truth}, Factor r s b → ∃ p, Displays r s b [p]
  | _, _, .atom h => by
    obtain ⟨a, t, rfl, rfl⟩ := exists_of_atom h
    refine ⟨.leaf none a t, ?_, rfl⟩
    simp [predicates, predicate, continued]
  | _, _, .group h => by
    obtain ⟨p, ps, hps⟩ := exists_of_expression h
    refine ⟨.group none false (p :: ps), ?_, hps.value⟩
    rw [hps.text]
    simp [predicates, predicate, continued, not]
  | _, _, .negated h => by
    obtain ⟨p, ps, hps⟩ := exists_of_expression h
    refine ⟨.group none true (p :: ps), ?_, ?_⟩
    · rw [hps.text]
      simp [predicates, predicate, continued, not]
    · rw [hps.value]
      rfl

lemma exists_of_term : ∀ {s : List Char} {b : Truth}, Term r s b →
    ∃ p ps, Displays r s b (p :: ps) ∧ ∀ q ∈ ps, q.link = .and
  | _, _, .one h => by
    obtain ⟨p, hp⟩ := exists_of_factor h
    exact ⟨p, [], hp, by simp⟩
  | _, _, .and h h' => by
    obtain ⟨p, ps, hps, hand⟩ := exists_of_term h
    obtain ⟨q, hq⟩ := exists_of_factor h'
    refine ⟨p, ps ++ [q.withConnective (some .and)], hps.append .and hq ?_, ?_⟩
    · have hkeys : ∀ c ∈ verdicts r Row.byPrecedence ps, c.1 = .and := by
        have hlinks : ∀ k ∈ (verdicts r Row.byPrecedence ps).map Prod.fst, k = .and := by
          rw [Predicate.map_fst_verdicts]
          exact List.forall_mem_map.2 hand
        exact List.forall_mem_map.1 hlinks
      rw [hps.value, hq.value]
      exact (Row.conjoin_append_and hkeys _ _).symm
    · rw [List.forall_mem_append, List.forall_mem_singleton]
      exact ⟨hand, Predicate.link_withConnective _ _⟩

lemma exists_of_expression : ∀ {s : List Char} {b : Truth}, Expression r s b →
    ∃ p ps, Displays r s b (p :: ps)
  | _, _, .one h => by
    obtain ⟨p, ps, hps, -⟩ := exists_of_term h
    exact ⟨p, ps, hps⟩
  | _, _, .or h h' => by
    obtain ⟨p, ps, hps⟩ := exists_of_expression h
    obtain ⟨q, qs, hqs, -⟩ := exists_of_term h'
    refine ⟨p, ps ++ q.withConnective (some .or) :: qs, hps.append .or hqs ?_⟩
    rw [hps.value, hqs.value]
    exact (Row.conjoin_append_or _ _ _ _).symm
end

lemma verdict_test_shown (a : String) (t : Test) : t.shown.verdict r a = t.verdict r a := by
  cases t <;> rfl

mutual
lemma verdict_shown (k : Option Connective) : ∀ p : Predicate,
    (p.shown k).verdict r Row.byPrecedence = p.verdict r Row.byPrecedence
  | .leaf _ a t => verdict_test_shown a t
  | .group _ negated children => by
    simp only [shown, verdict, verdicts_shownAll children]

/-- What a list does not show does not change its truth value. -/
lemma verdicts_shownAll : ∀ ps : List Predicate,
    (verdicts r Row.byPrecedence (shownAll ps)).byPrecedence =
      (verdicts r Row.byPrecedence ps).byPrecedence
  | [] => rfl
  | p :: ps => by
    simp only [shownAll, verdicts, Row.byPrecedence, verdict_shown none p, verdicts_shownRest ps]

lemma verdicts_shownRest : ∀ ps : List Predicate,
    verdicts r Row.byPrecedence (shownRest ps) = verdicts r Row.byPrecedence ps
  | [] => rfl
  | p :: ps => by
    have hlink : (p.shown (some p.link)).link = p.link := by
      rw [link, Predicate.connective_shown, Option.getD_some]
    change verdicts r Row.byPrecedence (p.shown (some p.link) :: shownRest ps) = _
    simp only [verdicts, hlink, verdict_shown _ p, verdicts_shownRest ps]
end

end Uniqueness

/-- SQL gives the text of a list one truth value, which is that of the list by precedence. -/
lemma evaluates_iff (r : Record) {ps : List Predicate} (h : EveryLevel (· ≠ []) ps) (b : Truth) :
    Evaluates r (predicates ps) b ↔ b = (verdicts r Row.byPrecedence ps).byPrecedence := by
  constructor
  · intro heval
    obtain ⟨q, qs, hqs⟩ := exists_of_expression heval
    have htext : (predicates ps).toList ++ [] = (predicates (q :: qs)).toList ++ [] := by
      rw [hqs.text]
    obtain ⟨hshown, -⟩ := predicates_append_inj ps (q :: qs) (.inl rfl) (.inl rfl) htext
    rw [hqs.value, ← verdicts_shownAll (q :: qs), ← hshown, verdicts_shownAll ps]
  · rintro rfl
    exact expression_predicates ps h.1 h.2

end FacetSearch.Sql
