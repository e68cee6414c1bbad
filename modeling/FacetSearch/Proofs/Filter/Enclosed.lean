import FacetSearch.Filter.Predicates
import FacetSearch.Proofs.Filter.Balanced
import FacetSearch.Proofs.Filter.Scan
import Mathlib.Logic.Function.Iterate

/-! Parentheses around a whole filter: they change nothing unless a `NOT` or a connective stands
directly inside them. -/
namespace FacetSearch.Filter

/-- A filter expression in a pair of parentheses. -/
def enclosed (t : String) : String := "(" ++ t ++ ")"

lemma toList_enclosed (t : String) : (enclosed t).toList = '(' :: (t.toList ++ [')']) := by
  simp [enclosed]

section Tokens

variable {t : String}

lemma quotesClosed_enclosed (h : QuotesClosed t.toList) : QuotesClosed (enclosed t).toList := by
  have hmark : '(' ≠ '"' := by decide
  rw [toList_enclosed, quotesClosed_cons_iff hmark]
  exact h.append rfl

lemma scan_enclosed (h : QuotesClosed t.toList) :
    scan (enclosed t) = .opening :: (scan t ++ [.closing]) := by
  have hopening : ¬Unicode.isBlank '(' := by decide
  have hclosing : ¬Unicode.isBlank ')' := by decide
  have hcuts : Cuts [')'] := cuts_cons (by decide) []
  rw [scan, toList_enclosed, scanAfter_mark hopening rfl]
  change Token.opening :: scanAfter false (t.toList ++ [')']) = _
  rw [scanAfter_append false h hcuts, scanAfter_mark hclosing rfl, scanAfter_nil, scan]

lemma balanced_scan_enclosed (hq : QuotesClosed t.toList) (hb : Balanced (scan t)) :
    Balanced (scan (enclosed t)) := by
  rw [scan_enclosed hq]
  exact hb.enclosed

lemma balanced_tidy (h : Balanced (scan t)) : Balanced (tidy (scan t)) := by
  rw [h.tidy_eq]
  exact h.dropEmptyPairs

/-- The pair stays unless the text comes to nothing. -/
lemma tidy_scan_enclosed (hq : QuotesClosed t.toList) (hb : Balanced (scan t))
    (hne : tidy (scan t) ≠ []) :
    tidy (scan (enclosed t)) = .opening :: (tidy (scan t) ++ [.closing]) := by
  rw [hb.tidy_eq] at hne ⊢
  rw [(balanced_scan_enclosed hq hb).tidy_eq, scan_enclosed hq, hb.dropEmptyPairs_pair, if_neg hne,
    dropEmptyPairs_nil]

end Tokens

section Statements

variable {ts : List Token} {s : Statement}

lemma Statement.eq_of_ofFragment? {k : Option Connective}
    (h : Statement.ofFragment? (k, ts) = some s) (hs : s.negated = false) :
    s = ⟨k, false, .ofTokens ts⟩ := by
  unfold Statement.ofFragment? at h
  split at h
  · cases h
  · cases h
  · cases h
    cases hs
  · next heq =>
    cases heq
    cases h
    rfl

/-- Tokens without a connective outside their pairs are a single fragment. -/
lemma statements_of_not_outer (h : Balanced ts) (hk : hasOuterConnective ts = false) :
    statements ts = Statement.leading (Statement.ofFragment? (none, ts)).toList := by
  rw [statements, h.fragments_eq hk]
  cases hs : Statement.ofFragment? (none, ts) with
  | none => simp [hs]
  | some s => simp [hs]

lemma statements_enclosed (h : Balanced ts) :
    statements (.opening :: (ts ++ [.closing])) =
      [⟨none, false, if hasOuterConnective ts then .group ts else .ofTokens ts⟩] := by
  have hk : hasOuterConnective (.opening :: (ts ++ [.closing])) = false :=
    h.hasOuterConnective_pair .nil
  rw [statements_of_not_outer h.enclosed hk, Statement.ofFragment?_of_ne (by simp) (by simp),
    h.body_enclosed]
  rfl

lemma eq_of_statements_eq_singleton (h : Balanced ts) (hk : hasOuterConnective ts = false)
    (hone : statements ts = [s]) (hs : s.negated = false) : s = ⟨none, false, .ofTokens ts⟩ := by
  rw [statements_of_not_outer h hk] at hone
  cases hf : Statement.ofFragment? (none, ts) with
  | none =>
    rw [hf] at hone
    cases hone
  | some s' =>
    rw [hf] at hone
    cases hone
    cases Statement.eq_of_ofFragment? hf hs
    rfl

end Statements

section Compile

variable {t : String}

/-- All pairs of parentheses around a text but the innermost one are opened. -/
lemma statements_tidy_scan_enclosed (hq : QuotesClosed t.toList) (hb : Balanced (scan t))
    (hne : tidy (scan t) ≠ []) (n : ℕ) :
    statements (tidy (scan (enclosed^[n + 1] t))) =
      [⟨none, false, if hasOuterConnective (tidy (scan t)) then .group (tidy (scan t))
        else .ofTokens (tidy (scan t))⟩] := by
  have htidy := tidy_scan_enclosed hq hb hne
  have hbalanced := balanced_tidy hb
  -- The text is general in the induction: under the outer pairs stands the text in one pair, which
  -- has no connective outside it, so that its pair is opened.
  induction n generalizing t with
  | zero =>
    rw [Function.iterate_one, htidy]
    exact statements_enclosed hbalanced
  | succ n ih =>
    have hne' : tidy (scan (enclosed t)) ≠ [] := by
      rw [htidy]
      exact List.cons_ne_nil _ _
    have hb' := balanced_scan_enclosed hq hb
    have hk : hasOuterConnective (tidy (scan (enclosed t))) = false := by
      rw [htidy]
      exact hbalanced.hasOuterConnective_pair .nil
    rw [Function.iterate_succ_apply, ih (quotesClosed_enclosed hq) hb' hne'
      (tidy_scan_enclosed (quotesClosed_enclosed hq) hb' hne') (balanced_tidy hb'), hk, htidy]
    simp [hbalanced.body_enclosed]

lemma compile_of_statements {g : Guard} {u : String}
    (h : statements (tidy (scan t)) = statements (tidy (scan u))) : compile g t = compile g u := by
  rw [compile, compile, predicates, sequence, sequence, h]

lemma compile_of_group {g : Guard} {negated : Bool} {ts : List Token}
    (h : statements (tidy (scan t)) = [⟨none, negated, .group ts⟩]) :
    compile g t =
      (children g ts).map fun ps => if ps.isEmpty then [] else [.group none negated ps] := by
  rw [compile, predicates, sequence, h, List.filterMapM_cons, predicate?]
  dsimp only
  cases hc : children g ts with
  | error e => rfl
  | ok ps => cases ps <;> rfl

/-- Parentheses around a single statement, however many, change nothing about it if neither a `NOT`
nor a connective stands directly inside them. Around a connective that joins nothing they make a
group of the one statement. -/
theorem compile_enclosed {t : String} {s : Statement} (g : Guard) {n : ℕ} (hn : 0 < n)
    (hquotes : QuotesClosed t.toList) (hparens : Balanced (scan t))
    (hone : statements (tidy (scan t)) = [s]) :
    (hasOuterConnective (tidy (scan t)) = false → s.negated = false →
      compile g (enclosed^[n] t) = compile g t) ∧
    (hasOuterConnective (tidy (scan t)) →
      compile g (enclosed^[n] t) = (children g (tidy (scan t))).map
        fun ps => if ps.isEmpty then [] else [.group none false ps]) := by
  obtain ⟨m, rfl⟩ := Nat.exists_eq_add_one.2 hn
  have hne : tidy (scan t) ≠ [] := by
    intro h
    rw [h] at hone
    cases hone
  have henclosed := statements_tidy_scan_enclosed hquotes hparens hne m
  constructor
  · intro hk hs
    apply compile_of_statements
    rw [henclosed, hk, hone, eq_of_statements_eq_singleton (balanced_tidy hparens) hk hone hs]
    rfl
  · intro hk
    rw [if_pos hk] at henclosed
    exact compile_of_group henclosed

theorem compile_enclosed_twice :
    compile ⟨{ isFilterable := fun _ => true }, .strict⟩ (enclosed^[2] "(a:1 or b:2)") =
        compile ⟨{ isFilterable := fun _ => true }, .strict⟩ "(a:1 or b:2)" ∧
      compile ⟨{ isFilterable := fun _ => true }, .strict⟩ (enclosed^[2] "and a:1") =
        .ok [.group none false [.leaf none "a" (.comparison .eq (.text "1") false)]] := by
  have hinner : Balanced
      [.word "a", .colon, .word "1", .connective .or, .word "b", .colon, .word "2"] :=
    .of_forall (by decide)
  have hgroup : scan "(a:1 or b:2)" = .opening :: ([.word "a", .colon, .word "1", .connective .or,
      .word "b", .colon, .word "2"] ++ [.closing]) := by
    decide +kernel
  have hstray : scan "and a:1" = [.connective .and, .word "a", .colon, .word "1"] := by
    decide +kernel
  constructor
  · refine (compile_enclosed (s := ⟨none, false, .group [.word "a", .colon, .word "1",
      .connective .or, .word "b", .colon, .word "2"]⟩) _ (by decide) (by decide) ?_ ?_).1 ?_ rfl
    · rw [hgroup]
      exact hinner.enclosed
    · decide +kernel
    · decide +kernel
  · refine ((compile_enclosed (s := ⟨none, false, .leaf [.word "a", .colon, .word "1"]⟩) _
      (by decide) (by decide) ?_ ?_).2 ?_).trans ?_
    · rw [hstray]
      exact .of_forall (by decide)
    · decide +kernel
    · decide +kernel
    · decide +kernel

/-- A `NOT` inside the parentheses leaves no predicate at all, and a connective makes a group. -/
theorem compile_enclosed_ne :
    (QuotesClosed "NOT make:Nissan".toList ∧ Balanced (scan "NOT make:Nissan") ∧
      (statements (tidy (scan "NOT make:Nissan"))).length = 1 ∧
      compile ⟨{ isFilterable := fun _ => true }, .strict⟩ (enclosed^[1] "NOT make:Nissan") ≠
        compile ⟨{ isFilterable := fun _ => true }, .strict⟩ "NOT make:Nissan") ∧
    (QuotesClosed "and make:Nissan".toList ∧ Balanced (scan "and make:Nissan") ∧
      (statements (tidy (scan "and make:Nissan"))).length = 1 ∧
      compile ⟨{ isFilterable := fun _ => true }, .strict⟩ (enclosed^[1] "and make:Nissan") ≠
        compile ⟨{ isFilterable := fun _ => true }, .strict⟩ "and make:Nissan") := by
  have hnot : scan "NOT make:Nissan" = [.negation, .word "make", .colon, .word "Nissan"] := by
    decide +kernel
  have hand : scan "and make:Nissan" =
      [.connective .and, .word "make", .colon, .word "Nissan"] := by
    decide +kernel
  refine ⟨⟨by decide, ?_, by decide +kernel, by decide +kernel⟩,
    ⟨by decide, ?_, by decide +kernel, by decide +kernel⟩⟩
  · rw [hnot]
    exact .of_forall (by decide)
  · rw [hand]
    exact .of_forall (by decide)

end Compile
end FacetSearch.Filter
