import FacetSearch.Proofs.AllowList.Pruning
import FacetSearch.Proofs.Filter.Enclosed
import FacetSearch.Proofs.Filter.Lexemes
import FacetSearch.Proofs.Filter.Negation

/-! Parentheses around several statements: the group they make has the same predicates as the filter
has without them, but for the groups inside it, which are dropped. -/
namespace FacetSearch

/-- The predicates outside the groups of a list. The first one left has no connective. -/
def Predicate.ungrouped (ps : List Predicate) : List Predicate :=
  headed none (ps.filter fun q => q.attribute?.isSome)

namespace Filter
open Unicode

section Children

lemma admittedStatement?_ungrouped (p : Policy) (grouped : List Token → List Predicate)
    (s : Statement) : admittedStatement? p (fun _ => []) s =
      (admittedStatement? p grouped s).filter fun q => q.attribute?.isSome := by
  unfold admittedStatement?
  cases s.body with
  | leaf ts =>
    simp only [admittedLeaf?]
    cases Clause.ofTokens? ts with
    | none => rfl
    | some c =>
      simp only [Option.bind_some]
      split <;> rfl
  | group ts =>
    change none = (admittedGroup? s (grouped ts)).filter _
    unfold admittedGroup?
    split <;> rfl

/-- The tokens of a group are read as those of a whole filter, whose groups are dropped then. -/
lemma admittedChildren_eq_ungrouped (p : Policy) (grouped : List Token → List Predicate)
    (ts : List Token) :
    admittedChildren p ts = Predicate.ungrouped (admittedSequence p grouped ts) := by
  have hleaf (k : Option Connective) (q : Predicate) :
      (q.withConnective k).attribute?.isSome = q.attribute?.isSome := by
    rw [Predicate.attribute?_withConnective]
  rw [Predicate.ungrouped, admittedSequence, Predicate.headed_filter_headed hleaf,
    List.filter_filterMap, admittedChildren, admittedSequence]
  congr 2
  funext s
  exact admittedStatement?_ungrouped p grouped s

lemma compile_permissive_of_group {p : Policy} {negated : Bool} {t u : String}
    (h : statements (tidy (scan u)) = [⟨none, negated, .group (tidy (scan t))⟩]) :
    compile ⟨p, .permissive⟩ u =
      .ok (if (Predicate.ungrouped (admitted p t)).isEmpty then []
        else [.group none negated (Predicate.ungrouped (admitted p t))]) := by
  rw [compile_of_group h, children_eq_grant, Guard.grant_permissive,
    admittedChildren_eq_ungrouped p (admittedChildren p), ← admitted]
  rfl

end Children

section Negated

variable {keyword gap : String} (hkeyword : Text.equalsIgnoringCase keyword.toList "not".toList)
include hkeyword

lemma ofWord_negation : Token.ofWord keyword.toList = .negation := by
  have hand : ¬Text.equalsIgnoringCase keyword.toList ['a', 'n', 'd'] := by
    rw [Text.equalsIgnoringCase_congr hkeyword]
    decide
  have hor : ¬Text.equalsIgnoringCase keyword.toList ['o', 'r'] := by
    rw [Text.equalsIgnoringCase_congr hkeyword]
    decide
  rw [Token.ofWord, if_neg hand, if_neg hor]
  exact if_pos hkeyword

/-- A `NOT` may stand right before what ends a word. -/
lemma scan_negation (hgap : gap.toList.all isBlank) {u : String} (hu : Cuts u.toList) :
    scan (keyword ++ gap ++ u) = .negation :: scan u := by
  have hletters : ∀ c ∈ keyword.toList, c.isAlpha :=
    Text.isAlpha_of_equalsIgnoringCase hkeyword (List.all_eq_true.1 (by decide))
  have hplain : ∀ c ∈ keyword.toList, IsPlain c :=
    fun c hc => .of_isNameChar (isNameChar_of_isAlpha (hletters c hc))
  have hne : keyword.toList ≠ [] := by
    intro hnil
    rw [hnil] at hkeyword
    cases hkeyword
  have hcuts : Cuts (gap.toList ++ u.toList) := cuts_blanks hgap fun _ => hu
  rw [scan, String.toList_append, String.toList_append, List.append_assoc,
    scanAfter_plainWord hne hplain hcuts.spanWord_eq, ofWord_negation hkeyword,
    scanAfter_blanks hgap, scan]

end Negated

lemma isBody_enclosed {ts : List Token} (h : Balanced ts) :
    IsBody (.opening :: (ts ++ [.closing])) :=
  ⟨by simp, by simp, h.enclosed.fragments_eq (h.hasOuterConnective_pair .nil)⟩

/-- In permissive mode the parentheses around a filter make one group of all its predicates that are
no groups themselves, and a `NOT` in front negates the group. -/
theorem compile_grouped (p : Policy) {t keyword gap : String} (hquotes : QuotesClosed t.toList)
    (hparens : Balanced (scan t)) (hk : hasOuterConnective (tidy (scan t)))
    (hkeyword : Text.equalsIgnoringCase keyword.toList "not".toList)
    (hgap : gap.toList.all isBlank) :
    ∃ all, compile ⟨p, .permissive⟩ t = .ok all ∧
      let ps := Predicate.ungrouped all
      compile ⟨p, .permissive⟩ (enclosed t) =
          .ok (if ps.isEmpty then [] else [.group none false ps]) ∧
        compile ⟨p, .permissive⟩ (keyword ++ gap ++ enclosed t) =
          .ok (if ps.isEmpty then [] else [.group none true ps]) := by
  have hne : tidy (scan t) ≠ [] := by
    intro hnil
    rw [hnil] at hk
    cases hk
  have htidy := tidy_scan_enclosed hquotes hparens hne
  have hbalanced := balanced_tidy hparens
  have hbody := isBody_enclosed hbalanced
  have hgroup := hbalanced.body_enclosed
  rw [if_pos hk] at hgroup
  have hcuts : Cuts (enclosed t).toList := by
    rw [toList_enclosed]
    exact cuts_cons (by decide) _
  have hplain : statements (tidy (scan (enclosed t))) =
      [⟨none, false, .group (tidy (scan t))⟩] := by
    rw [htidy, hbody.statements_eq, hgroup]
  have hnegated : statements (tidy (scan (keyword ++ gap ++ enclosed t))) =
      [⟨none, true, .group (tidy (scan t))⟩] := by
    rw [scan_negation hkeyword hgap hcuts, tidy_negation, htidy, hbody.statements_negation, hgroup]
  exact ⟨admitted p t, by rw [compile_eq_grant, Guard.grant_permissive],
    compile_permissive_of_group hplain, compile_permissive_of_group hnegated⟩

/-- Neither a group nor a statement that is dropped comes first in the group. -/
theorem compile_grouped_inner :
    QuotesClosed "color or (b:1 or c:2) and x:5 or b:\"(\" and not c:3".toList ∧
    compile ⟨{ isFilterable := fun a => ["b", "c"].contains a }, .permissive⟩
        (enclosed "color or (b:1 or c:2) and x:5 or b:\"(\" and not c:3") =
      .ok [.group none false [.leaf none "b" (.comparison .eq (.text "(") false),
        .leaf (some .and) "c" (.comparison .ne (.text "3") true)]] ∧
    compile ⟨{ isFilterable := fun a => ["b", "c"].contains a }, .permissive⟩
        ("nOT" ++ " \t" ++ enclosed "color or (b:1 or c:2) and x:5 or b:\"(\" and not c:3") =
      .ok [.group none true [.leaf none "b" (.comparison .eq (.text "(") false),
        .leaf (some .and) "c" (.comparison .ne (.text "3") true)]] := by
  let front : List Token := [.word "color", .connective .or]
  let inner : List Token :=
    [.word "b", .colon, .word "1", .connective .or, .word "c", .colon, .word "2"]
  let back : List Token := [.connective .and, .word "x", .colon, .word "5", .connective .or,
    .word "b", .colon, .quoted "(", .connective .and, .negation, .word "c", .colon, .word "3"]
  have hscan : scan "color or (b:1 or c:2) and x:5 or b:\"(\" and not c:3" =
      front ++ Token.opening :: (inner ++ Token.closing :: back) := by
    decide +kernel
  have hparens : Balanced (scan "color or (b:1 or c:2) and x:5 or b:\"(\" and not c:3") := by
    have hpair : Balanced (.opening :: (inner ++ .closing :: back)) :=
      .pair (.of_forall (by decide)) (.of_forall (by decide))
    rw [hscan]
    exact Balanced.append (.of_forall (by decide)) hpair
  have hkeyword : Text.equalsIgnoringCase "nOT".toList "not".toList := by decide
  have hgap : " \t".toList.all isBlank := by decide
  obtain ⟨all, hall, hplain, hnegated⟩ := compile_grouped
    { isFilterable := fun a => ["b", "c"].contains a } (by decide) hparens (by decide +kernel)
    hkeyword hgap
  have hfilter : compile ⟨{ isFilterable := fun a => ["b", "c"].contains a }, .permissive⟩
      "color or (b:1 or c:2) and x:5 or b:\"(\" and not c:3" =
        .ok [.group none false [.leaf none "b" (.comparison .eq (.text "1") false),
            .leaf (some .or) "c" (.comparison .eq (.text "2") false)],
          .leaf (some .or) "b" (.comparison .eq (.text "(") false),
          .leaf (some .and) "c" (.comparison .ne (.text "3") true)] := by
    decide +kernel
  cases hall.symm.trans hfilter
  exact ⟨by decide, hplain, hnegated⟩

end Filter
end FacetSearch
