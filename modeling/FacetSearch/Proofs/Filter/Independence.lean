import FacetSearch.Proofs.Filter.Fragments
import FacetSearch.Proofs.Filter.Enclosed
import FacetSearch.Proofs.Filter.Phrases

/-! The statements of a filter do not influence each other: each fragment adds its predicate or its
error whatever stands around it, and one that adds nothing may as well be missing. -/
namespace FacetSearch.Filter
open Written (connectiveText negationTokens uncut_negationTokens)

section Lists

variable {ε α β γ : Type} {f : α → Except ε (Option β)}

lemma filterMapM_append (f : α → Except ε (Option β)) (xs ys : List α) :
    (xs ++ ys).filterMapM f = do return (← xs.filterMapM f) ++ (← ys.filterMapM f) := by
  induction xs with
  | nil => simp
  | cons x xs ih =>
    rw [List.cons_append, List.filterMapM_cons, List.filterMapM_cons, ih]
    cases f x with
    | error e => rfl
    | ok y =>
      cases y with
      | none => rfl
      | some y => cases xs.filterMapM f <;> cases ys.filterMapM f <;> rfl

lemma filterMapM_filterMap (f : β → Except ε (Option γ)) (h : α → Option β) (xs : List α) :
    (xs.filterMap h).filterMapM f = xs.filterMapM fun x => (h x).elim (.ok none) f := by
  induction xs with
  | nil => rfl
  | cons x xs ih =>
    rw [List.filterMapM_cons]
    cases hx : h x with
    | none =>
      rw [List.filterMap_cons_none hx, ih]
      rfl
    | some y =>
      rw [List.filterMap_cons_some hx, List.filterMapM_cons, ih]
      rfl

/-- Of an item only what it adds matters. -/
lemma filterMapM_middle {x y : α} (h : f x = f y) (xs ys : List α) :
    (xs ++ x :: ys).filterMapM f = (xs ++ y :: ys).filterMapM f := by
  rw [filterMapM_append, filterMapM_append, List.filterMapM_cons, List.filterMapM_cons, h]

end Lists

/-- What a fragment adds to the predicates of a list. -/
def contribution? (g : Guard) (grouped : List Token → Except CompileError (List Predicate))
    (f : Option Connective × List Token) : Except CompileError (Option Predicate) :=
  (Statement.ofFragment? f).elim (.ok none) (predicate? g grouped)

section Contribution

variable {g : Guard} {grouped : List Token → Except CompileError (List Predicate)}

/-- The connective of a statement is that of its predicate and has no other effect. -/
lemma predicate?_withConnective (s : Statement) (k : Option Connective) :
    predicate? g grouped { s with connective := k } =
      (predicate? g grouped s).map (Option.map (Predicate.withConnective k)) := by
  obtain ⟨l, negated, body⟩ := s
  cases body with
  | leaf ts =>
    dsimp only [predicate?, leaf?]
    cases Clause.ofTokens? ts with
    | none => rfl
    | some c =>
      dsimp only
      cases g.check c.name with
      | error e => rfl
      | ok admitted => cases admitted <;> rfl
  | group ts =>
    dsimp only [predicate?]
    cases grouped ts with
    | error e => rfl
    | ok ps => cases ps <;> rfl

lemma ofFragment?_withConnective (k l : Option Connective) (ts : List Token) :
    Statement.ofFragment? (k, ts) =
      (Statement.ofFragment? (l, ts)).map fun s => { s with connective := k } := by
  cases ts with
  | nil => rfl
  | cons t ts =>
    by_cases ht : t = .negation
    · subst ht
      cases ts <;> rfl
    · rw [Statement.ofFragment?_of_ne (by simp) (by simpa using ht),
        Statement.ofFragment?_of_ne (by simp) (by simpa using ht)]
      rfl

lemma contribution?_withConnective (k l : Option Connective) (ts : List Token) :
    contribution? g grouped (k, ts) =
      (contribution? g grouped (l, ts)).map (Option.map (Predicate.withConnective k)) := by
  rw [contribution?, contribution?, ofFragment?_withConnective k l]
  cases Statement.ofFragment? (l, ts) with
  | none => rfl
  | some s => exact predicate?_withConnective s k

/-- The predicates of a list are those of its fragments. -/
lemma sequence_eq (ts : List Token) : sequence g grouped ts =
    ((pieces none ts).filterMapM (contribution? g grouped)).map (Predicate.headed none) := by
  have hleading (ss : List Statement) :
      ((Statement.leading ss).filterMapM (predicate? g grouped)).map (Predicate.headed none) =
        (ss.filterMapM (predicate? g grouped)).map (Predicate.headed none) := by
    cases ss with
    | nil => rfl
    | cons s ss =>
      rw [Statement.leading, List.filterMapM_cons, List.filterMapM_cons, predicate?_withConnective]
      cases predicate? g grouped s with
      | error e => rfl
      | ok p =>
        cases p with
        | none => rfl
        | some p =>
          dsimp only [Except.map, Option.map]
          cases ss.filterMapM (predicate? g grouped) with
          | error e => rfl
          | ok ps => simp [bind, Except.bind, pure, Except.pure]
  calc sequence g grouped ts
      = ((statements ts).filterMapM (predicate? g grouped)).map (Predicate.headed none) := by
        rw [sequence]
        cases (statements ts).filterMapM (predicate? g grouped) <;> rfl
    _ = _ := by
        rw [statements_eq_leading, hleading, filterMapM_filterMap]
        rfl

end Contribution

section Joined

variable {a b : String}

/-- Nothing of a text is still open behind a connective. -/
lemma scan_connective (hquotes : QuotesClosed a.toList) (hcolon : (scan a).getLast? ≠ some .colon)
    (k : Connective) (b : String) :
    scan (a ++ connectiveText k ++ b) = scan a ++ .connective k :: scan b := by
  have hlast : colonLast false (scanAfter false a.toList) = false := by
    unfold colonLast
    split
    · rfl
    · next t ht => exact beq_eq_false_iff_ne.2 fun h => hcolon (h ▸ ht)
  rw [scan, String.toList_append, String.toList_append, List.append_assoc,
    scanAfter_append false hquotes (Written.cuts_connectiveText k _), hlast,
    Written.scanAfter_connectiveText, scan, scan]

lemma Balanced.tidy_connective {ts us : List Token} (h : Balanced ts) (h' : Balanced us)
    (k : Connective) : tidy (ts ++ .connective k :: us) = tidy ts ++ .connective k :: tidy us := by
  rw [(h.append_connective k h').tidy_eq, h.dropEmptyPairs_append, dropEmptyPairs_cons, h.tidy_eq,
    h'.tidy_eq]
  rfl

/-- The connective before the first fragment is at most that of the first predicate. -/
lemma exists_headed (g : Guard) (grouped : List Token → Except CompileError (List Predicate))
    (k : Option Connective) (ts : List Token) :
    ∃ j, (pieces k ts).filterMapM (contribution? g grouped) =
      ((pieces none ts).filterMapM (contribution? g grouped)).map (Predicate.headed j) := by
  rw [pieces, pieces, List.filterMapM_cons, List.filterMapM_cons, contribution?_withConnective k none]
  cases contribution? g grouped (none, (fragments 0 ts).1) with
  | error e => exact ⟨none, rfl⟩
  | ok p =>
    cases hmore : (fragments 0 ts).2.filterMapM (contribution? g grouped) with
    | error e => cases p <;> exact ⟨none, rfl⟩
    | ok ps =>
      cases p with
      | some p => exact ⟨k, rfl⟩
      | none =>
        cases ps with
        | nil => exact ⟨none, rfl⟩
        | cons q ps =>
          refine ⟨q.connective, ?_⟩
          cases q <;> rfl

/-- Filters that a connective joins are compiled one after the other. -/
theorem compile_connective (g : Guard) (k : Connective) (hquotes : QuotesClosed a.toList)
    (hcolon : (scan a).getLast? ≠ some .colon) (ha : Balanced (scan a)) (hb : Balanced (scan b)) :
    ∃ j, compile g (a ++ connectiveText k ++ b) = do
      let ps ← compile g a
      let qs ← compile g b
      return ps ++ Predicate.headed j qs := by
  obtain ⟨j, hj⟩ := exists_headed g (children g) (some k) (tidy (scan b))
  simp only [compile, predicates, sequence_eq, scan_connective hquotes hcolon,
    ha.tidy_connective hb, (balanced_tidy ha).pieces_connective, filterMapM_append, hj]
  cases (pieces none (tidy (scan a))).filterMapM (contribution? g (children g)) with
  | error e => exact ⟨none, rfl⟩
  | ok ps =>
    cases (pieces none (tidy (scan b))).filterMapM (contribution? g (children g)) with
    | error e => exact ⟨none, rfl⟩
    | ok qs =>
      -- Where the first filter has no predicate, the second one's comes first.
      cases ps with
      | nil => exact ⟨none, by simp [bind, Except.bind, pure, Except.pure, Except.map]⟩
      | cons p ps => exact ⟨j, by simp [bind, Except.bind, pure, Except.pure, Except.map]⟩

/-- What the first filter leaves open at its end does not reach the second one. -/
theorem compile_connective_open :
    QuotesClosed "color and (make:\"(\" or year<2020) or not".toList ∧
    (scan "color and (make:\"(\" or year<2020) or not").getLast? ≠ some .colon ∧
    Balanced (scan "color and (make:\"(\" or year<2020) or not") ∧
    Balanced (scan "oops or not price:3 TO 1 and \"open (") ∧
    ∃ j, compile ⟨{ isFilterable := fun _ => true }, .strict⟩
        ("color and (make:\"(\" or year<2020) or not" ++ connectiveText .and ++
          "oops or not price:3 TO 1 and \"open (") =
      .ok ([.group none false [.leaf none "make" (.comparison .eq (.text "(") false),
        .leaf (some .or) "year" (.comparison .lt (.integer 2020) false)]] ++
          Predicate.headed j [.leaf none "price" (.range 1 3 true)]) := by
  have hquotes : QuotesClosed "color and (make:\"(\" or year<2020) or not".toList := by decide
  have hcolon : (scan "color and (make:\"(\" or year<2020) or not").getLast? ≠ some .colon := by
    decide +kernel
  have ha : Balanced (scan "color and (make:\"(\" or year<2020) or not") := by decide +kernel
  have hb : Balanced (scan "oops or not price:3 TO 1 and \"open (") := by decide +kernel
  obtain ⟨j, hj⟩ := compile_connective ⟨{ isFilterable := fun _ => true }, .strict⟩ .and hquotes
    hcolon ha hb
  have hfirst : compile ⟨{ isFilterable := fun _ => true }, .strict⟩
      "color and (make:\"(\" or year<2020) or not" =
        .ok [.group none false [.leaf none "make" (.comparison .eq (.text "(") false),
          .leaf (some .or) "year" (.comparison .lt (.integer 2020) false)]] := by
    decide +kernel
  have hsecond : compile ⟨{ isFilterable := fun _ => true }, .strict⟩
      "oops or not price:3 TO 1 and \"open (" = .ok [.leaf none "price" (.range 1 3 true)] := by
    decide +kernel
  rw [hfirst, hsecond] at hj
  exact ⟨hquotes, hcolon, ha, hb, j, hj⟩

end Joined

section Dropped

variable {g : Guard} {grouped : List Token → Except CompileError (List Predicate)}
  {front frag back : List Token}

/-- A fragment that makes no predicate alone makes none in a list. -/
lemma contribution?_of_sequence (h : Uncut frag) (hnone : sequence g grouped frag = .ok [])
    (k : Option Connective) : contribution? g grouped (k, frag) = .ok none := by
  rw [sequence_eq, h.pieces_eq, List.filterMapM_cons] at hnone
  rw [contribution?_withConnective k none]
  cases hc : contribution? g grouped (none, frag) with
  | error e =>
    rw [hc] at hnone
    cases hnone
  | ok p =>
    cases p with
    | none => rfl
    | some p =>
      rw [hc] at hnone
      cases hnone

lemma IsFragment.sequence_drop (h : IsFragment front frag back)
    (hnone : sequence g grouped frag = .ok []) :
    sequence g grouped (front ++ frag ++ back) = sequence g grouped (front ++ back) := by
  obtain ⟨fs, k, gs, hpieces⟩ := h.exists_pieces
  have hempty : pieces none (front ++ back) = fs ++ (k, []) :: gs := by
    have hnil := hpieces [] (Balanced.nil.uncut rfl)
    rwa [List.append_nil] at hnil
  have hsame : contribution? g grouped (k, frag) = contribution? g grouped (k, []) :=
    contribution?_of_sequence h.uncut hnone k
  rw [sequence_eq, sequence_eq, hpieces frag h.uncut, hempty, filterMapM_middle hsame]

/-- The tokens of a group in a list: `NOT`, if it is negated, and its inner tokens in a pair of
parentheses or several. -/
def groupTokens (negated : Bool) (n : ℕ) (inner : List Token) : List Token :=
  negationTokens negated ++ nested (n + 1) inner

lemma uncut_groupTokens (negated : Bool) (n : ℕ) {inner : List Token} (h : Balanced inner) :
    Uncut (groupTokens negated n inner) :=
  (uncut_negationTokens negated).append (h.nested n).uncut_enclosed

/-- Of the inner tokens of a group only their predicates matter. -/
lemma contribution?_groupTokens (k : Option Connective) (negated : Bool) (n : ℕ)
    {inner : List Token} (h : Balanced inner) (hk : ConnectiveOutside inner) :
    contribution? g grouped (k, groupTokens negated n inner) =
      (grouped inner).map fun ps => if ps.isEmpty then none else some (.group k negated ps) := by
  have hstatement : Statement.ofFragment? (k, groupTokens negated n inner) =
      some ⟨k, negated, .group inner⟩ := by
    rw [← h.body_nested hk n]
    cases negated <;> rfl
  rw [contribution?, hstatement, Option.elim_some, predicate?]
  dsimp only
  cases grouped inner with
  | error e => rfl
  | ok ps => cases ps <;> rfl

lemma IsFragment.connectiveOutside (h : IsFragment front frag back)
    (hk : ConnectiveOutside (front ++ frag ++ back)) : ConnectiveOutside (front ++ back) := by
  have hfront := h.balanced_front
  have hback := h.balanced_back
  have hfrag := hfront.append h.uncut.balanced
  rw [← (hfront.append hback).hasOuterConnective_iff, hfront.hasOuterConnective_append hback]
  rwa [← (hfrag.append hback).hasOuterConnective_iff, hfrag.hasOuterConnective_append hback,
    hfront.hasOuterConnective_append h.uncut.balanced, h.uncut.not_outer, Bool.or_false] at hk

/-- A fragment without a predicate may as well be missing, in the list itself or in one of its
groups. -/
theorem predicates_drop (g : Guard) (h : IsFragment front frag back) :
    (predicates g frag = .ok [] →
      predicates g (front ++ frag ++ back) = predicates g (front ++ back)) ∧
    (children g frag = .ok [] → ConnectiveOutside (front ++ frag ++ back) →
      ∀ negated n before behind,
        IsFragment before (groupTokens negated n (front ++ frag ++ back)) behind →
        predicates g (before ++ groupTokens negated n (front ++ frag ++ back) ++ behind) =
          predicates g (before ++ groupTokens negated n (front ++ back) ++ behind)) := by
  refine ⟨h.sequence_drop, fun hnone hk negated n before behind hgroup => ?_⟩
  have hchildren : children g (front ++ frag ++ back) = children g (front ++ back) :=
    h.sequence_drop hnone
  have hbalanced := h.balanced_front.append h.balanced_back
  have hbalanced' := (h.balanced_front.append h.uncut.balanced).append h.balanced_back
  obtain ⟨fs, k, gs, hpieces⟩ := hgroup.exists_pieces
  have hsame : contribution? g (children g) (k, groupTokens negated n (front ++ frag ++ back)) =
      contribution? g (children g) (k, groupTokens negated n (front ++ back)) := by
    rw [contribution?_groupTokens k negated n hbalanced' hk,
      contribution?_groupTokens k negated n hbalanced (h.connectiveOutside hk), hchildren]
  rw [predicates, sequence_eq, sequence_eq, hpieces _ hgroup.uncut,
    hpieces _ (uncut_groupTokens negated n hbalanced), filterMapM_middle hsame]

/-- A clause whose attribute is disallowed and a group in a group are dropped. -/
theorem predicates_drop_nested :
    predicates ⟨{ isFilterable := fun a => a != "secret" }, .permissive⟩
        (scan "a:1 or" ++ scan "not secret:2" ++ scan "and b:3 or c:4") =
      predicates ⟨{ isFilterable := fun a => a != "secret" }, .permissive⟩
        (scan "a:1 or" ++ scan "and b:3 or c:4") ∧
    predicates ⟨{ isFilterable := fun a => a != "secret" }, .permissive⟩
        (scan "d:5 and" ++
          groupTokens true 1 (scan "a:1 or" ++ scan "not ((x:6 or y:7))" ++ scan "and b:3") ++
          scan "or e:8") =
      predicates ⟨{ isFilterable := fun a => a != "secret" }, .permissive⟩
        (scan "d:5 and" ++ groupTokens true 1 (scan "a:1 or" ++ scan "and b:3") ++ scan "or e:8") := by
  have hfront : scan "a:1 or" = scan "a:1" ++ [.connective .or] := by decide +kernel
  have hbefore : scan "d:5 and" = scan "d:5" ++ [.connective .and] := by decide +kernel
  have hfrag : IsFragment (scan "a:1 or") (scan "not secret:2") (scan "and b:3 or c:4") :=
    ⟨.inr ⟨scan "a:1", .or, by decide +kernel, hfront⟩, by decide +kernel,
      .inr ⟨.and, scan "b:3 or c:4", by decide +kernel, by decide +kernel⟩⟩
  have hinner : IsFragment (scan "a:1 or") (scan "not ((x:6 or y:7))") (scan "and b:3") :=
    ⟨.inr ⟨scan "a:1", .or, by decide +kernel, hfront⟩, by decide +kernel,
      .inr ⟨.and, scan "b:3", by decide +kernel, by decide +kernel⟩⟩
  have hgroup : IsFragment (scan "d:5 and")
      (groupTokens true 1 (scan "a:1 or" ++ scan "not ((x:6 or y:7))" ++ scan "and b:3"))
      (scan "or e:8") :=
    ⟨.inr ⟨scan "d:5", .and, by decide +kernel, hbefore⟩, by decide +kernel,
      .inr ⟨.or, scan "e:8", by decide +kernel, by decide +kernel⟩⟩
  have houtside : ConnectiveOutside
      (scan "a:1 or" ++ scan "not ((x:6 or y:7))" ++ scan "and b:3") :=
    ⟨scan "a:1", .or, scan "not ((x:6 or y:7)) and b:3", by decide +kernel, by decide +kernel⟩
  exact ⟨(predicates_drop _ hfrag).1 (by decide +kernel),
    (predicates_drop _ hinner).2 (by decide +kernel) houtside true 1 _ _ hgroup⟩

end Dropped

end FacetSearch.Filter
