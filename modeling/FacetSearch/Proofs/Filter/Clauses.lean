import FacetSearch.Proofs.Filter.Grammar
import FacetSearch.Proofs.Filter.Phrases

/-! A clause as it is meant to be written is read back from its text. -/
namespace FacetSearch.Filter.Written

section Clauses

/-- The tokens of the values in a list. -/
def itemTokens (v : String) (vs : List String) : List Token :=
  .quoted v :: vs.flatMap fun w => [.comma, .quoted w]

def Clause.tokens : Clause → List Token
  | range a m n =>
    [.word a.text, .colon, .word (toString m.toInt), .word "TO", .word (toString n.toInt)]
  | numeric a op n => [.word a.text, .comparison op, .word (toString n.toInt)]
  | value a v => [.word a.text, .colon, .quoted v]
  | list a v vs => .word a.text :: .colon :: .opening :: (itemTokens v vs ++ [.closing])

/-- The clause that is read from a written one. -/
def Clause.read : Clause → Filter.Clause
  | range a m n => .range a.text (min m n) (max m n)
  | numeric a op n => .numeric a.text op n
  | value a v => .values a.text [v]
  | list a v vs => .values a.text (v :: vs).eraseDups

lemma itemTokens_eq_intersperse (v : String) (vs : List String) :
    itemTokens v vs = ((v :: vs).map Token.quoted).intersperse .comma := by
  induction vs generalizing v with
  | nil => rfl
  | cons w vs ih =>
    rw [List.map_cons, List.map_cons, List.intersperse_cons_cons, ← List.map_cons, ← ih]
    rfl

/-- A written clause is spelled as the grammar has it. -/
lemma spelled_tokens (c : Clause) : Filter.Clause.Spelled c.tokens c.read := by
  have hbounds {ts : List Token} (h : ∀ w, ts.head? ≠ some (.word w)) :
      ¬Filter.Clause.IsBounds ts := by
    rintro ⟨low, _, _, rfl, -⟩
    exact h low rfl
  cases c with
  | range a m n =>
    exact .range a.isAttributeName (by decide) (Text.denotes_toString _) (Text.denotes_toString _)
  | numeric a op n => exact .numeric op a.isAttributeName (Text.denotes_toString _)
  | value a v => exact .values a.isAttributeName (.quoted v) (hbounds (by simp))
  | list a v vs =>
    have hitems : List.Forall₂ Filter.Clause.IsItem ((v :: vs).map Token.quoted) (v :: vs) :=
      List.forall₂_map_left_iff.2 (List.forall₂_same.2 fun s _ => .quoted s)
    refine .values a.isAttributeName ?_ (hbounds (by simp))
    rw [itemTokens_eq_intersperse]
    exact .list (by simp) hitems (firstPlaces_eraseDups _)

lemma ofTokens?_tokens (c : Clause) : Filter.Clause.ofTokens? c.tokens = some c.read :=
  Filter.Clause.ofTokens?_of_spelled (spelled_tokens c)

lemma test_values (negated : Bool) (a v : String) (vs : List String) :
    Filter.Clause.test negated (.values a (v :: vs)) = valuesTest negated (v :: vs) := by
  cases vs with
  | nil =>
    by_cases hv : v = "NULL"
    · subst hv
      rfl
    · rw [Filter.Clause.test, Filter.Clause.testOf, if_neg hv, valuesTest]
      exact hv
  | cons w vs =>
    rw [Filter.Clause.test, valuesTest]
    all_goals simp

lemma test_read (negated : Bool) (c : Clause) : c.read.test negated = c.test negated := by
  cases c with
  | range a m n => rfl
  | numeric a op n => rfl
  | value a v => exact test_values negated a.text v []
  | list a v vs =>
    rw [Clause.read, Clause.test, List.eraseDups_cons]
    exact test_values negated a.text v _

lemma name_read (c : Clause) : c.read.name = c.name.text := by
  cases c <;> rfl

end Clauses

section Scan

lemma scanAfter_items (v : String) (vs : List String) (r : List Char) :
    scanAfter false ((",".intercalate ((v :: vs).map quoted)).toList ++ r) =
      itemTokens v vs ++ scanAfter false r := by
  induction vs generalizing v with
  | nil =>
    rw [List.map_singleton, String.intercalate_singleton]
    exact scanAfter_quoted false v r
  | cons w vs ih =>
    rw [List.map_cons, List.map_cons, String.intercalate_cons_cons, ← List.map_cons,
      String.toList_append, String.toList_append, List.append_assoc, List.append_assoc,
      scanAfter_quoted]
    change Token.quoted v :: scanAfter false (',' :: _) = _
    rw [scanAfter_mark (by decide) rfl]
    exact congrArg (Token.quoted v :: Token.comma :: ·) (ih w)

lemma scanAfter_name_colon (a : Name) (r : List Char) :
    scanAfter false (a.text.toList ++ ':' :: r) = .word a.text :: .colon :: scanAfter true r := by
  rw [a.scanAfter_name rfl, scanAfter_mark (by decide) rfl]
  rfl

lemma scanAfter_clause (c : Clause) {r : List Char} (hr : Cuts r) :
    scanAfter false (c.text.toList ++ r) = c.tokens ++ scanAfter false r := by
  have hblank (b : Bool) (s : List Char) : scanAfter b (' ' :: s) = scanAfter b s :=
    scanAfter_blank (by decide)
  have hcuts (s : List Char) : Cuts (' ' :: s) := cuts_cons (by decide) s
  -- Each clause is cut into its words first; then one lemma reads each word and leaves the rest.
  cases c with
  | range a m n =>
    have hto : scanAfter false (['T', 'O'] ++ ' ' :: ((toString n.toInt).toList ++ r)) =
        .word "TO" :: .word (toString n.toInt) :: scanAfter false r := by
      rw [scanAfter_keyword (t := .word "TO") (by decide) (by decide) (by decide),
        scanAfter_toString _ hr]
    calc scanAfter false ((Clause.range a m n).text.toList ++ r)
      _ = scanAfter false (a.text.toList ++ ':' :: ((toString m.toInt).toList ++
            ' ' :: (['T', 'O'] ++ ' ' :: ((toString n.toInt).toList ++ r)))) := by
        simp [Clause.text]
      _ = (Clause.range a m n).tokens ++ scanAfter false r := by
        rw [scanAfter_name_colon, scanAfter_toString_value _ (hcuts _), hblank, hto]
        rfl
  | numeric a op n =>
    calc scanAfter false ((Clause.numeric a op n).text.toList ++ r)
      _ = scanAfter false (a.text.toList ++ ' ' :: (op.symbol.toList ++
            ' ' :: ((toString n.toInt).toList ++ r))) := by
        simp [Clause.text]
      _ = (Clause.numeric a op n).tokens ++ scanAfter false r := by
        rw [a.scanAfter_name rfl, hblank, scanAfter_symbol, scanAfter_toString _ hr]
        rfl
  | value a v =>
    calc scanAfter false ((Clause.value a v).text.toList ++ r)
      _ = scanAfter false (a.text.toList ++ ':' :: ((quoted v).toList ++ r)) := by
        simp [Clause.text]
      _ = (Clause.value a v).tokens ++ scanAfter false r := by
        rw [scanAfter_name_colon, scanAfter_quoted]
        rfl
  | list a v vs =>
    calc scanAfter false ((Clause.list a v vs).text.toList ++ r)
      _ = scanAfter false (a.text.toList ++ ':' :: '(' ::
            ((",".intercalate ((v :: vs).map quoted)).toList ++ ')' :: r)) := by
        rw [Clause.text]
        simp only [String.toList_append, List.append_assoc]
        rfl
      _ = (Clause.list a v vs).tokens ++ scanAfter false r := by
        rw [scanAfter_name_colon, scanAfter_mark (by decide) rfl]
        change Token.word a.text :: Token.colon :: Token.opening :: scanAfter false _ = _
        rw [scanAfter_items, scanAfter_mark (by decide) rfl, Clause.tokens]
        simp only [List.cons_append, List.append_assoc, List.nil_append]
        rfl

end Scan

section Phrases

lemma settled_items (v : String) (vs : List String) : Settled (itemTokens v vs) := by
  apply Settled.of_forall
  intro t ht
  have hitem : t = .comma ∨ ∃ w, t = .quoted w := by
    simp only [itemTokens, List.mem_cons, List.mem_flatMap, List.not_mem_nil, or_false] at ht
    obtain rfl | ⟨w, -, rfl | rfl⟩ := ht
    · exact .inr ⟨v, rfl⟩
    · exact .inl rfl
    · exact .inr ⟨w, rfl⟩
  obtain rfl | ⟨w, rfl⟩ := hitem <;> simp

lemma settled_clause (c : Clause) : Settled c.tokens := by
  cases c with
  | range a m n => exact .of_forall (by simp [Clause.tokens])
  | numeric a op n => exact .of_forall (by simp [Clause.tokens])
  | value a v => exact .of_forall (by simp [Clause.tokens])
  | list a v vs =>
    have hname : Settled [.word a.text, .colon] := .of_forall (by simp)
    exact hname.append ((settled_items v vs).enclosed (List.cons_ne_nil _ _))

lemma hasOuterConnective_clause (c : Clause) : hasOuterConnective c.tokens = false := by
  cases c with
  | range a m n => rfl
  | numeric a op n => rfl
  | value a v => rfl
  | list a v vs =>
    have hname : Balanced [.word a.text, .colon] := .of_forall (by simp)
    have hlist := (settled_items v vs).balanced
    exact (hname.hasOuterConnective_append hlist.enclosed).trans
      (hlist.hasOuterConnective_pair .nil)

lemma phrase_clause (c : Clause) : Phrase c.text c.tokens where
  scanAfter_eq r hr := scanAfter_clause c hr
  settled := settled_clause c
  not_outer := hasOuterConnective_clause c
  ne_nil := by cases c <;> exact List.cons_ne_nil _ _
  head_ne := by cases c <;> simp [Clause.tokens]

end Phrases
end FacetSearch.Filter.Written
