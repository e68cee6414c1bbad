import FacetSearch.Proofs.Filter.Fragments
import FacetSearch.Proofs.Filter.Words

/-! Lists of phrases read back: where the tokens of each item of a list are known, so are the
statements of the whole list. -/
namespace FacetSearch.Filter

/-- Tokens that tidying leaves as they are: each parenthesis has a partner and something between. -/
structure Settled (ts : List Token) : Prop where
  balanced : Balanced ts
  dropEmptyPairs_eq : dropEmptyPairs ts = ts

namespace Settled

variable {ts us : List Token}

lemma tidy_eq (h : Settled ts) : tidy ts = ts := by
  rw [h.balanced.tidy_eq, h.dropEmptyPairs_eq]

lemma nil : Settled [] := ⟨.nil, rfl⟩

lemma append (h : Settled ts) (h' : Settled us) : Settled (ts ++ us) where
  balanced := h.balanced.append h'.balanced
  dropEmptyPairs_eq := by
    rw [h.balanced.dropEmptyPairs_append, h.dropEmptyPairs_eq, h'.dropEmptyPairs_eq]

lemma of_forall (h : ∀ t ∈ ts, t ≠ .opening ∧ t ≠ .closing) : Settled ts where
  balanced := .of_forall h
  dropEmptyPairs_eq := by
    induction ts with
    | nil => rfl
    | cons t ts ih =>
      rw [List.forall_mem_cons] at h
      rw [dropEmptyPairs_cons, ih h.2, consNonempty]
      exact fun _ ht => absurd ht h.1.1

lemma enclosed (h : Settled ts) (hne : ts ≠ []) : Settled (.opening :: (ts ++ [.closing])) where
  balanced := h.balanced.enclosed
  dropEmptyPairs_eq := by
    rw [h.balanced.dropEmptyPairs_pair, h.dropEmptyPairs_eq, if_neg hne, dropEmptyPairs_nil]

end Settled

/-- A text whose tokens are known and make one fragment: what follows does not change them, and no
connective stands outside their parentheses. -/
structure Phrase (text : String) (ts : List Token) : Prop where
  scanAfter_eq : ∀ r, Cuts r → scanAfter false (text.toList ++ r) = ts ++ scanAfter false r
  settled : Settled ts
  not_outer : hasOuterConnective ts = false
  ne_nil : ts ≠ []
  head_ne : ts.head? ≠ some .negation

namespace Written

variable {α : Type}

def negationTokens (negated : Bool) : List Token := if negated then [.negation] else []

lemma uncut_negationTokens (negated : Bool) : Uncut (negationTokens negated) := by
  cases negated with
  | false => exact uncut_nil
  | true => exact uncut_singleton (by simp) (by simp) rfl

def Part.tokens (tokens : α → List Token) (p : Part α) : List Token :=
  negationTokens p.negated ++ tokens p.body

/-- The tokens of a list of items, from the tokens of each. -/
def listTokens (tokens : α → List Token) : List (Part α) → List Token
  | [] => []
  | p :: ps => p.tokens tokens ++ ps.flatMap fun q => .connective q.connective :: q.tokens tokens

lemma scanAfter_connectiveText (k : Connective) (r : List Char) :
    scanAfter false ((connectiveText k).toList ++ r) = .connective k :: scanAfter false r := by
  have hblank (s : List Char) : scanAfter false (' ' :: s) = scanAfter false s :=
    scanAfter_blank (by decide)
  have hand := scanAfter_keyword (w := ['A', 'N', 'D']) (by decide) (by decide) rfl r
  have hor := scanAfter_keyword (w := ['O', 'R']) (by decide) (by decide) rfl r
  cases k with
  | and => exact (hblank _).trans hand
  | or => exact (hblank _).trans hor

lemma cuts_connectiveText (k : Connective) (r : List Char) :
    Cuts ((connectiveText k).toList ++ r) := by
  cases k <;> exact cuts_cons (by decide) _

section Lists

variable {text : α → String} {tokens : α → List Token} (h : ∀ x, Phrase (text x) (tokens x))
include h

lemma scanAfter_part (p : Part α) {r : List Char} (hr : Cuts r) :
    scanAfter false ((p.text text).toList ++ r) = p.tokens tokens ++ scanAfter false r := by
  have hbody := (h p.body).scanAfter_eq r hr
  rw [Part.text, Part.tokens, negationTokens, String.toList_append, List.append_assoc]
  split
  · have hnot := scanAfter_keyword (w := ['N', 'O', 'T']) (by decide) (by decide) rfl
      ((text p.body).toList ++ r)
    exact hnot.trans (congrArg (Token.negation :: ·) hbody)
  · exact hbody

/-- What follows an item starts with the blank before a connective or ends the list. -/
lemma scanAfter_more (ps : List (Part α)) {r : List Char} (hr : Cuts r) :
    let s := (String.join (ps.map fun q => connectiveText q.connective ++ q.text text)).toList ++ r
    Cuts s ∧ scanAfter false s =
      (ps.flatMap fun q => .connective q.connective :: q.tokens tokens) ++ scanAfter false r := by
  induction ps with
  | nil => exact ⟨by simpa using hr, by simp⟩
  | cons p ps ih =>
    obtain ⟨hcuts, hmore⟩ := ih
    simp only [List.map_cons, String.join_cons, String.toList_append, List.append_assoc,
      List.flatMap_cons, List.cons_append]
    refine ⟨cuts_connectiveText _ _, ?_⟩
    rw [scanAfter_connectiveText, scanAfter_part h p hcuts, hmore]

lemma scanAfter_listText (ps : List (Part α)) {r : List Char} (hr : Cuts r) :
    scanAfter false ((listText text ps).toList ++ r) =
      listTokens tokens ps ++ scanAfter false r := by
  cases ps with
  | nil => rfl
  | cons p ps =>
    obtain ⟨hcuts, hmore⟩ := scanAfter_more h ps hr
    rw [listText, listTokens, String.toList_append, List.append_assoc, List.append_assoc,
      scanAfter_part h p hcuts, hmore]

lemma settled_part (p : Part α) : Settled (p.tokens tokens) := by
  apply Settled.append _ (h p.body).settled
  rw [negationTokens]
  split
  · exact .of_forall (by decide)
  · exact .nil

lemma settled_more (ps : List (Part α)) :
    Settled (ps.flatMap fun q => .connective q.connective :: q.tokens tokens) := by
  induction ps with
  | nil => exact .nil
  | cons p ps ih =>
    rw [List.flatMap_cons, ← List.singleton_append]
    exact .append (.append (.of_forall (by simp)) (settled_part h p)) ih

lemma settled_listTokens (ps : List (Part α)) : Settled (listTokens tokens ps) := by
  cases ps with
  | nil => exact .nil
  | cons p ps => exact (settled_part h p).append (settled_more h ps)

lemma uncut_part (p : Part α) : Uncut (p.tokens tokens) :=
  (uncut_negationTokens p.negated).append
    ((h p.body).settled.balanced.uncut (h p.body).not_outer)

/-- The fragments of a list are its items. -/
lemma pieces_listTokens (p : Part α) (ps : List (Part α)) :
    pieces none (listTokens tokens (p :: ps)) =
      (none, p.tokens tokens) :: ps.map fun q => (some q.connective, q.tokens tokens) := by
  have hjoined : listTokens tokens (p :: ps) =
      p.tokens tokens ++ joined (ps.map fun q => (some q.connective, q.tokens tokens)) := by
    rw [listTokens, joined, List.flatMap_map]
    rfl
  rw [hjoined]
  apply pieces_joined (uncut_part h p)
  intro f hf
  obtain ⟨q, -, rfl⟩ := List.mem_map.1 hf
  exact ⟨rfl, uncut_part h q⟩

lemma ofFragment?_part (k : Option Connective) (p : Part α) :
    Statement.ofFragment? (k, p.tokens tokens) =
      some ⟨k, p.negated, .ofTokens (tokens p.body)⟩ := by
  have hne := (h p.body).ne_nil
  cases hn : p.negated with
  | false =>
    rw [Part.tokens, hn]
    exact Statement.ofFragment?_of_ne hne (h p.body).head_ne
  | true =>
    rw [Part.tokens, hn]
    change Statement.ofFragment? (k, .negation :: tokens p.body) = _
    rw [Statement.ofFragment?]
    exact hne

/-- The statements of a list are its items. -/
lemma statements_listTokens (p : Part α) (ps : List (Part α)) :
    statements (listTokens tokens (p :: ps)) =
      ⟨none, p.negated, .ofTokens (tokens p.body)⟩ ::
        ps.map fun q => ⟨some q.connective, q.negated, .ofTokens (tokens q.body)⟩ := by
  have hmore :
      (ps.map fun q => (some q.connective, q.tokens tokens)).filterMap Statement.ofFragment? =
        ps.map fun q => ⟨some q.connective, q.negated, .ofTokens (tokens q.body)⟩ := by
    rw [List.filterMap_map, ← List.filterMap_eq_map]
    congr 1
    funext q
    exact ofFragment?_part h _ q
  rw [statements_eq_leading, pieces_listTokens h]
  simp only [List.filterMap_cons, ofFragment?_part h, hmore, Statement.leading]

end Lists

end Written
end FacetSearch.Filter
