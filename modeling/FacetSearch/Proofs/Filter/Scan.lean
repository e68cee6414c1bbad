import FacetSearch.Filter.Token.Scan
import Mathlib.Data.List.TakeWhile
import Mathlib.Tactic.Common

/-! Reading tokens off a text piece by piece: a text whose quotes are closed has the same tokens
whatever is put behind it, as long as that ends its last word. -/
namespace FacetSearch.Filter
open Unicode

section Equations

variable {b : Bool} {c : Char} {s : List Char}

lemma scanAfter_blank (hc : isBlank c) : scanAfter b (c :: s) = scanAfter b s := by
  rw [scanAfter, if_pos hc]

lemma scanAfter_mark {t : Token} (hc : ¬isBlank c) (ht : mark? c = some t) :
    scanAfter b (c :: s) = t :: scanAfter (t == .colon) s := by
  rw [scanAfter, if_neg hc, ht]

lemma scanAfter_quote : scanAfter b ('"' :: s) =
    .quoted (.ofList (spanQuoted s).1) :: scanAfter false (spanQuoted s).2 := by
  have hc : ¬isBlank '"' := by decide
  have hm : mark? '"' = none := rfl
  rw [scanAfter, if_neg hc, hm]
  exact if_pos rfl

section NoQuote

variable (hc : ¬isBlank c) (hm : mark? c = none) (hq : c ≠ '"')
include hc hm hq

lemma scanAfter_value : scanAfter true (c :: s) =
    .word (.ofList (c :: s.takeWhile isValueChar)) :: scanAfter false (s.dropWhile isValueChar) := by
  rw [scanAfter, if_neg hc, hm]
  exact if_neg hq

lemma scanAfter_operator {op : Operator} {after : List Char}
    (ho : leadingOperator? (c :: s) = some (op, after)) :
    scanAfter false (c :: s) = .comparison op :: scanAfter false after := by
  rw [scanAfter, if_neg hc, hm]
  simp only [if_neg hq, Bool.false_eq_true, if_false]
  split
  · next ho' =>
    cases ho.symm.trans ho'
    rfl
  · next ho' => cases ho.symm.trans ho'

lemma scanAfter_word (ho : leadingOperator? (c :: s) = none) :
    scanAfter false (c :: s) = .ofWord (c :: (spanWord s).1) :: scanAfter false (spanWord s).2 := by
  rw [scanAfter, if_neg hc, hm]
  simp only [if_neg hq, Bool.false_eq_true, if_false]
  split
  · next ho' => cases ho.symm.trans ho'
  · rfl

end NoQuote
end Equations

/-- Where a reader of quotes stands: outside of them, inside, or inside and behind a backslash. -/
inductive Quoting
  | outside
  | inside
  | escaped
  deriving DecidableEq

namespace Quoting

def next : Quoting → Char → Quoting
  | outside, c => if c = '"' then inside else outside
  | inside, c => if c = '"' then outside else if c = '\\' then escaped else inside
  | escaped, _ => inside

/-- Where the reader stands at the end of a text. -/
def after (q : Quoting) (s : List Char) : Quoting := s.foldl next q

lemma after_append (q : Quoting) (s r : List Char) : q.after (s ++ r) = (q.after s).after r :=
  List.foldl_append

lemma after_outside_of_forall {s : List Char} (hs : ∀ c ∈ s, c ≠ '"') :
    outside.after s = outside := by
  induction s with
  | nil => rfl
  | cons c s ih =>
    rw [List.forall_mem_cons] at hs
    rw [after, List.foldl_cons, next, if_neg hs.1]
    exact ih hs.2

end Quoting

/-- Whether every quote of a text is closed. -/
def QuotesClosed (s : List Char) : Prop := Quoting.outside.after s = .outside

instance (s : List Char) : Decidable (QuotesClosed s) := inferInstanceAs (Decidable (_ = _))

lemma QuotesClosed.append {s r : List Char} (hs : QuotesClosed s) (hr : QuotesClosed r) :
    QuotesClosed (s ++ r) := by
  rw [QuotesClosed, Quoting.after_append, hs, hr]

lemma quotesClosed_append_iff {s : List Char} (hs : ∀ c ∈ s, c ≠ '"') (r : List Char) :
    QuotesClosed (s ++ r) ↔ QuotesClosed r := by
  rw [QuotesClosed, Quoting.after_append, Quoting.after_outside_of_forall hs, QuotesClosed]

lemma quotesClosed_cons_iff {c : Char} (hc : c ≠ '"') (s : List Char) :
    QuotesClosed (c :: s) ↔ QuotesClosed s :=
  quotesClosed_append_iff (List.forall_mem_singleton.2 hc) s

/-- Whether a text ends every word before it: it starts with a blank, a parenthesis, a quote or a
comma. -/
def Cuts (r : List Char) : Prop := ∀ c ∈ r.head?, isValueChar c = false

lemma cuts_nil : Cuts [] := nofun

lemma cuts_cons {c : Char} (hc : isValueChar c = false) (r : List Char) : Cuts (c :: r) := by
  rintro d ⟨⟩
  exact hc

section Spans

variable {r : List Char}

/-- A quote that is closed ends at the same place whatever follows. -/
lemma spanQuoted_append {s : List Char} (hs : Quoting.inside.after s = .outside) (r : List Char) :
    spanQuoted (s ++ r) = ((spanQuoted s).1, (spanQuoted s).2 ++ r) ∧
      QuotesClosed (spanQuoted s).2 := by
  fun_induction spanQuoted s with
  | case1 => cases hs
  | case2 rest => exact ⟨by rw [List.cons_append, spanQuoted], hs⟩
  | case3 => cases hs
  | case4 c rest ih =>
    obtain ⟨heq, hclosed⟩ := ih hs
    refine ⟨?_, hclosed⟩
    rw [List.cons_append, List.cons_append, spanQuoted, heq]
    rfl
  | case5 c rest hq hend hescape ih =>
    -- The cases before have taken every backslash.
    have hb : c ≠ '\\' := by
      rintro rfl
      cases rest with
      | nil => exact hend rfl rfl
      | cons d rest => exact hescape d rest rfl rfl
    rw [Quoting.after, List.foldl_cons, Quoting.next, if_neg hq, if_neg hb] at hs
    obtain ⟨heq, hclosed⟩ := ih hs
    refine ⟨?_, hclosed⟩
    rw [List.cons_append, spanQuoted, heq]
    · rfl
    · exact hq
    · exact fun h => absurd h hb
    · exact fun _ _ h => absurd h hb

lemma Cuts.equals_of_append {s t : List Char} (hr : Cuts r) (h : s ++ r = '=' :: t) :
    ∃ u, s = '=' :: u := by
  cases s with
  | nil => exact absurd (hr '=' (by rw [← List.nil_append r, h]; rfl)) (by decide)
  | cons d s => exact ⟨s, by rw [(List.cons.inj h).1]⟩

/-- What ends a word does not make an operator longer. -/
lemma leadingOperator?_append {s : List Char} (hr : Cuts r) (hs : s ≠ []) :
    leadingOperator? (s ++ r) = (leadingOperator? s).map (Prod.map id (· ++ r)) := by
  fun_cases leadingOperator? s with
  | case1 | case2 | case3 | case4 => rfl
  | case5 rest h =>
    -- No equals sign can follow, or it would belong to the operator.
    rw [List.cons_append, leadingOperator?]
    · rfl
    · intro t ht
      obtain ⟨u, rfl⟩ := hr.equals_of_append ht
      exact h u rfl
  | case6 rest h =>
    rw [List.cons_append, leadingOperator?]
    · rfl
    · intro t ht
      obtain ⟨u, rfl⟩ := hr.equals_of_append ht
      exact h u rfl
  | case7 _ hne hge hle heq hgt hlt =>
    obtain ⟨c, s, rfl⟩ := List.exists_cons_of_ne_nil hs
    have htwo {d : Char} (h : ∀ t, c :: s ≠ d :: '=' :: t) (t : List Char) :
        c :: s ++ r ≠ d :: '=' :: t := by
      intro ht
      obtain ⟨rfl, hrest⟩ := List.cons.inj ht
      obtain ⟨u, rfl⟩ := hr.equals_of_append hrest
      exact h u rfl
    have hone {d : Char} (h : ∀ t, c :: s ≠ d :: t) (t : List Char) : c :: s ++ r ≠ d :: t := by
      intro ht
      obtain ⟨rfl, -⟩ := List.cons.inj ht
      exact h s rfl
    rw [leadingOperator?]
    · rfl
    · exact htwo hne
    · exact htwo hge
    · exact htwo hle
    · exact hone heq
    · exact hone hgt
    · exact hone hlt

lemma Cuts.spanWord_eq (hr : Cuts r) : spanWord r = ([], r) := by
  cases r with
  | nil => rfl
  | cons c r =>
    have hc : isValueChar c = false := hr c rfl
    have hstop : (isBlank c || c == '"' || (mark? c).isSome ||
        (leadingOperator? (c :: r)).isSome) = true := by
      by_cases hb : isBlank c
      · simp [hb]
      · have hmark : c = '(' ∨ c = ')' ∨ c = '"' ∨ c = ',' := by
          simpa [isValueChar, hb, or_iff_not_imp_left] using hc
        rcases hmark with rfl | rfl | rfl | rfl <;> rfl
    rw [spanWord, if_pos hstop]

lemma spanWord_append (hr : Cuts r) (s : List Char) :
    spanWord (s ++ r) = ((spanWord s).1, (spanWord s).2 ++ r) := by
  fun_induction spanWord s with
  | case1 => exact hr.spanWord_eq
  | case2 c rest h =>
    have hstop := leadingOperator?_append hr (List.cons_ne_nil c rest)
    rw [List.cons_append] at hstop ⊢
    rw [spanWord, hstop, Option.isSome_map, if_pos h]
  | case3 c rest h ih =>
    have hstop := leadingOperator?_append hr (List.cons_ne_nil c rest)
    rw [List.cons_append] at hstop ⊢
    rw [spanWord, hstop, Option.isSome_map, if_neg h, ih]
    rfl

/-- A bare value ends where the text does or before. -/
lemma spanValue_append (hr : Cuts r) (s : List Char) :
    (s ++ r).takeWhile isValueChar = s.takeWhile isValueChar ∧
      (s ++ r).dropWhile isValueChar = s.dropWhile isValueChar ++ r := by
  induction s with
  | nil =>
    cases r with
    | nil => exact ⟨rfl, rfl⟩
    | cons c r => simp [hr c rfl]
  | cons c s ih =>
    rw [List.cons_append]
    cases hc : isValueChar c <;> simp [hc, ih]

end Spans

section Closed

variable {c : Char} {s : List Char}

lemma quotesClosed_dropWhile (hs : QuotesClosed s) : QuotesClosed (s.dropWhile isValueChar) := by
  rw [← s.takeWhile_append_dropWhile (p := isValueChar), quotesClosed_append_iff] at hs
  · exact hs
  · rintro c hc rfl
    exact absurd (List.mem_takeWhile_imp hc) (by decide)

lemma quotesClosed_spanWord (hs : QuotesClosed s) : QuotesClosed (spanWord s).2 := by
  fun_induction spanWord s with
  | case1 => rfl
  | case2 c rest h => exact hs
  | case3 c rest h ih =>
    apply ih
    rwa [quotesClosed_cons_iff] at hs
    rintro rfl
    simp at h

lemma quotesClosed_leadingOperator? {op : Operator} {after : List Char} (hs : QuotesClosed s)
    (ho : leadingOperator? s = some (op, after)) : QuotesClosed after := by
  unfold leadingOperator? at ho
  split at ho <;> cases ho <;> exact hs

end Closed

lemma Token.ofWord_ne_colon (w : List Char) : (Token.ofWord w == .colon) = false := by
  unfold Token.ofWord
  split_ifs <;> rfl

/-- Whether the last of some tokens is a colon; where there are none, whether one came before. -/
def colonLast (b : Bool) (ts : List Token) : Bool :=
  match ts.getLast? with
  | none => b
  | some t => t == .colon

lemma colonLast_cons (b : Bool) (t : Token) (ts : List Token) :
    colonLast b (t :: ts) = colonLast (t == .colon) ts := by
  cases ts with
  | nil => rfl
  | cons u ts => rfl

/-- The tokens of a text do not depend on what follows it, but for a colon at its end, behind which
a word is a value. -/
lemma scanAfter_append {s r : List Char} (b : Bool) (hs : QuotesClosed s) (hr : Cuts r) :
    scanAfter b (s ++ r) = scanAfter b s ++ scanAfter (colonLast b (scanAfter b s)) r := by
  fun_induction scanAfter b s with
  | case1 b => rfl
  | case2 b c rest hc ih =>
    have hq : c ≠ '"' := by
      rintro rfl
      exact absurd hc (by decide)
    rw [quotesClosed_cons_iff hq] at hs
    rw [List.cons_append, scanAfter_blank hc, ih hs]
  | case3 b c rest hc t ht ih =>
    have hq : c ≠ '"' := by
      rintro rfl
      cases ht
    rw [quotesClosed_cons_iff hq] at hs
    rw [List.cons_append, scanAfter_mark hc ht, ih hs, List.cons_append, colonLast_cons]
  | case4 b rest hc hm ih =>
    obtain ⟨hspan, hclosed⟩ := spanQuoted_append hs r
    rw [List.cons_append, scanAfter_quote, hspan, ih hclosed, List.cons_append, colonLast_cons]
    rfl
  | case5 c rest hc hm hq ih =>
    rw [quotesClosed_cons_iff hq] at hs
    obtain ⟨htake, hdrop⟩ := spanValue_append hr rest
    rw [List.cons_append, scanAfter_value hc hm hq, htake, hdrop, ih (quotesClosed_dropWhile hs),
      List.cons_append, colonLast_cons]
    rfl
  | case6 b c rest hc hm hq hb op after ho ih =>
    rw [Bool.not_eq_true] at hb
    have ho' := leadingOperator?_append hr (List.cons_ne_nil c rest)
    rw [ho, List.cons_append] at ho'
    rw [hb, List.cons_append, scanAfter_operator hc hm hq ho',
      ih (quotesClosed_leadingOperator? hs ho), List.cons_append, colonLast_cons]
    rfl
  | case7 b c rest hc hm hq hb ho ih =>
    rw [Bool.not_eq_true] at hb
    have ho' := leadingOperator?_append hr (List.cons_ne_nil c rest)
    rw [ho, List.cons_append] at ho'
    rw [quotesClosed_cons_iff hq] at hs
    rw [hb, List.cons_append, scanAfter_word hc hm hq ho', spanWord_append hr,
      ih (quotesClosed_spanWord hs), List.cons_append, colonLast_cons,
      Token.ofWord_ne_colon]

end FacetSearch.Filter
