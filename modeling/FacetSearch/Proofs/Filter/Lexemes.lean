import FacetSearch.Proofs.Filter.Words

/-! The token lists that filter expressions have, each read back from its own text with any blanks
between the tokens. -/
namespace FacetSearch.Filter
open Unicode

/-- Whether a character may stand in a word outside of values. -/
def IsBare (c : Char) : Prop := isValueChar c ∧ c ∉ [':', '<', '>', '=']

instance (c : Char) : Decidable (IsBare c) := inferInstanceAs (Decidable (_ ∧ _))

namespace Token

/-- Whether a token can stand where it does. Right after a colon there are neither keywords nor
operators, and a word is a value, which may hold them. -/
def Fits (afterColon : Bool) : Token → Prop
  | word w =>
    w ≠ "" ∧ w.toList.all (fun c => !isBlank c && c ∉ ['(', ')', ',', '"']) ∧
      if afterColon then w.toList.head? ≠ some ':'
      else w.toList.all (· ∉ [':', '<', '>', '=']) ∧
        ∀ k ∈ ["and", "or", "not"], Text.equalsIgnoringCase w.toList k.toList = false
  | comparison _ | connective _ | negation => afterColon = false
  | quoted _ | colon | comma | opening | closing => True

instance (afterColon : Bool) : (t : Token) → Decidable (t.Fits afterColon)
  | word _ => inferInstanceAs (Decidable (_ ∧ _ ∧ if afterColon then _ else _))
  | comparison _ | connective _ | negation => inferInstanceAs (Decidable (afterColon = false))
  | quoted _ | colon | comma | opening | closing => inferInstanceAs (Decidable True)

/-- The text of a token. -/
def text : Token → String
  | quoted v => Written.quoted v
  | t => t.display

end Token

/-- Whether every token of a list can stand where it does. -/
def Lexical (afterColon : Bool) : List Token → Prop
  | [] => True
  | t :: ts => t.Fits afterColon ∧ Lexical (t == .colon) ts

instance decidableLexical (afterColon : Bool) : (ts : List Token) → Decidable (Lexical afterColon ts)
  | [] => inferInstanceAs (Decidable True)
  | t :: ts =>
    have := decidableLexical (t == .colon) ts
    inferInstanceAs (Decidable (_ ∧ _))

section Characters

variable {c : Char} {s : List Char}

lemma isValueChar_iff : isValueChar c ↔ ¬isBlank c ∧ c ∉ ['(', ')', ',', '"'] := by
  simp only [isValueChar, Bool.and_eq_true, Bool.not_eq_true', bne_iff_ne, List.mem_cons,
    List.not_mem_nil, or_false, not_or, Bool.not_eq_true]
  tauto

lemma Token.fits_word_iff {b : Bool} {w : List Char} :
    (Token.word (.ofList w)).Fits b ↔ w ≠ [] ∧ (∀ d ∈ w, isValueChar d) ∧
      if b then w.head? ≠ some ':'
      else (∀ d ∈ w, d ∉ [':', '<', '>', '=']) ∧
        ∀ k ∈ ["and", "or", "not"], Text.equalsIgnoringCase w k.toList = false := by
  have hvalue (d : Char) : (!isBlank d && decide (d ∉ ['(', ')', ',', '"'])) = isValueChar d := by
    rw [Bool.eq_iff_iff, isValueChar_iff]
    simp
  simp only [Token.Fits, hvalue, String.toList_ofList, List.all_eq_true, decide_eq_true_eq, ne_eq,
    String.ofList_eq_empty_iff]

lemma mark?_eq_none_iff : mark? c = none ↔ c ∉ ['(', ')', ',', ':'] := by
  unfold mark?
  split <;> simp_all

lemma fits_of_mark? {t : Token} (h : mark? c = some t) (b : Bool) : t.Fits b := by
  unfold mark? at h
  split at h <;> cases h <;> trivial

lemma leadingOperator?_eq_none (hc : c ∉ ['<', '>', '=']) (hs : s.head? ≠ some '=') :
    leadingOperator? (c :: s) = none := by
  unfold leadingOperator?
  split <;> simp_all

lemma not_mem_of_leadingOperator? (h : leadingOperator? (c :: s) = none) :
    c ∉ ['<', '>', '='] := by
  intro hc
  simp only [List.mem_cons, List.not_mem_nil, or_false] at hc
  rcases hc with rfl | rfl | rfl
  · unfold leadingOperator? at h
    split at h <;> simp_all
  · unfold leadingOperator? at h
    split at h <;> simp_all
  · unfold leadingOperator? at h
    split at h <;> simp_all

/-- What does not end a word may stand in it. -/
lemma isBare_of_continues (hb : ¬isBlank c) (hq : c ≠ '"') (hm : mark? c = none)
    (ho : leadingOperator? (c :: s) = none) : IsBare c := by
  rw [mark?_eq_none_iff] at hm
  have hop := not_mem_of_leadingOperator? ho
  simp only [List.mem_cons, List.not_mem_nil, or_false, not_or] at hm hop
  refine ⟨isValueChar_iff.2 ⟨hb, ?_⟩, ?_⟩
  · simp [hm, hq]
  · simp [hm, hop]

end Characters

section Scan

lemma isBare_of_mem_spanWord {s : List Char} : ∀ c ∈ (spanWord s).1, IsBare c := by
  fun_induction spanWord s with
  | case1 => simp
  | case2 c rest h => simp
  | case3 c rest h ih =>
    simp only [Bool.or_eq_true, not_or, beq_iff_eq, Option.isSome_iff_ne_none, ne_eq,
      not_not] at h
    obtain ⟨⟨⟨hb, hq⟩, hm⟩, ho⟩ := h
    change ∀ d ∈ c :: (spanWord rest).1, IsBare d
    rw [List.forall_mem_cons]
    exact ⟨isBare_of_continues hb hq hm ho, ih⟩

lemma fits_ofWord {w : List Char} (hne : w ≠ []) (hw : ∀ c ∈ w, IsBare c) :
    (Token.ofWord w).Fits false := by
  unfold Token.ofWord
  split_ifs with hand hor hnot
  · rfl
  · rfl
  · rfl
  · rw [Bool.not_eq_true] at hand hor hnot
    rw [Token.fits_word_iff, if_neg Bool.false_ne_true, List.forall_mem_cons, List.forall_mem_cons,
      List.forall_mem_singleton]
    exact ⟨hne, fun c hc => (hw c hc).1, fun c hc => (hw c hc).2, hand, hor, hnot⟩

lemma fits_value {c : Char} {s : List Char} (hb : ¬isBlank c) (hm : mark? c = none)
    (hq : c ≠ '"') : (Token.word (.ofList (c :: s.takeWhile isValueChar))).Fits true := by
  rw [mark?_eq_none_iff] at hm
  simp only [List.mem_cons, List.not_mem_nil, or_false, not_or] at hm
  rw [Token.fits_word_iff, if_pos rfl, List.forall_mem_cons]
  refine ⟨List.cons_ne_nil _ _, ⟨isValueChar_iff.2 ⟨hb, by simp [hm, hq]⟩, ?_⟩, by simp [hm]⟩
  exact fun d hd => List.mem_takeWhile_imp hd

/-- All tokens of a text fit, whatever came before it. -/
lemma lexical_scanAfter (b : Bool) (s : List Char) : Lexical b (scanAfter b s) := by
  fun_induction scanAfter b s with
  | case1 b => trivial
  | case2 b c rest hc ih => exact ih
  | case3 b c rest hc t ht ih => exact ⟨fits_of_mark? ht b, ih⟩
  | case4 b rest hc hm ih => exact ⟨trivial, ih⟩
  | case5 c rest hc hm hq ih => exact ⟨fits_value hc hm hq, ih⟩
  | case6 b c rest hc hm hq hb op after ho ih => exact ⟨Bool.eq_false_iff.2 hb, ih⟩
  | case7 b c rest hc hm hq hb ho ih =>
    rw [Bool.not_eq_true] at hb
    subst hb
    refine ⟨fits_ofWord (List.cons_ne_nil _ _) ?_, ?_⟩
    · rw [List.forall_mem_cons]
      exact ⟨isBare_of_continues hc hq hm ho, isBare_of_mem_spanWord⟩
    · rw [Token.ofWord_ne_colon]
      exact ih

end Scan

section Text

variable {r : List Char} (hr : Cuts r)
include hr

/-- A word goes on over its characters: a lone exclamation mark is one of them, since no equals sign
can follow it. -/
lemma Cuts.continues_of_isBare {c : Char} {w : List Char} (hw : ∀ d ∈ c :: w, IsBare d) :
    mark? c = none ∧ leadingOperator? (c :: (w ++ r)) = none := by
  rw [List.forall_mem_cons] at hw
  obtain ⟨⟨hvalue, hc⟩, hw⟩ := hw
  obtain ⟨-, hmarks⟩ := isValueChar_iff.1 hvalue
  simp only [List.mem_cons, List.not_mem_nil, or_false, not_or] at hc hmarks
  have hhead : (w ++ r).head? ≠ some '=' := by
    intro h
    cases w with
    | nil => exact absurd (hr '=' h) (by decide)
    | cons d w =>
      obtain rfl : d = '=' := Option.some.inj h
      exact absurd (hw '=' List.mem_cons_self) (by decide)
  exact ⟨mark?_eq_none_iff.2 (by simp [hmarks, hc]), leadingOperator?_eq_none (by simp [hc]) hhead⟩

lemma Cuts.spanWord_of_isBare {w : List Char} (hw : ∀ c ∈ w, IsBare c) :
    spanWord (w ++ r) = (w, r) := by
  induction w with
  | nil => exact hr.spanWord_eq
  | cons c w ih =>
    obtain ⟨hm, ho⟩ := hr.continues_of_isBare hw
    rw [List.forall_mem_cons] at hw
    obtain ⟨hb, hmarks⟩ := isValueChar_iff.1 hw.1.1
    simp only [List.mem_cons, List.not_mem_nil, or_false, not_or] at hmarks
    have hgo : (isBlank c || c == '"' || (mark? c).isSome ||
        (leadingOperator? (c :: (w ++ r))).isSome) = false := by
      simp [hb, hmarks, hm, ho]
    rw [List.cons_append, spanWord, hgo, ih hw.2]
    rfl

lemma scanAfter_wordText {b : Bool} {w : String} (h : (Token.word w).Fits b) :
    scanAfter b (w.toList ++ r) = .word w :: scanAfter false r := by
  rw [← String.ofList_toList (s := w), Token.fits_word_iff] at h
  obtain ⟨hne, hvalue, hplace⟩ := h
  obtain ⟨c, s, hs⟩ := List.exists_cons_of_ne_nil hne
  rw [← String.ofList_toList (s := w)]
  rw [hs] at hvalue hplace ⊢
  have hvalue' : ∀ d ∈ s, isValueChar d := (List.forall_mem_cons.1 hvalue).2
  obtain ⟨hb, hmarks⟩ := isValueChar_iff.1 (hvalue c List.mem_cons_self)
  simp only [List.mem_cons, List.not_mem_nil, or_false, not_or] at hmarks
  have hq : c ≠ '"' := hmarks.2.2.2
  rw [String.toList_ofList, List.cons_append]
  cases b with
  | true =>
    have hcolon : c ≠ ':' := by simpa using hplace
    have hm : mark? c = none := mark?_eq_none_iff.2 (by simp [hmarks, hcolon])
    obtain ⟨htake, hdrop⟩ := spanValue_append hr s
    rw [scanAfter_value hb hm hq, htake, hdrop, List.takeWhile_eq_self_iff.2 hvalue',
      List.dropWhile_eq_nil_iff.2 hvalue', List.nil_append]
  | false =>
    obtain ⟨hoperators, hkeyword⟩ := hplace
    have hbare : ∀ d ∈ c :: s, IsBare d := fun d hd => ⟨hvalue d hd, hoperators d hd⟩
    obtain ⟨hm, ho⟩ := hr.continues_of_isBare hbare
    rw [scanAfter_word hb hm hq ho, hr.spanWord_of_isBare (List.forall_mem_cons.1 hbare).2,
      Token.ofWord_eq_word hkeyword]

/-- Each token is read back from its own text. -/
lemma scanAfter_text {b : Bool} {t : Token} (h : t.Fits b) :
    scanAfter b (t.text.toList ++ r) = t :: scanAfter (t == .colon) r := by
  cases t with
  | word w => exact scanAfter_wordText hr h
  | quoted v => exact Written.scanAfter_quoted b v r
  | comparison op =>
    obtain rfl : b = false := h
    have hne : op.symbol.toList ≠ [] := by cases op <;> decide
    have ho : leadingOperator? (op.symbol.toList ++ r) = some (op, r) := by
      rw [leadingOperator?_append hr hne]
      cases op <;> rfl
    cases op <;> exact scanAfter_operator (by decide) rfl (by decide) ho
  | colon | comma | opening | closing => exact scanAfter_mark (by decide) rfl
  | connective k =>
    obtain rfl : b = false := h
    cases k <;> exact scanAfter_plainWord (by decide) (.forall_of_all (by decide)) hr.spanWord_eq
  | negation =>
    obtain rfl : b = false := h
    exact scanAfter_plainWord (by decide) (.forall_of_all (by decide)) hr.spanWord_eq

end Text

section Spaced

/-- Tokens written out, each behind a gap, with a last gap at the end. -/
def spaced (items : List (List Char × Token)) (last : List Char) : List Char :=
  items.flatMap (fun i => i.1 ++ i.2.text.toList) ++ last

variable {items : List (List Char × Token)} {gap last s : List Char}

lemma scanAfter_blanks {b : Bool} (hgap : gap.all isBlank) :
    scanAfter b (gap ++ s) = scanAfter b s := by
  induction gap with
  | nil => rfl
  | cons c gap ih =>
    rw [List.all_cons, Bool.and_eq_true] at hgap
    rw [List.cons_append, scanAfter_blank hgap.1, ih hgap.2]

lemma cuts_blanks (hgap : gap.all isBlank) (hs : gap = [] → Cuts s) : Cuts (gap ++ s) := by
  cases gap with
  | nil => exact hs rfl
  | cons c gap =>
    rw [List.all_cons, Bool.and_eq_true] at hgap
    exact cuts_cons (by simp [isValueChar, hgap.1]) (gap ++ s)

variable (hgaps : ∀ i ∈ items, i.1.all isBlank) (hlast : last.all isBlank)
include hgaps hlast

lemma cuts_spaced (hne : ∀ i ∈ items, i.1 ≠ []) : Cuts (spaced items last) := by
  cases items with
  | nil => simpa [spaced] using cuts_blanks hlast (s := []) (fun _ => cuts_nil)
  | cons i items =>
    rw [List.forall_mem_cons] at hgaps hne
    rw [spaced, List.flatMap_cons, List.append_assoc, List.append_assoc]
    exact cuts_blanks hgaps.1 (fun h => absurd h hne.1)

lemma scanAfter_spaced {b : Bool} (hlex : Lexical b (items.map Prod.snd))
    (hne : ∀ i ∈ items.tail, i.1 ≠ []) :
    scanAfter b (spaced items last) = items.map Prod.snd := by
  induction items generalizing b with
  | nil =>
    rw [spaced, List.flatMap_nil, List.nil_append, ← List.append_nil last, scanAfter_blanks hlast,
      scanAfter_nil, List.map_nil]
  | cons i items ih =>
    rw [List.forall_mem_cons] at hgaps
    obtain ⟨hfits, hlex⟩ := hlex
    rw [spaced, List.flatMap_cons, List.append_assoc, List.append_assoc, ← spaced,
      scanAfter_blanks hgaps.1, scanAfter_text (cuts_spaced hgaps.2 hlast hne) hfits,
      ih hgaps.2 hlex (fun j hj => hne j (List.mem_of_mem_tail hj)), List.map_cons]

end Spaced

/-- The lexical lists are the ones that texts have as their tokens, and each is read back from its
tokens written out with blanks between them. -/
theorem scan_exact :
    (∀ ts, Lexical false ts ↔ ∃ s, scan s = ts) ∧
      ∀ (items : List (List Char × Token)) (last : List Char),
        Lexical false (items.map Prod.snd) →
        (∀ i ∈ items, i.1.all isBlank) → last.all isBlank → (∀ i ∈ items.tail, i.1 ≠ []) →
        scan (.ofList (spaced items last)) = items.map Prod.snd := by
  have hread (items : List (List Char × Token)) (last : List Char)
      (hlex : Lexical false (items.map Prod.snd)) (hgaps : ∀ i ∈ items, i.1.all isBlank)
      (hlast : last.all isBlank) (hne : ∀ i ∈ items.tail, i.1 ≠ []) :
      scan (.ofList (spaced items last)) = items.map Prod.snd := by
    rw [scan, String.toList_ofList]
    exact scanAfter_spaced hgaps hlast hlex hne
  refine ⟨fun ts => ⟨fun hlex => ?_, ?_⟩, hread⟩
  · -- one blank before every token is enough
    let items : List (List Char × Token) := ts.map fun t => ([' '], t)
    have hgap : ∀ i ∈ items, i.1 = [' '] := by simp [items]
    have hts : items.map Prod.snd = ts := by simp [items, Function.comp_def]
    refine ⟨.ofList (spaced items []), (hread items [] ?_ ?_ ?_ ?_).trans hts⟩
    · rwa [hts]
    · intro i hi
      rw [hgap i hi]
      decide
    · rfl
    · intro i hi
      rw [hgap i (List.mem_of_mem_tail hi)]
      exact List.cons_ne_nil _ _
  · rintro ⟨s, rfl⟩
    exact lexical_scanAfter false s.toList

/-- A value may hold keywords and colons, and a lone exclamation mark is part of a word. -/
theorem scan_exact_value :
    Lexical false
      [.word "a", .colon, .word "or:x<1", .comparison .ne, .quoted "\"", .negation, .word "b!"] ∧
    scan "a : or:x<1\t!= \"\\\"\"\nNOT b! " =
      [.word "a", .colon, .word "or:x<1", .comparison .ne, .quoted "\"", .negation, .word "b!"] := by
  have htext : .ofList (spaced [([], .word "a"), ([' '], .colon), ([' '], .word "or:x<1"),
      (['\t'], .comparison .ne), ([' '], .quoted "\""), (['\n'], .negation),
      ([' '], .word "b!")] [' ']) = "a : or:x<1\t!= \"\\\"\"\nNOT b! " := by
    decide +kernel
  have hlex : Lexical false
      [.word "a", .colon, .word "or:x<1", .comparison .ne, .quoted "\"", .negation, .word "b!"] := by
    decide +kernel
  refine ⟨hlex, ?_⟩
  rw [← htext]
  exact scan_exact.2 _ _ hlex (by decide +kernel) (by decide +kernel) (by decide +kernel)

end FacetSearch.Filter
