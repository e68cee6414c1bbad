import FacetSearch.Proofs.Filter.Scan
import FacetSearch.Proofs.Filter.Written
import FacetSearch.Proofs.Text.Letters
import FacetSearch.Proofs.Text.Numeral

/-! The words of a filter read back: names, numbers, operators and quoted values, each with any text
behind it that ends it. -/
namespace FacetSearch.Filter
open Unicode

/-- The characters that do not end a word. -/
def IsPlain (c : Char) : Prop :=
  isBlank c = false ∧ c ∉ ['(', ')', ',', ':', '"', '!', '=', '<', '>']

instance (c : Char) : Decidable (IsPlain c) := inferInstanceAs (Decidable (_ ∧ _))

namespace IsPlain

variable {c : Char}

lemma mark? (h : IsPlain c) : mark? c = none := by
  unfold Filter.mark?
  split <;> first | rfl | exact absurd h.2 (by decide)

lemma leadingOperator? (h : IsPlain c) (s : List Char) : leadingOperator? (c :: s) = none := by
  unfold Filter.leadingOperator?
  split <;> first | rfl | (next heq => cases heq; exact absurd h.2 (by decide))

lemma ne_quote (h : IsPlain c) : c ≠ '"' := by
  rintro rfl
  exact absurd h.2 (by decide)

lemma isValueChar (h : IsPlain c) : isValueChar c := by
  obtain ⟨hb, hc⟩ := h
  simp only [List.mem_cons, not_or] at hc
  simp [Filter.isValueChar, hb, hc]

lemma of_isNameChar (h : isNameChar c) : IsPlain c := by
  refine ⟨by simpa using not_isBlank_of_isNameChar h, fun hc => ?_⟩
  -- Decided along the list: for all characters of it would be decided by trying every character.
  have hname : ['(', ')', ',', ':', '"', '!', '=', '<', '>'].all fun c => !isNameChar c := by
    decide +kernel
  have hc' := List.all_eq_true.1 hname c hc
  rw [h] at hc'
  cases hc'

lemma of_isDigit (h : c.isDigit) : IsPlain c := by
  apply of_isNameChar
  apply isNameChar_of_isAlphanum
  rw [Char.isAlphanum, h, Bool.or_true]

/-- Decided along the list: for all characters of it would be decided by trying every character. -/
lemma forall_of_all {w : List Char} (hw : w.all (IsPlain ·)) : ∀ c ∈ w, IsPlain c := by
  simpa using hw

end IsPlain

section Words

variable {w r : List Char}

lemma Token.ofWord_eq_word
    (hw : ∀ k ∈ ["and", "or", "not"], Text.equalsIgnoringCase w k.toList = false) :
    Token.ofWord w = .word (.ofList w) := by
  have hand : ¬Text.equalsIgnoringCase w ['a', 'n', 'd'] :=
    Bool.eq_false_iff.1 (hw "and" (by decide))
  have hor : ¬Text.equalsIgnoringCase w ['o', 'r'] :=
    Bool.eq_false_iff.1 (hw "or" (by decide))
  have hnot : ¬Text.equalsIgnoringCase w ['n', 'o', 't'] :=
    Bool.eq_false_iff.1 (hw "not" (by decide))
  rw [Token.ofWord, if_neg hand, if_neg hor, if_neg hnot]

lemma spanWord_of_isPlain (hw : ∀ c ∈ w, IsPlain c) (hr : spanWord r = ([], r)) :
    spanWord (w ++ r) = (w, r) := by
  induction w with
  | nil => exact hr
  | cons c w ih =>
    rw [List.forall_mem_cons] at hw
    obtain ⟨hc, hw⟩ := hw
    have hgo : (isBlank c || c == '"' || (mark? c).isSome ||
        (leadingOperator? (c :: (w ++ r))).isSome) = false := by
      simp [hc.1, hc.ne_quote, hc.mark?, hc.leadingOperator?]
    rw [List.cons_append, spanWord, hgo, ih hw]
    rfl

/-- A word ends before a blank or a mark. -/
lemma scanAfter_plainWord (hne : w ≠ []) (hw : ∀ c ∈ w, IsPlain c) (hr : spanWord r = ([], r)) :
    scanAfter false (w ++ r) = .ofWord w :: scanAfter false r := by
  obtain ⟨c, w, rfl⟩ := List.exists_cons_of_ne_nil hne
  rw [List.forall_mem_cons] at hw
  obtain ⟨hc, hw⟩ := hw
  have hb : ¬isBlank c := by simp [hc.1]
  rw [List.cons_append, scanAfter_word hb hc.mark? hc.ne_quote (hc.leadingOperator? _),
    spanWord_of_isPlain hw hr]

lemma scanAfter_keyword {t : Token} (hne : w ≠ []) (hw : w.all (IsPlain ·))
    (ht : Token.ofWord w = t) (r : List Char) :
    scanAfter false (w ++ ' ' :: r) = t :: scanAfter false r := by
  rw [scanAfter_plainWord hne (IsPlain.forall_of_all hw) rfl, ht, scanAfter_blank (by decide)]

/-- Behind a colon a word is a value. -/
lemma scanAfter_plainValue (hne : w ≠ []) (hw : ∀ c ∈ w, IsPlain c) (hr : Cuts r) :
    scanAfter true (w ++ r) = .word (.ofList w) :: scanAfter false r := by
  obtain ⟨c, w, rfl⟩ := List.exists_cons_of_ne_nil hne
  rw [List.forall_mem_cons] at hw
  obtain ⟨hc, hw⟩ := hw
  have hb : ¬isBlank c := by simp [hc.1]
  obtain ⟨htake, hdrop⟩ := spanValue_append hr w
  have hvalue : ∀ c ∈ w, isValueChar c := fun c h => (hw c h).isValueChar
  rw [List.cons_append, scanAfter_value hb hc.mark? hc.ne_quote, htake, hdrop,
    List.takeWhile_eq_self_iff.2 hvalue, List.dropWhile_eq_nil_iff.2 hvalue, List.nil_append]

lemma scanAfter_symbol (op : Operator) (r : List Char) :
    scanAfter false (op.symbol.toList ++ ' ' :: r) = .comparison op :: scanAfter false r := by
  have hblank : scanAfter false (' ' :: r) = scanAfter false r := scanAfter_blank (by decide)
  rw [← hblank]
  cases op <;> exact scanAfter_operator (by decide) rfl (by decide) rfl

end Words

namespace Written

lemma spanQuoted_escaped (v r : List Char) : spanQuoted (escaped v ++ '"' :: r) = (v, r) := by
  induction v with
  | nil => rw [escaped, List.flatMap_nil, List.nil_append, spanQuoted]
  | cons c v ih =>
    rw [escaped, List.flatMap_cons, ← escaped]
    split_ifs with hc
    · rw [List.append_assoc, List.cons_append, List.cons_append, List.nil_append, spanQuoted, ih]
      rfl
    · rw [not_or] at hc
      rw [List.append_assoc, List.cons_append, List.nil_append, spanQuoted, ih]
      · rfl
      · exact hc.1
      · exact fun h => absurd h hc.2
      · exact fun _ _ h => absurd h hc.2

lemma scanAfter_quoted (b : Bool) (v : String) (r : List Char) :
    scanAfter b ((quoted v).toList ++ r) = .quoted v :: scanAfter false r := by
  have htext : (quoted v).toList ++ r = '"' :: (escaped v.toList ++ '"' :: r) := by
    simp [quoted]
  rw [htext, scanAfter_quote, spanQuoted_escaped, String.ofList_toList]

section Integers

variable (n : ℤ)

lemma minus_or_isDigit_of_mem {c : Char} (h : c ∈ (toString n).toList) : c = '-' ∨ c.isDigit := by
  rw [Text.toList_toString_int] at h
  split at h
  · exact .inr (Text.isDigit_of_mem_toDigits h)
  · exact (List.mem_cons.1 h).imp_right Text.isDigit_of_mem_toDigits

lemma plain_toString : ∀ c ∈ (toString n).toList, IsPlain c := by
  intro c hc
  rcases minus_or_isDigit_of_mem n hc with rfl | hc
  · decide
  · exact .of_isDigit hc

lemma toString_ne_nil : (toString n).toList ≠ [] := by
  rw [Text.toList_toString_int]
  split
  · exact Nat.toDigits_ne_nil
  · exact List.cons_ne_nil _ _

lemma toLower_of_minus_or_isDigit {c : Char} (h : c = '-' ∨ c.isDigit) : c.toLower = c := by
  rcases h with rfl | h
  · rfl
  · rw [Char.isDigit_iff_toNat] at h
    have hlow : ¬('A'.val ≤ c.val ∧ c.val ≤ 'Z'.val) :=
      fun hupper => absurd (Nat.le_trans hupper.1 h.2) (by decide)
    exact dif_neg hlow

/-- No keyword starts like an integer. -/
lemma ofWord_toString : Token.ofWord (toString n).toList = .word (toString n) := by
  obtain ⟨c, s, hs⟩ := List.exists_cons_of_ne_nil (toString_ne_nil n)
  have hc : c = '-' ∨ c.isDigit := minus_or_isDigit_of_mem n (hs ▸ List.mem_cons_self)
  have hne {k : Char} (ks : List Char) (hk : k.toLower ≠ '-' ∧ k.toLower.isDigit = false) :
      ¬Text.equalsIgnoringCase (c :: s) (k :: ks) := by
    intro h
    rw [Text.equalsIgnoringCase, beq_iff_eq, List.map_cons, List.map_cons,
      toLower_of_minus_or_isDigit hc] at h
    rw [← (List.cons.inj h).1] at hk
    rcases hc with hc | hc
    · exact hk.1 hc
    · exact absurd hc (Bool.eq_false_iff.1 hk.2)
  rw [← String.ofList_toList (s := toString n), String.toList_ofList, hs, Token.ofWord,
    if_neg (hne _ (by decide)), if_neg (hne _ (by decide)), if_neg (hne _ (by decide))]

variable {r : List Char} (hr : Cuts r)
include hr

lemma scanAfter_toString :
    scanAfter false ((toString n).toList ++ r) = .word (toString n) :: scanAfter false r := by
  rw [scanAfter_plainWord (toString_ne_nil n) (plain_toString n) hr.spanWord_eq, ofWord_toString]

lemma scanAfter_toString_value :
    scanAfter true ((toString n).toList ++ r) = .word (toString n) :: scanAfter false r := by
  rw [scanAfter_plainValue (toString_ne_nil n) (plain_toString n) hr, String.ofList_toList]

end Integers

namespace Name

variable (a : Name)

lemma ne_nil : a.text.toList ≠ [] :=
  String.toList_eq_nil_iff.not.2 (isAttributeName_iff.1 a.isAttributeName).1

lemma plain : ∀ c ∈ a.text.toList, IsPlain c :=
  fun c hc => .of_isNameChar ((isAttributeName_iff.1 a.isAttributeName).2 c hc)

lemma ofWord_eq : Token.ofWord a.text.toList = .word a.text := by
  rw [Token.ofWord_eq_word a.ne_keyword, String.ofList_toList]

lemma scanAfter_name {r : List Char} (hr : spanWord r = ([], r)) :
    scanAfter false (a.text.toList ++ r) = .word a.text :: scanAfter false r := by
  rw [scanAfter_plainWord a.ne_nil a.plain hr, a.ofWord_eq]

end Name
end Written
end FacetSearch.Filter
