import FacetSearch.Text.Basic
import Mathlib.Data.List.TakeWhile
import Mathlib.Tactic.Common

/-! Trimming a text: no blank is left at either end, and a text without blanks there stays as it is.
Cutting it at the last separator: none stands behind it. -/
namespace FacetSearch.Text
open Unicode

/-- Whether a text neither starts nor ends with a blank. -/
def Trimmed (s : List Char) : Prop :=
  (∀ c ∈ s.head?, ¬isBlank c) ∧ ∀ c ∈ s.getLast?, ¬isBlank c

lemma Trimmed.of_forall {s : List Char} (h : ∀ c ∈ s, ¬isBlank c) : Trimmed s :=
  ⟨fun c hc => h c (List.mem_of_mem_head? hc), fun c hc => h c (List.mem_of_mem_getLast? hc)⟩

lemma dropWhile_eq_self {p : Char → Bool} {s : List Char} (h : ∀ c ∈ s.head?, ¬p c) :
    s.dropWhile p = s := by
  cases s with
  | nil => rfl
  | cons c s =>
    have hc : ¬p c := h c rfl
    rw [List.dropWhile_cons, if_neg hc]

section Spans

variable {p : Char → Bool} {s r : List Char} (hs : ∀ c ∈ s, p c) (hr : ∀ c ∈ r.head?, ¬p c)
include hs hr

lemma dropWhile_append_of_head? : (s ++ r).dropWhile p = r := by
  rw [List.dropWhile_append_of_pos hs, dropWhile_eq_self hr]

lemma takeWhile_append_of_head? : (s ++ r).takeWhile p = s := by
  have hsplit := (s ++ r).takeWhile_append_dropWhile (p := p)
  rw [dropWhile_append_of_head? hs hr] at hsplit
  exact List.append_cancel_right hsplit

end Spans

lemma not_of_mem_head?_dropWhile {p : Char → Bool} {s : List Char} :
    ∀ c ∈ (s.dropWhile p).head?, ¬p c := by
  intro c hc
  have hnot := s.head?_dropWhile_not p
  rw [Option.mem_def.1 hc] at hnot
  simpa using hnot

lemma trimmed_trim (s : List Char) : Trimmed (trim s) := by
  constructor
  · intro c hc
    -- what is dropped at the end leaves the first character of what was left at the start
    obtain ⟨t, ht⟩ := (s.dropWhile isBlank).reverse.dropWhile_suffix isBlank
    have hstart : s.dropWhile isBlank = trim s ++ t.reverse := by
      rw [trim, ← List.reverse_append, ht, List.reverse_reverse]
    apply not_of_mem_head?_dropWhile (s := s)
    rw [hstart, List.head?_append, Option.mem_def.1 hc]
    rfl
  · intro c hc
    rw [trim, List.getLast?_reverse] at hc
    exact not_of_mem_head?_dropWhile c hc

lemma trim_eq_self {s : List Char} (h : Trimmed s) : trim s = s := by
  have hend : s.reverse.dropWhile isBlank = s.reverse := by
    apply dropWhile_eq_self
    rw [List.head?_reverse]
    exact h.2
  rw [trim, dropWhile_eq_self h.1, hend, List.reverse_reverse]

/-- A blank may stand between two texts, but not at the ends of what they make together. -/
lemma Trimmed.append {s t : List Char} (hs : Trimmed s) (hne : s ≠ [])
    (ht : ∀ c ∈ t.getLast?, ¬isBlank c) : Trimmed (s ++ t) := by
  constructor
  · obtain ⟨c, s, rfl⟩ := List.exists_cons_of_ne_nil hne
    exact hs.1
  · intro c hc
    rw [List.getLast?_append, Option.mem_def, Option.or_eq_some_iff] at hc
    obtain hc | ⟨-, hc⟩ := hc
    · exact ht c hc
    · exact hs.2 c hc

lemma forall_mem_reverse_bne {separator : Char} {s : List Char} (h : separator ∉ s) :
    ∀ c ∈ s.reverse, (c != separator) = true := by
  intro c hc
  rw [List.mem_reverse] at hc
  exact bne_iff_ne.2 fun heq => h (heq ▸ hc)

lemma cutLast?_append {separator : Char} (front : List Char) {back : List Char}
    (h : separator ∉ back) :
    cutLast? separator (front ++ separator :: back) = some (front, back) := by
  have hreverse : (front ++ separator :: back).reverse =
      back.reverse ++ separator :: front.reverse := by simp
  have hback := forall_mem_reverse_bne h
  rw [cutLast?, cutFirst?, hreverse, List.dropWhile_append_of_pos hback,
    List.takeWhile_append_of_pos hback]
  simp

lemma cutLast?_of_not_mem {separator : Char} {s : List Char} (h : separator ∉ s) :
    cutLast? separator s = none := by
  rw [cutLast?, cutFirst?, List.dropWhile_eq_nil_iff.2 (forall_mem_reverse_bne h)]
  rfl

lemma exists_last_of_mem {c : Char} {s : List Char} (h : c ∈ s) :
    ∃ front back, s = front ++ c :: back ∧ c ∉ back := by
  obtain ⟨back, front, hs, hback⟩ := List.eq_append_cons_of_mem (List.mem_reverse.2 h)
  refine ⟨front.reverse, back.reverse, ?_, by simpa using hback⟩
  rw [← List.reverse_reverse s, hs]
  simp

end FacetSearch.Text
