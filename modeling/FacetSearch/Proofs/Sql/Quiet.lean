import FacetSearch.Proofs.Sql.Region
import FacetSearch.Proofs.Text.Numeral

/-! Text that may stand outside quotes: it neither ends the statement nor starts a comment, and
texts of this kind stay so when they are put together. -/
namespace FacetSearch.Sql

/-- Whether a text has no semicolon, no slash, and a character other than a dash behind each dash.
-/
def isQuiet : List Char → Bool
  | [] => true
  | c :: s => c != ';' && c != '/' && (c != '-' || s.head?.any (· != '-')) && isQuiet s

lemma isQuiet_append {s t : List Char} (hs : isQuiet s) (ht : isQuiet t) : isQuiet (s ++ t) := by
  induction s with
  | nil => exact ht
  | cons c s ih =>
    simp only [isQuiet, Bool.and_eq_true] at hs
    obtain ⟨⟨hc, hdash⟩, hrest⟩ := hs
    simp only [List.cons_append, isQuiet, Bool.and_eq_true]
    refine ⟨⟨hc, ?_⟩, ih hrest⟩
    cases s with
    | nil => simp_all
    | cons d s => exact hdash

lemma isQuiet_of_append {s t : List Char} (h : isQuiet (s ++ t)) : isQuiet t := by
  induction s with
  | nil => exact h
  | cons c s ih =>
    simp only [List.cons_append, isQuiet, Bool.and_eq_true] at h
    exact ih h.2

lemma not_mem_of_isQuiet {s : List Char} (h : isQuiet s) : ';' ∉ s ∧ '/' ∉ s := by
  induction s with
  | nil => simp
  | cons c s ih =>
    simp only [isQuiet, Bool.and_eq_true, bne_iff_ne] at h
    obtain ⟨⟨⟨hsemi, hslash⟩, -⟩, hrest⟩ := h
    simp [ih hrest, hsemi.symm, hslash.symm]

lemma not_infix_dashes_of_isQuiet {s : List Char} (h : isQuiet s) : ¬ ['-', '-'] <:+: s := by
  rintro ⟨u, v, rfl⟩
  rw [List.append_assoc] at h
  have := isQuiet_of_append h
  simp [isQuiet] at this

lemma not_infix_comment_of_isQuiet {s : List Char} (h : isQuiet s) : ¬ ['/', '*'] <:+: s := by
  intro hi
  exact (not_mem_of_isQuiet h).2 (hi.subset List.mem_cons_self)

lemma isQuiet_of_forall {s : List Char} (h : ∀ c ∈ s, c ≠ ';' ∧ c ≠ '/' ∧ c ≠ '-') :
    isQuiet s := by
  induction s with
  | nil => rfl
  | cons c s ih =>
    have hs := ih fun d hd => h d (List.mem_cons_of_mem c hd)
    simp [isQuiet, h c List.mem_cons_self, hs]

/-- A text that may stand outside quotes as it is. -/
def IsPlain (s : List Char) : Prop := isQuiet s ∧ ∀ c ∈ s, Mark.ofChar? c = none

-- the list is searched, not the characters there are
instance (s : List Char) : Decidable (IsPlain s) :=
  decidable_of_iff (isQuiet s ∧ s.all fun c => Mark.ofChar? c = none) (by simp [IsPlain])

lemma IsPlain.append {s t : List Char} (hs : IsPlain s) (ht : IsPlain t) : IsPlain (s ++ t) := by
  refine ⟨isQuiet_append hs.1 ht.1, ?_⟩
  intro c hc
  rcases List.mem_append.1 hc with hc | hc
  · exact hs.2 c hc
  · exact ht.2 c hc

/-- The characters that make no trouble in any order. -/
def isCalm (c : Char) : Bool := c != ';' && c != '/' && c != '-' && c != '"' && c != '\''

lemma isPlain_of_isCalm {s : List Char} (h : ∀ c ∈ s, isCalm c) : IsPlain s := by
  constructor
  · apply isQuiet_of_forall
    intro c hc
    have := h c hc
    simp_all [isCalm]
  · intro c hc
    have := h c hc
    simp_all [isCalm, Mark.ofChar?]

lemma isPlain_of_isDigit {s : List Char} (h : ∀ c ∈ s, c.isDigit) : IsPlain s := by
  apply isPlain_of_isCalm
  intro c hc
  have hd := h c hc
  simp only [isCalm, Bool.and_eq_true, bne_iff_ne]
  refine ⟨⟨⟨⟨?_, ?_⟩, ?_⟩, ?_⟩, ?_⟩ <;> (rintro rfl; exact absurd hd (by decide))

/-- A sign is plain before a number. -/
lemma IsPlain.signed {sign s : List Char} (hsign : Text.Decimal.IsSign sign) (hs : IsPlain s)
    (hfirst : s.head?.any (· != '-')) : IsPlain (sign ++ s) := by
  rcases hsign with rfl | rfl | rfl
  · exact hs
  · exact IsPlain.append (by decide) hs
  · refine ⟨by simp [isQuiet, hs.1, hfirst], ?_⟩
    intro c hc
    rcases List.mem_cons.1 hc with rfl | hc
    · rfl
    · exact hs.2 c hc

/-- A number is plain: no dash stands before another, and none is at the end. -/
lemma isPlain_of_isFiniteDecimal {s : List Char} (h : Text.isFiniteDecimal s) : IsPlain s := by
  obtain ⟨f⟩ := Text.Decimal.nonempty_form h
  have hfraction : IsPlain f.fraction := by
    rcases f.isFraction with hf | ⟨ds, hf, hds⟩
    · rw [hf]
      decide
    · rw [hf]
      exact IsPlain.append (s := ['.']) (by decide) (isPlain_of_isDigit hds)
  have hexponent : IsPlain f.exponent := by
    rcases f.isExponent with he | ⟨mark, sign, d, ds, he, hmark, hsign, hds⟩
    · rw [he]
      decide
    · have hd : d ≠ '-' := by
        rintro rfl
        exact absurd (hds _ List.mem_cons_self) (by decide)
      have hmark' : IsPlain [mark] := by
        rcases hmark with rfl | rfl <;> decide
      rw [he]
      exact hmark'.append ((isPlain_of_isDigit hds).signed hsign (by simp [hd]))
  obtain ⟨c, cs, hmagnitude, hc⟩ := Text.Decimal.exists_cons_magnitude f
  have hfirst : c ≠ '-' := by
    rintro rfl
    exact absurd hc (by decide)
  rw [f.eq_append]
  apply IsPlain.signed f.isSign
  · exact (isPlain_of_isDigit f.isDigit_whole).append (hfraction.append hexponent)
  · simp [hmagnitude, hfirst]

end FacetSearch.Sql
