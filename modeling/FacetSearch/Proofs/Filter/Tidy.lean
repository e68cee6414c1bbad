import FacetSearch.Proofs.Filter.Partners

/-! Tidying keeps exactly the tokens that mean something: what is no parenthesis, and the partners
that have such a token between them. -/
namespace FacetSearch.Filter

variable {ts us vs : List Token}

section Stray

lemma exists_dropStrayClosings_append (n : ℕ) (ts : List Token) : ∃ m, ∀ us,
    dropStrayClosings n (ts ++ us) = dropStrayClosings n ts ++ dropStrayClosings m us := by
  fun_induction dropStrayClosings n ts with
  | case1 n => exact ⟨n, fun _ => rfl⟩
  | case2 n ts ih | case4 n ts ih =>
    obtain ⟨m, hm⟩ := ih
    exact ⟨m, fun us => by rw [List.cons_append, dropStrayClosings, hm, List.cons_append]⟩
  | case3 ts ih =>
    obtain ⟨m, hm⟩ := ih
    exact ⟨m, fun us => by rw [List.cons_append, dropStrayClosings, hm]⟩
  | case5 n t ts ho hc hc' ih =>
    obtain ⟨m, hm⟩ := ih
    refine ⟨m, fun us => ?_⟩
    rw [List.cons_append, dropStrayClosings, hm, List.cons_append]
    · exact ho
    · exact hc
    · exact hc'

lemma foldr_consClosed_append (ts : List Token) (n : ℕ) (us vs : List Token) :
    ts.foldr consClosed (n, us ++ vs) =
      ((ts.foldr consClosed (n, us)).1, (ts.foldr consClosed (n, us)).2 ++ vs) := by
  induction ts with
  | nil => rfl
  | cons t ts ih =>
    rw [List.foldr_cons, List.foldr_cons, ih]
    generalize ts.foldr consClosed (n, us) = read
    obtain ⟨m, ws⟩ := read
    cases t with
    | opening => cases m <;> rfl
    | _ => rfl

lemma Balanced.paired_closing (h : Balanced us) (vs : List Token) :
    paired (us ++ .closing :: vs) = us ++ paired vs := by
  rw [paired, h.dropStrayClosings_append, dropStrayClosings, dropStrayOpenings, List.foldr_append]
  exact congrArg Prod.snd (h.foldr_consClosed _ _)

lemma Balanced.paired_opening (h : Balanced vs) (us : List Token) :
    paired (us ++ .opening :: vs) = paired us ++ vs := by
  obtain ⟨n, hn⟩ := exists_dropStrayClosings_append 0 us
  have hclosings := h.dropStrayClosings_append (n + 1) []
  have hopenings := h.foldr_consClosed 0 []
  simp only [dropStrayClosings, List.append_nil] at hclosings hopenings
  have hdropped := foldr_consClosed_append (dropStrayClosings 0 us) 0 [] vs
  rw [List.nil_append] at hdropped
  rw [paired, hn, dropStrayClosings, hclosings, dropStrayOpenings, List.foldr_append,
    List.foldr_cons, hopenings, consClosed, hdropped, paired, dropStrayOpenings]

lemma balanced_paired (ts : List Token) : Balanced (paired ts) := by
  induction ts using strayInduction with
  | balanced ts h => rwa [h.paired_eq]
  | closing us vs h ih =>
    rw [h.paired_closing]
    exact h.append ih
  | opening us vs h ih =>
    rw [h.paired_opening]
    exact ih.append h

end Stray

section Empty

/-- Whether somewhere an opening parenthesis stands right before a closing one. -/
def HasEmptyPair (ts : List Token) : Prop := [.opening, .closing] <:+: ts

instance : DecidablePred HasEmptyPair := fun _ => inferInstanceAs (Decidable (_ <:+: _))

lemma hasEmptyPair_cons_iff {t : Token} {ts : List Token} :
    HasEmptyPair (t :: ts) ↔ (t = .opening ∧ ts.head? = some .closing) ∨ HasEmptyPair ts := by
  rw [HasEmptyPair, List.infix_cons_iff, HasEmptyPair, List.cons_prefix_cons]
  apply or_congr_left
  rw [eq_comm]
  apply and_congr_right
  rintro -
  cases ts with
  | nil => simp
  | cons u ts => simp [List.cons_prefix_cons, eq_comm]

lemma consNonempty_eq_cons {t : Token} (h : ¬(t = .opening ∧ ts.head? = some .closing)) :
    consNonempty t ts = t :: ts := by
  rw [consNonempty]
  rintro us rfl rfl
  exact h ⟨rfl, rfl⟩

lemma not_hasEmptyPair_dropEmptyPairs (ts : List Token) : ¬HasEmptyPair (dropEmptyPairs ts) := by
  induction ts with
  | nil => decide
  | cons t ts ih =>
    rw [dropEmptyPairs_cons]
    by_cases h : t = .opening ∧ (dropEmptyPairs ts).head? = some .closing
    · obtain ⟨rfl, hhead⟩ := h
      obtain ⟨us, hus⟩ := List.head?_eq_some_iff.1 hhead
      rw [hus, hasEmptyPair_cons_iff, not_or] at ih
      rw [hus, consNonempty]
      exact ih.2
    · rw [consNonempty_eq_cons h, hasEmptyPair_cons_iff, not_or]
      exact ⟨h, ih⟩

lemma dropEmptyPairs_eq_self (h : ¬HasEmptyPair ts) : dropEmptyPairs ts = ts := by
  induction ts with
  | nil => rfl
  | cons t ts ih =>
    rw [hasEmptyPair_cons_iff, not_or] at h
    rw [dropEmptyPairs_cons, ih h.2, consNonempty_eq_cons h.1]

end Empty

section Content

lemma hasContent_cons_iff {t : Token} : HasContent (t :: ts) ↔ ¬t.isParen ∨ HasContent ts := by
  simp [HasContent]

lemma hasContent_append_iff : HasContent (ts ++ us) ↔ HasContent ts ∨ HasContent us := by
  simp [HasContent, or_and_right, exists_or]

lemma Balanced.dropEmptyPairs_eq_nil_iff (h : Balanced ts) :
    Filter.dropEmptyPairs ts = [] ↔ ¬HasContent ts := by
  induction h with
  | nil => simp [HasContent]
  | @token t ts ho hc _ ih =>
    have ht : ¬t.isParen := by
      simp [Token.isParen_iff, ho, hc]
    rw [dropEmptyPairs_cons, consNonempty_eq_cons fun h => ho h.1, hasContent_cons_iff]
    simp [ht]
  | @pair inner rest hi _ ihi ihr =>
    rw [hi.dropEmptyPairs_pair, hasContent_cons_iff, hasContent_append_iff, hasContent_cons_iff]
    by_cases hinner : Filter.dropEmptyPairs inner = []
    · simp [hinner, ihi.1 hinner, ihr, Token.isParen]
    · simp [hinner, not_not.1 (mt ihi.2 hinner)]

/-- In a balanced list the pairs that are dropped are those without content. -/
lemma Balanced.dropEmptyPairs_eq_meaningful (h : Balanced ts) :
    Filter.dropEmptyPairs ts = meaningful ts := by
  induction h with
  | nil => rfl
  | @token t ts ho hc _ ih =>
    have ht : ¬t.isParen := by
      simp [Token.isParen_iff, ho, hc]
    have hmeaningful := (apart_singleton ho ts).meaningful_append
    rw [meaningful_singleton, if_neg ht, List.singleton_append, List.singleton_append] at hmeaningful
    rw [dropEmptyPairs_cons, consNonempty_eq_cons fun h => ho h.1, ih, hmeaningful]
  | @pair inner rest hi _ ihi ihr =>
    have happend : Token.opening :: (inner ++ .closing :: rest) =
        (.opening :: (inner ++ [.closing])) ++ rest := by
      simp
    rw [hi.dropEmptyPairs_pair, happend, (hi.enclosed.apart rest).meaningful_append,
      hi.meaningful_enclosed, ← ihi, ← ihr]
    by_cases hc : HasContent inner
    · have hne := mt hi.dropEmptyPairs_eq_nil_iff.1 (not_not.2 hc)
      simp [hc, hne]
    · simp [hc, hi.dropEmptyPairs_eq_nil_iff.2 hc]

end Content

section Tidy

lemma Balanced.tidy_closing (h : Balanced us) (vs : List Token) :
    tidy (us ++ .closing :: vs) = tidy us ++ tidy vs := by
  rw [tidy_eq_paired, h.paired_closing, h.dropEmptyPairs_append, h.tidy_eq, tidy_eq_paired]

lemma Balanced.tidy_opening (h : Balanced vs) (us : List Token) :
    tidy (us ++ .opening :: vs) = tidy us ++ tidy vs := by
  rw [tidy_eq_paired, h.paired_opening, (balanced_paired us).dropEmptyPairs_append, h.tidy_eq,
    tidy_eq_paired]

lemma tidy_eq_meaningful (ts : List Token) : tidy ts = meaningful ts := by
  have hclosing : meaningful [.closing] = [] := meaningful_singleton _
  have hopening : meaningful [.opening] = [] := meaningful_singleton _
  induction ts using strayInduction with
  | balanced ts h => rw [h.tidy_eq, h.dropEmptyPairs_eq_meaningful]
  | closing us vs h ih =>
    have hstray : Apart [.closing] vs := apart_singleton (by decide) vs
    rw [h.tidy_closing, (h.apart _).meaningful_append, ← List.singleton_append,
      hstray.meaningful_append, hclosing, List.nil_append, ih, h.tidy_eq,
      h.dropEmptyPairs_eq_meaningful]
  | opening us vs h ih =>
    have hstray : Apart us [.opening] := apart_singleton_right (by decide) us
    rw [h.tidy_opening, List.append_cons, (h.apart_of_right _).meaningful_append,
      hstray.meaningful_append, hopening, List.append_nil, ih, h.tidy_eq,
      h.dropEmptyPairs_eq_meaningful]

/-- The tokens that are no parentheses. -/
def content (ts : List Token) : List Token := ts.filter fun t => !t.isParen

lemma content_meaningful (ts : List Token) : content (meaningful ts) = content ts := by
  have hkept : ∀ x ∈ ts.zipIdx, (!x.1.isParen && decide (IsMeaningful ts x.2)) = !x.1.isParen := by
    intro x hx
    have hget : ts[x.2]? = some x.1 := List.mk_mem_zipIdx_iff_getElem?.1 hx
    by_cases hparen : x.1.isParen
    · simp [hparen]
    · have hm : IsMeaningful ts x.2 := .inl ⟨x.1, hget, hparen⟩
      simp [hm]
  calc content (meaningful ts)
      = ((ts.zipIdx.filter fun x => !x.1.isParen && decide (IsMeaningful ts x.2)).map Prod.fst) := by
        rw [content, meaningful, tokensAt, List.filter_map, List.filter_filter]
        rfl
    _ = (ts.zipIdx.filter fun x => !x.1.isParen).map Prod.fst := by
        rw [List.filter_congr hkept]
    _ = content ts := by
        rw [content, ← List.zipIdx_map_fst 0 ts, List.filter_map, List.zipIdx_map_fst]
        rfl

end Tidy

/-- Tidying keeps exactly the tokens that mean something. -/
theorem tidy_exact (ts : List Token) :
    tidy ts = meaningful ts ∧ content (tidy ts) = content ts ∧
      Balanced (tidy ts) ∧ ¬HasEmptyPair (tidy ts) ∧ tidy (tidy ts) = tidy ts ∧
      (tidy ts = ts ↔ Balanced ts ∧ ¬HasEmptyPair ts) := by
  have hbalanced : Balanced (tidy ts) := (balanced_paired ts).dropEmptyPairs
  have hempty : ¬HasEmptyPair (tidy ts) := not_hasEmptyPair_dropEmptyPairs _
  have hself {us : List Token} (hb : Balanced us) (he : ¬HasEmptyPair us) : tidy us = us := by
    rw [hb.tidy_eq, dropEmptyPairs_eq_self he]
  refine ⟨tidy_eq_meaningful ts, ?_, hbalanced, hempty, hself hbalanced hempty, ?_, ?_⟩
  · rw [tidy_eq_meaningful, content_meaningful]
  · intro h
    rw [h] at hbalanced hempty
    exact ⟨hbalanced, hempty⟩
  · rintro ⟨hb, he⟩
    exact hself hb he

example :
    meaningful [.closing, .opening, .opening, .word "a", .closing, .comma, .opening, .closing] =
      [.opening, .word "a", .closing, .comma] := by
  decide +kernel

end FacetSearch.Filter
