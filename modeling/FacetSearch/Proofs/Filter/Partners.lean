import FacetSearch.Proofs.Filter.Depth

/-! Parentheses that are partners, and what tidying keeps: the tokens that are no parentheses, and
the partners that have such a token between them. -/
namespace FacetSearch.Filter

namespace Token

def isParen : Token → Bool
  | opening | closing => true
  | _ => false

lemma isParen_iff {t : Token} : t.isParen ↔ t = opening ∨ t = closing := by
  cases t <;> simp [isParen]

end Token

/-- The tokens between two positions. -/
def between (ts : List Token) (i j : ℕ) : List Token := (ts.take j).drop (i + 1)

/-- The positions of an opening parenthesis and of the closing one that is its partner: what stands
between them is balanced. -/
structure Partners (ts : List Token) (i j : ℕ) : Prop where
  lt : i < j
  opening : ts[i]? = some .opening
  closing : ts[j]? = some .closing
  balanced : Balanced (between ts i j)

instance (ts : List Token) (i j : ℕ) : Decidable (Partners ts i j) :=
  decidable_of_iff
    (i < j ∧ ts[i]? = some .opening ∧ ts[j]? = some .closing ∧ Balanced (between ts i j))
    ⟨fun h => ⟨h.1, h.2.1, h.2.2.1, h.2.2.2⟩, fun h => ⟨h.1, h.2, h.3, h.4⟩⟩

/-- Whether some token is no parenthesis. -/
def HasContent (ts : List Token) : Prop := ∃ t ∈ ts, ¬t.isParen

instance (ts : List Token) : Decidable (HasContent ts) := inferInstanceAs (Decidable (∃ t ∈ ts, _))

/-- Partners with some content between them. -/
def Encloses (ts : List Token) (i j : ℕ) : Prop := Partners ts i j ∧ HasContent (between ts i j)

instance (ts : List Token) (i j : ℕ) : Decidable (Encloses ts i j) :=
  inferInstanceAs (Decidable (_ ∧ _))

/-- Whether a position holds a token that means something: one that is no parenthesis, or a
parenthesis that has a partner and some content between the two. -/
def IsMeaningful (ts : List Token) (i : ℕ) : Prop :=
  (∃ t ∈ ts[i]?, ¬t.isParen) ∨ ∃ j < ts.length, Encloses ts i j ∨ Encloses ts j i

instance (ts : List Token) : DecidablePred (IsMeaningful ts) :=
  fun _ => inferInstanceAs (Decidable (_ ∨ _))

/-- The tokens at the positions with a property, where positions count from `n` on. -/
def tokensAt (p : ℕ → Prop) [DecidablePred p] (n : ℕ) (ts : List Token) : List Token :=
  ((ts.zipIdx n).filter fun x => p x.2).map Prod.fst

/-- The tokens at the positions that mean something. -/
def meaningful (ts : List Token) : List Token := tokensAt (IsMeaningful ts) 0 ts

variable {ts us : List Token} {i j : ℕ}

section Parts

lemma eq_take_append_drop {t : Token} (h : ts[i]? = some t) :
    ts = ts.take i ++ t :: ts.drop (i + 1) := by
  obtain ⟨hi, rfl⟩ := List.getElem?_eq_some_iff.1 h
  rw [List.getElem_cons_drop, List.take_append_drop]

/-- A list taken apart at two partners. -/
lemma encloses_iff : Encloses ts i j ↔ ∃ front inner back,
    ts = front ++ .opening :: (inner ++ .closing :: back) ∧ Balanced inner ∧ HasContent inner ∧
      front.length = i ∧ i + inner.length + 1 = j := by
  constructor
  · rintro ⟨⟨hlt, hopening, hclosing, hbalanced⟩, hcontent⟩
    have hj : j < ts.length := (List.getElem?_eq_some_iff.1 hclosing).1
    have hopening' : (ts.take j)[i]? = some .opening := by
      rw [List.getElem?_take_of_lt hlt, hopening]
    refine ⟨(ts.take j).take i, between ts i j, ts.drop (j + 1), ?_, hbalanced, hcontent, ?_, ?_⟩
    · rw [between, ← List.cons_append, ← List.append_assoc, ← eq_take_append_drop hopening',
        ← eq_take_append_drop hclosing]
    · simp only [List.length_take]
      omega
    · simp only [between, List.length_drop, List.length_take]
      omega
  · rintro ⟨front, inner, back, rfl, hbalanced, hcontent, rfl, rfl⟩
    have hbetween : between (front ++ .opening :: (inner ++ .closing :: back)) front.length
        (front.length + inner.length + 1) = inner := by
      simp [between, List.take_append, List.drop_append, Nat.add_assoc]
    refine ⟨⟨by omega, by simp, ?_, by rwa [hbetween]⟩, by rwa [hbetween]⟩
    rw [Nat.add_assoc, List.getElem?_append_right (Nat.le_add_right _ _)]
    simp

lemma Encloses.lt_length (h : Encloses ts i j) : i < ts.length ∧ j < ts.length :=
  ⟨(List.getElem?_eq_some_iff.1 h.1.opening).1, (List.getElem?_eq_some_iff.1 h.1.closing).1⟩

lemma isMeaningful_iff : IsMeaningful ts i ↔
    (∃ t ∈ ts[i]?, ¬t.isParen) ∨ ∃ j, Encloses ts i j ∨ Encloses ts j i := by
  apply or_congr_right
  constructor
  · rintro ⟨j, -, h⟩
    exact ⟨j, h⟩
  · rintro ⟨j, h⟩
    exact ⟨j, h.elim (fun h => h.lt_length.2) fun h => h.lt_length.1, h⟩

end Parts

/-- No two partners have one in each of two lists. -/
def Apart (ts us : List Token) : Prop :=
  ∀ front inner inner' back, ts = front ++ .opening :: inner → us = inner' ++ .closing :: back →
    ¬Balanced (inner ++ inner')

section Apart

lemma Balanced.apart (h : Balanced ts) (us : List Token) : Apart ts us := by
  rintro front inner inner' back rfl - hb
  -- Behind the opening parenthesis of the front no more are closed than opened.
  have hts := h.depth?_eq 0
  have hinner := hb.depth?_eq 0
  rw [depth?_append] at hts hinner
  obtain ⟨n, -, hn⟩ := Option.bind_eq_some_iff.1 hts
  obtain ⟨m, hm, -⟩ := Option.bind_eq_some_iff.1 hinner
  rw [depth?, ← Nat.zero_add (n + 1), depth?_add hm] at hn
  cases hn

lemma Balanced.apart_of_right (h : Balanced us) (ts : List Token) : Apart ts us := by
  rintro front inner inner' back - rfl hb
  have hus := h.depth?_eq 0
  have hinner := hb.depth?_eq 0
  rw [depth?_append] at hus hinner
  obtain ⟨n, hn, hback⟩ := Option.bind_eq_some_iff.1 hus
  obtain ⟨m, -, hm⟩ := Option.bind_eq_some_iff.1 hinner
  rw [← Nat.zero_add m, depth?_add hn] at hm
  obtain rfl : n = 0 := by
    simp only [Option.some.injEq] at hm
    omega
  cases hback

lemma apart_singleton {t : Token} (ht : t ≠ .opening) (us : List Token) : Apart [t] us := by
  rintro front inner inner' back hts
  cases front with
  | nil => exact absurd (List.cons.inj hts).1 ht
  | cons u front => simp at hts

lemma apart_singleton_right {t : Token} (ht : t ≠ .closing) (ts : List Token) : Apart ts [t] := by
  rintro front inner inner' back - hus
  cases inner' with
  | nil => exact absurd (List.cons.inj hus).1 ht
  | cons u inner' => simp at hus

/-- Partners in a concatenation are partners in one of its parts. -/
lemma Apart.encloses_iff (h : Apart ts us) : Encloses (ts ++ us) i j ↔
    Encloses ts i j ∨ ∃ k l, i = ts.length + k ∧ j = ts.length + l ∧ Encloses us k l := by
  simp only [Filter.encloses_iff]
  constructor
  · rintro ⟨front, inner, back, heq, hb, hc, rfl, rfl⟩
    rcases List.append_eq_append_iff.1 heq with ⟨vs, rfl, rfl⟩ | ⟨vs, rfl, hvs⟩
    · exact .inr ⟨vs.length, vs.length + inner.length + 1, by simp, by simp [Nat.add_assoc],
        vs, inner, back, rfl, hb, hc, rfl, rfl⟩
    · cases vs with
      | nil =>
        exact .inr ⟨0, inner.length + 1, by simp, by simp [Nat.add_assoc],
          [], inner, back, hvs.symm, hb, hc, rfl, by simp⟩
      | cons v vs =>
        obtain ⟨rfl, hinner⟩ := List.cons.inj hvs
        rcases List.append_eq_append_iff.1 hinner with ⟨ws, rfl, hws⟩ | ⟨ws, rfl, rfl⟩
        · cases ws with
          | nil => exact absurd hb (by simpa using h front inner [] back (by simp) hws.symm)
          | cons w ws =>
            obtain ⟨rfl, hback⟩ := List.cons.inj hws
            exact .inl ⟨front, inner, ws, rfl, hb, hc, rfl, rfl⟩
        · exact absurd hb (h front vs ws back rfl rfl)
  · rintro (⟨front, inner, back, rfl, hb, hc, rfl, rfl⟩ |
      ⟨k, l, rfl, rfl, front, inner, back, rfl, hb, hc, rfl, rfl⟩)
    · exact ⟨front, inner, back ++ us, by simp, hb, hc, rfl, rfl⟩
    · exact ⟨ts ++ front, inner, back, by simp, hb, hc, by simp, by omega⟩

lemma Apart.isMeaningful_left_iff (h : Apart ts us) (hi : i < ts.length) :
    IsMeaningful (ts ++ us) i ↔ IsMeaningful ts i := by
  simp only [isMeaningful_iff, h.encloses_iff, List.getElem?_append_left hi]
  apply or_congr_right
  apply exists_congr
  intro j
  have hnot {k : ℕ} : i ≠ ts.length + k := by omega
  simp [hnot]

lemma Apart.isMeaningful_right_iff (h : Apart ts us) (i : ℕ) :
    IsMeaningful (ts ++ us) (ts.length + i) ↔ IsMeaningful us i := by
  have hget : (ts ++ us)[ts.length + i]? = us[i]? := by
    rw [List.getElem?_append_right (Nat.le_add_right _ _), Nat.add_sub_cancel_left]
  rw [isMeaningful_iff, isMeaningful_iff, hget]
  apply or_congr_right
  constructor
  · rintro ⟨j, hj | hj⟩ <;> rcases h.encloses_iff.1 hj with hts | ⟨k, l, hk, hl, hus⟩
    · have := hts.lt_length
      omega
    · obtain rfl : i = k := by omega
      exact ⟨l, .inl hus⟩
    · have := hts.lt_length
      omega
    · obtain rfl : i = l := by omega
      exact ⟨k, .inr hus⟩
  · rintro ⟨j, hj | hj⟩
    · exact ⟨ts.length + j, .inl (h.encloses_iff.2 (.inr ⟨i, j, rfl, rfl, hj⟩))⟩
    · exact ⟨ts.length + j, .inr (h.encloses_iff.2 (.inr ⟨j, i, rfl, rfl, hj⟩))⟩

end Apart

section Meaningful

lemma tokensAt_append (p : ℕ → Prop) [DecidablePred p] (n : ℕ) (ts us : List Token) :
    tokensAt p n (ts ++ us) = tokensAt p n ts ++ tokensAt p (n + ts.length) us := by
  rw [tokensAt, List.zipIdx_append, List.filter_append, List.map_append, tokensAt, tokensAt]

lemma tokensAt_congr {p q : ℕ → Prop} [DecidablePred p] [DecidablePred q] {n m : ℕ}
    (h : ∀ i < ts.length, p (n + i) ↔ q (m + i)) : tokensAt p n ts = tokensAt q m ts := by
  induction ts generalizing n m with
  | nil => rfl
  | cons t ts ih =>
    have hhead : p n ↔ q m := h 0 (Nat.succ_pos _)
    have htail : tokensAt p (n + 1) ts = tokensAt q (m + 1) ts := by
      apply ih
      intro i hi
      rw [Nat.add_right_comm, Nat.add_right_comm m]
      exact h (i + 1) (Nat.succ_lt_succ hi)
    simp only [tokensAt] at htail
    simp only [tokensAt, List.zipIdx_cons, List.filter_cons, hhead]
    split <;> simp [htail]

lemma Apart.meaningful_append (h : Apart ts us) :
    meaningful (ts ++ us) = meaningful ts ++ meaningful us := by
  rw [meaningful, tokensAt_append, meaningful, meaningful]
  congr 1
  · apply tokensAt_congr
    intro i hi
    rw [Nat.zero_add]
    exact h.isMeaningful_left_iff hi
  · apply tokensAt_congr
    intro i _
    rw [Nat.zero_add, Nat.zero_add]
    exact h.isMeaningful_right_iff i

lemma meaningful_singleton (t : Token) : meaningful [t] = if t.isParen then [] else [t] := by
  have hnone (j : ℕ) : ¬(Encloses [t] 0 j ∨ Encloses [t] j 0) := by
    rintro (h | h)
    · have := h.1.lt
      have := h.lt_length.2
      simp at this
      omega
    · have := h.1.lt
      omega
  have h : IsMeaningful [t] 0 ↔ ¬t.isParen := by
    simp [isMeaningful_iff, hnone]
  by_cases ht : t.isParen <;> simp [meaningful, tokensAt, h, ht]

/-- Where the list ends with a closing parenthesis there is one behind a pair, unless the pair ends
the list. -/
lemma eq_or_exists_of_append_singleton {vs : List Token} (h : ts ++ [.closing] = us ++ .closing :: vs) :
    (ts = us ∧ vs = []) ∨ ∃ ws, ts = us ++ .closing :: ws ∧ vs = ws ++ [.closing] := by
  rcases vs.eq_nil_or_concat with rfl | ⟨ws, t, rfl⟩
  · exact .inl ⟨List.append_cancel_right h, rfl⟩
  · rw [List.concat_eq_append] at h ⊢
    rw [← List.cons_append, ← List.append_assoc] at h
    obtain ⟨rfl, ht⟩ := List.append_inj' h rfl
    obtain rfl := List.singleton_inj.1 ht
    exact .inr ⟨ws, rfl, rfl⟩

/-- The partners in a pair of parentheses around a balanced list are the pair and those inside. -/
lemma Balanced.encloses_enclosed_iff (h : Balanced ts) :
    Encloses (.opening :: (ts ++ [.closing])) i j ↔
      (HasContent ts ∧ i = 0 ∧ j = ts.length + 1) ∨
        ∃ k l, i = k + 1 ∧ j = l + 1 ∧ Encloses ts k l := by
  simp only [encloses_iff]
  constructor
  · rintro ⟨front, inner, back, heq, hb, hc, rfl, rfl⟩
    cases front with
    | nil =>
      have heq' : ts ++ [.closing] = inner ++ .closing :: back := (List.cons.inj heq).2
      rcases eq_or_exists_of_append_singleton heq' with ⟨rfl, -⟩ | ⟨ws, rfl, -⟩
      · exact .inl ⟨hc, rfl, by simp⟩
      · have hdepth := h.depth?_eq 0
        rw [depth?_append, hb.depth?_eq] at hdepth
        cases hdepth
    | cons v front =>
      have heq' : ts ++ [.closing] = (front ++ .opening :: inner) ++ .closing :: back := by
        rw [(List.cons.inj heq).2]
        simp
      rcases eq_or_exists_of_append_singleton heq' with ⟨rfl, -⟩ | ⟨ws, rfl, -⟩
      · have hdepth := h.depth?_eq 0
        rw [depth?_append] at hdepth
        obtain ⟨n, -, hn⟩ := Option.bind_eq_some_iff.1 hdepth
        rw [depth?, hb.depth?_eq] at hn
        cases hn
      · have hlen : (Token.opening :: front).length + inner.length + 1 =
            front.length + inner.length + 1 + 1 := by
          rw [List.length_cons]
          omega
        exact .inr ⟨front.length, front.length + inner.length + 1, rfl, hlen,
          front, inner, ws, by simp, hb, hc, rfl, rfl⟩
  · rintro (⟨hc, rfl, rfl⟩ | ⟨k, l, rfl, rfl, front, inner, back, rfl, hb, hc, rfl, rfl⟩)
    · exact ⟨[], ts, [], rfl, h, hc, rfl, by simp⟩
    · exact ⟨.opening :: front, inner, back ++ [.closing], by simp, hb, hc, rfl, by omega⟩

section Enclosed

variable (h : Balanced ts)
include h

lemma Balanced.isMeaningful_opening_iff :
    IsMeaningful (.opening :: (ts ++ [.closing])) 0 ↔ HasContent ts := by
  simp [isMeaningful_iff, h.encloses_enclosed_iff, Token.isParen]

lemma Balanced.isMeaningful_closing_iff :
    IsMeaningful (.opening :: (ts ++ [.closing])) (ts.length + 1) ↔ HasContent ts := by
  have hnot {k : ℕ} : ¬Encloses ts ts.length k ∧ ¬Encloses ts k ts.length :=
    ⟨fun hk => Nat.lt_irrefl _ hk.lt_length.1, fun hk => Nat.lt_irrefl _ hk.lt_length.2⟩
  simp [isMeaningful_iff, h.encloses_enclosed_iff, Token.isParen, hnot]

lemma Balanced.isMeaningful_inside_iff (hi : i < ts.length) :
    IsMeaningful (.opening :: (ts ++ [.closing])) (i + 1) ↔ IsMeaningful ts i := by
  have hget : (Token.opening :: (ts ++ [.closing]))[i + 1]? = ts[i]? := by
    rw [List.getElem?_cons_succ, List.getElem?_append_left hi]
  have hne : i + 1 ≠ 0 ∧ i + 1 ≠ ts.length + 1 := by omega
  rw [isMeaningful_iff, isMeaningful_iff, hget]
  apply or_congr_right
  simp only [h.encloses_enclosed_iff, hne.1, hne.2, false_and, and_false, false_or,
    Nat.add_right_cancel_iff]
  constructor
  · rintro ⟨j, ⟨k, l, rfl, -, hi⟩ | ⟨k, l, -, rfl, hi⟩⟩
    · exact ⟨l, .inl hi⟩
    · exact ⟨k, .inr hi⟩
  · rintro ⟨j, hi | hi⟩
    · exact ⟨j + 1, .inl ⟨i, j, rfl, rfl, hi⟩⟩
    · exact ⟨j + 1, .inr ⟨j, i, rfl, rfl, hi⟩⟩

/-- A pair means something if there is content in it. -/
lemma Balanced.meaningful_enclosed :
    meaningful (.opening :: (ts ++ [.closing])) =
      if HasContent ts then .opening :: (meaningful ts ++ [.closing]) else meaningful ts := by
  have hinside : tokensAt (IsMeaningful (.opening :: (ts ++ [.closing]))) 1 ts = meaningful ts := by
    apply tokensAt_congr
    intro i hi
    rw [Nat.add_comm, Nat.zero_add]
    exact h.isMeaningful_inside_iff hi
  have hopening := h.isMeaningful_opening_iff
  have hclosing := h.isMeaningful_closing_iff
  have hlast : 0 + [Token.opening].length + ts.length = ts.length + 1 := by simp [Nat.add_comm]
  rw [meaningful, ← List.singleton_append, tokensAt_append, tokensAt_append, hlast]
  simp only [List.singleton_append, List.length_singleton, Nat.zero_add, hinside]
  by_cases hc : HasContent ts <;> simp [tokensAt, hopening, hclosing, hc]

end Enclosed

end Meaningful

end FacetSearch.Filter
