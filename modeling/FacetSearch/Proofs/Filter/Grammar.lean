import FacetSearch.Filter.Clause
import FacetSearch.Proofs.Text.Numeral
import Mathlib.Data.List.Nodup

/-! The grammar of clauses. Reading accepts just what it has and takes each of it for one clause,
although its forms overlap: what is written as a range could also be words, but never is. -/
namespace FacetSearch

section Lists

variable {α : Type} [DecidableEq α] {xs ys zs : List α}

/-- A list without its repetitions: the items of another list in the order of their first places. -/
structure FirstPlaces (xs ys : List α) : Prop where
  mem_iff : ∀ x, x ∈ ys ↔ x ∈ xs
  ordered : ys.Pairwise fun x y => xs.idxOf x < xs.idxOf y

lemma FirstPlaces.nodup (h : FirstPlaces xs ys) : ys.Nodup := by
  apply h.ordered.imp
  rintro x _ hlt rfl
  exact Nat.lt_irrefl _ hlt

lemma FirstPlaces.unique (h : FirstPlaces xs ys) (h' : FirstPlaces xs zs) : ys = zs := by
  have hperm : ys.Perm zs := by
    rw [List.perm_ext_iff_of_nodup h.nodup h'.nodup]
    exact fun x => (h.mem_iff x).trans (h'.mem_iff x).symm
  exact hperm.eq_of_pairwise (fun _ _ _ _ hxy hyx => absurd hxy hyx.not_gt) h.ordered h'.ordered

lemma firstPlaces_eraseDups (xs : List α) : FirstPlaces xs xs.eraseDups := by
  refine ⟨fun x => List.mem_eraseDups, ?_⟩
  -- An item that is added at the end moves no first place, and its own is behind all others.
  induction xs using List.reverseRecOn with
  | nil => exact List.Pairwise.nil
  | append_singleton xs x ih =>
    have hold : xs.eraseDups.Pairwise fun y z => (xs ++ [x]).idxOf y < (xs ++ [x]).idxOf z := by
      apply ih.imp_of_mem
      intro y z hy hz hlt
      rwa [List.idxOf_append_of_mem (List.mem_eraseDups.1 hy),
        List.idxOf_append_of_mem (List.mem_eraseDups.1 hz)]
    rw [List.eraseDups_append]
    by_cases hx : x ∈ xs
    · simpa [List.removeAll, hx] using hold
    · have hlast : ∀ y ∈ xs.eraseDups, (xs ++ [x]).idxOf y < (xs ++ [x]).idxOf x := by
        intro y hy
        rw [List.mem_eraseDups] at hy
        rw [List.idxOf_append_of_mem hy, List.idxOf_append_of_notMem hx]
        exact Nat.lt_add_right _ (List.idxOf_lt_length_of_mem hy)
      have hnew : [x].removeAll xs = [x] := by
        simp [List.removeAll, hx]
      rw [hnew, List.pairwise_append]
      exact ⟨hold, List.pairwise_singleton _ _, by simpa using hlast⟩

lemma eraseDups_eq_iff : xs.eraseDups = ys ↔ FirstPlaces xs ys :=
  ⟨fun h => h ▸ firstPlaces_eraseDups xs, fun h => (firstPlaces_eraseDups xs).unique h⟩

end Lists

namespace Filter.Clause
open Text

/-- The items of a value list, with the text of each. -/
inductive IsItem : Token → String → Prop
  | word (s : String) : IsItem (.word s) s
  | quoted (s : String) : IsItem (.quoted s) s

/-- What stands behind the colon, with the values that it gives. -/
inductive Values : List Token → List String → Prop
  | quoted (s : String) : Values [.quoted s] [s]
  | words {ws : List String} (hne : ws ≠ []) : Values (ws.map .word) [" ".intercalate ws]
  | list {items : List Token} {texts vs : List String} (hne : items ≠ [])
    (hitems : List.Forall₂ IsItem items texts) (hvs : FirstPlaces texts vs) :
    Values (.opening :: (items.intersperse .comma ++ [.closing])) vs

/-- Whether a word stands for the `TO` between two bounds. -/
def IsBetween (word : String) : Prop := equalsIgnoringCase word.toList "TO".toList

instance : DecidablePred IsBetween := fun _ => inferInstanceAs (Decidable (_ = true))

/-- Whether the tokens are the bounds of a range, however large they are. -/
def IsBounds (ts : List Token) : Prop :=
  ∃ low between high, ts = [.word low, .word between, .word high] ∧ IsBetween between ∧
    (∃ m, Denotes low.toList m) ∧ ∃ n, Denotes high.toList n

/-- The grammar of clauses: the tokens that each of them is written with. -/
inductive Spelled : List Token → Clause → Prop
  | range {a low between high : String} {m n : Int64} (ha : isAttributeName a)
    (hbetween : IsBetween between) (hm : Denotes low.toList m.toInt)
    (hn : Denotes high.toList n.toInt) :
    Spelled [.word a, .colon, .word low, .word between, .word high] (.range a (min m n) (max m n))
  | numeric {a w : String} {n : Int64} (op : Operator) (ha : isAttributeName a)
    (hn : Denotes w.toList n.toInt) : Spelled [.word a, .comparison op, .word w] (.numeric a op n)
  | values {a : String} {ts : List Token} {vs : List String} (ha : isAttributeName a)
    (hvs : Values ts vs) (hbounds : ¬IsBounds ts) :
    Spelled (.word a :: .colon :: ts) (.values a vs)

variable {ts : List Token} {c : Clause} {vs : List String}

lemma Spelled.isAttributeName (h : Spelled ts c) : isAttributeName c.name := by
  cases h with
  | range ha _ _ _ => exact ha
  | numeric _ ha _ => exact ha
  | values ha _ _ => exact ha

lemma Values.nodup (h : Values ts vs) : vs.Nodup := by
  cases h with
  | quoted s => exact List.nodup_singleton s
  | words _ => exact List.nodup_singleton _
  | list _ _ hvs => exact hvs.nodup

section Values

lemma intersperse_comma (t : Token) {items : List Token} (hne : items ≠ []) :
    (t :: items).intersperse .comma = t :: .comma :: items.intersperse .comma := by
  obtain ⟨u, items, rfl⟩ := List.exists_cons_of_ne_nil hne
  rw [List.intersperse_cons_cons]

lemma items?_eq_some_iff {texts : List String} : items? ts = some texts ↔
    ∃ items, items ≠ [] ∧ List.Forall₂ IsItem items texts ∧ ts = items.intersperse .comma := by
  constructor
  · intro h
    fun_induction items? ts generalizing texts with
    | case1 s =>
      cases h
      exact ⟨[.word s], by simp, .cons (.word s) .nil, rfl⟩
    | case2 s =>
      cases h
      exact ⟨[.quoted s], by simp, .cons (.quoted s) .nil, rfl⟩
    | case3 s ts ih =>
      obtain ⟨texts, htexts, rfl⟩ := Option.map_eq_some_iff.1 h
      obtain ⟨items, hne, hitems, rfl⟩ := ih htexts
      exact ⟨.word s :: items, by simp, .cons (.word s) hitems,
        (intersperse_comma _ hne).symm⟩
    | case4 s ts ih =>
      obtain ⟨texts, htexts, rfl⟩ := Option.map_eq_some_iff.1 h
      obtain ⟨items, hne, hitems, rfl⟩ := ih htexts
      exact ⟨.quoted s :: items, by simp, .cons (.quoted s) hitems,
        (intersperse_comma _ hne).symm⟩
    | case5 => cases h
  · rintro ⟨items, hne, hitems, rfl⟩
    induction hitems with
    | nil => exact absurd rfl hne
    | @cons item text items texts hitem hitems ih =>
      cases hitems with
      | nil => cases hitem <;> rfl
      | cons _ _ =>
        have hrest := ih (by simp)
        rw [List.intersperse_cons_cons]
        cases hitem <;> rw [items?, hrest, Option.map_some]

lemma list?_eq_some_iff : list? ts = some vs ↔ ∃ items texts, items ≠ [] ∧
    List.Forall₂ IsItem items texts ∧ FirstPlaces texts vs ∧
      ts = items.intersperse .comma ++ [.closing] := by
  constructor
  · intro h
    unfold list? at h
    split at h
    · next hlast =>
      obtain ⟨texts, htexts, hvs⟩ := Option.map_eq_some_iff.1 h
      obtain ⟨items, hne, hitems, hts⟩ := items?_eq_some_iff.1 htexts
      refine ⟨items, texts, hne, hitems, eraseDups_eq_iff.1 hvs, ?_⟩
      rw [← hts, List.dropLast_append_getLast? _ hlast]
    · cases h
  · rintro ⟨items, texts, hne, hitems, hvs, rfl⟩
    have hread : items? (items.intersperse .comma) = some texts :=
      items?_eq_some_iff.2 ⟨items, hne, hitems, rfl⟩
    rw [list?, List.getLast?_concat, List.dropLast_concat]
    simp only [hread, Option.map_some, eraseDups_eq_iff.2 hvs]

lemma words?_eq_some_iff {ws : List String} : words? ts = some ws ↔ ts = ws.map .word := by
  induction ts generalizing ws with
  | nil => simp [words?, eq_comm]
  | cons t ts ih =>
    cases t with
    | word s =>
      have hcons : words? (.word s :: ts) = (words? ts).map (s :: ·) := by
        rw [words?, List.mapM_cons, ← words?]
        cases words? ts <;> rfl
      rw [hcons, Option.map_eq_some_iff]
      cases ws <;> simp [ih, and_comm]
    | _ => cases ws <;> simp [words?]

lemma values?_eq_some_iff : values? ts = some vs ↔ Values ts vs := by
  constructor
  · intro h
    unfold values? at h
    split at h
    · cases h
    · cases h
      exact .quoted _
    · obtain ⟨items, texts, hne, hitems, hvs, rfl⟩ := list?_eq_some_iff.1 h
      exact .list hne hitems hvs
    · next hne _ _ =>
      obtain ⟨ws, hws, rfl⟩ := Option.map_eq_some_iff.1 h
      obtain rfl := words?_eq_some_iff.1 hws
      refine .words ?_
      rintro rfl
      exact hne rfl
  · intro h
    cases h with
    | quoted s => rfl
    | @words ws hne =>
      obtain ⟨w, ws, rfl⟩ := List.exists_cons_of_ne_nil hne
      have hread : words? ((w :: ws).map .word) = some (w :: ws) := words?_eq_some_iff.2 rfl
      rw [List.map_cons] at hread ⊢
      rw [values?, hread, Option.map_some]
      all_goals simp
    | list hne hitems hvs => exact list?_eq_some_iff.2 ⟨_, _, hne, hitems, hvs, rfl⟩

end Values

section Forms

variable {a : String} {m n : ℤ}

lemma bounds?_eq_some_iff : bounds? ts = some (a, m, n) ↔ ∃ low between high,
    ts = [.word a, .colon, .word low, .word between, .word high] ∧ isAttributeName a ∧
      IsBetween between ∧ Denotes low.toList m ∧ Denotes high.toList n := by
  constructor
  · intro h
    unfold bounds? at h
    split at h
    · split at h
      · next hname =>
        obtain ⟨l, hl, h⟩ := Option.bind_eq_some_iff.1 h
        obtain ⟨r, hr, h⟩ := Option.bind_eq_some_iff.1 h
        cases h
        exact ⟨_, _, _, rfl, hname.1, hname.2, integer?_eq_some_iff.1 hl, integer?_eq_some_iff.1 hr⟩
      · cases h
    · cases h
  · rintro ⟨low, between, high, rfl, ha, hbetween, hm, hn⟩
    rw [bounds?, if_pos ⟨ha, hbetween⟩, integer?_eq_some_iff.2 hm, integer?_eq_some_iff.2 hn]
    rfl

lemma ofBounds?_eq_some_iff : ofBounds? (a, m, n) = some c ↔ ∃ low high : Int64,
    low.toInt = m ∧ high.toInt = n ∧ c = .range a (min low high) (max low high) := by
  constructor
  · intro h
    obtain ⟨low, hlow, h⟩ := Option.bind_eq_some_iff.1 h
    obtain ⟨high, hhigh, h⟩ := Option.bind_eq_some_iff.1 h
    cases h
    have hmin := toInt_of_word? hlow
    have hmax := toInt_of_word? hhigh
    -- What comes out as the smaller bound was written first or last.
    rcases le_total m n with hle | hle
    · rw [min_eq_left hle] at hmin
      rw [max_eq_right hle] at hmax
      have hlow : min low high = low := by
        rw [← Int64.toInt_inj, toInt_min, hmin, hmax, min_eq_left hle]
      have hhigh : max low high = high := by
        rw [← Int64.toInt_inj, toInt_max, hmin, hmax, max_eq_right hle]
      exact ⟨low, high, hmin, hmax, by rw [hlow, hhigh]⟩
    · rw [min_eq_right hle] at hmin
      rw [max_eq_left hle] at hmax
      have hlow : min high low = low := by
        rw [← Int64.toInt_inj, toInt_min, hmin, hmax, min_eq_right hle]
      have hhigh : max high low = high := by
        rw [← Int64.toInt_inj, toInt_max, hmin, hmax, max_eq_left hle]
      exact ⟨high, low, hmax, hmin, by rw [hlow, hhigh]⟩
  · rintro ⟨low, high, rfl, rfl, rfl⟩
    rw [ofBounds?, ← toInt_min, ← toInt_max, word?_toInt, word?_toInt]
    rfl

lemma numeric?_eq_some_iff : numeric? ts = some c ↔ ∃ a op w, ∃ n : Int64,
    ts = [.word a, .comparison op, .word w] ∧ isAttributeName a ∧ Denotes w.toList n.toInt ∧
      c = .numeric a op n := by
  constructor
  · intro h
    unfold numeric? at h
    split at h
    · split at h
      · next ha =>
        obtain ⟨i, hi, h⟩ := Option.bind_eq_some_iff.1 h
        obtain ⟨n, hword, h⟩ := Option.bind_eq_some_iff.1 h
        cases h
        obtain rfl := toInt_of_word? hword
        exact ⟨_, _, _, n, rfl, ha, integer?_eq_some_iff.1 hi, rfl⟩
      · cases h
    · cases h
  · rintro ⟨a, op, w, n, rfl, ha, hn, rfl⟩
    rw [numeric?, if_pos ha, integer?_eq_some_iff.2 hn]
    change (word? n.toInt).bind (fun n => some (numeric a op n)) = _
    rw [word?_toInt, Option.bind_some]

lemma attribute?_eq_some_iff : attribute? ts = some c ↔ ∃ a us vs,
    ts = .word a :: .colon :: us ∧ isAttributeName a ∧ Values us vs ∧ c = .values a vs := by
  constructor
  · intro h
    unfold attribute? at h
    split at h
    · split at h
      · next ha =>
        obtain ⟨vs, hvs, rfl⟩ := Option.map_eq_some_iff.1 h
        exact ⟨_, _, vs, rfl, ha, values?_eq_some_iff.1 hvs, rfl⟩
      · cases h
    · cases h
  · rintro ⟨a, us, vs, rfl, ha, hvs, rfl⟩
    rw [attribute?, if_pos ha, values?_eq_some_iff.2 hvs, Option.map_some]

end Forms

section Reading

lemma ofTokens?_of_bounds {a : String} {m n : ℤ} (h : bounds? ts = some (a, m, n)) :
    ofTokens? ts = ofBounds? (a, m, n) := by
  rw [ofTokens?, h]

lemma spelled_of_ofTokens? (h : ofTokens? ts = some c) : Spelled ts c := by
  cases hb : bounds? ts with
  | some b =>
    obtain ⟨a, m, n⟩ := b
    rw [ofTokens?_of_bounds hb] at h
    obtain ⟨low, between, high, rfl, ha, hbetween, hm, hn⟩ := bounds?_eq_some_iff.1 hb
    obtain ⟨m, n, rfl, rfl, rfl⟩ := ofBounds?_eq_some_iff.1 h
    exact .range ha hbetween hm hn
  | none =>
    rw [ofTokens?, hb, Option.or_eq_some_iff] at h
    obtain h | ⟨-, h⟩ := h
    · obtain ⟨a, op, w, n, rfl, ha, hn, rfl⟩ := numeric?_eq_some_iff.1 h
      exact .numeric op ha hn
    · obtain ⟨a, us, vs, rfl, ha, hvs, rfl⟩ := attribute?_eq_some_iff.1 h
      refine .values ha hvs ?_
      rintro ⟨low, between, high, rfl, hbetween, ⟨m, hm⟩, n, hn⟩
      rw [bounds?_eq_some_iff.2 ⟨low, between, high, rfl, ha, hbetween, hm, hn⟩] at hb
      cases hb

lemma bounds?_numeric (a w : String) (op : Operator) :
    bounds? [.word a, .comparison op, .word w] = none := rfl

lemma bounds?_values {a : String} (h : ¬IsBounds ts) : bounds? (.word a :: .colon :: ts) = none := by
  cases hb : bounds? (.word a :: .colon :: ts) with
  | none => rfl
  | some b =>
    obtain ⟨low, between, high, hts, -, hbetween, hm, hn⟩ := bounds?_eq_some_iff.1 hb
    simp only [List.cons.injEq, true_and] at hts
    exact absurd ⟨low, between, high, hts.2, hbetween, ⟨_, hm⟩, _, hn⟩ h

lemma ofTokens?_of_spelled (h : Spelled ts c) : ofTokens? ts = some c := by
  cases h with
  | @range a low between high m n ha hbetween hm hn =>
    have hb : bounds? [.word a, .colon, .word low, .word between, .word high] =
        some (a, m.toInt, n.toInt) :=
      bounds?_eq_some_iff.2 ⟨low, between, high, rfl, ha, hbetween, hm, hn⟩
    rw [ofTokens?_of_bounds hb]
    exact ofBounds?_eq_some_iff.2 ⟨m, n, rfl, rfl, rfl⟩
  | @numeric a w n op ha hn =>
    rw [ofTokens?, bounds?_numeric, numeric?_eq_some_iff.2 ⟨a, op, w, n, rfl, ha, hn, rfl⟩]
    rfl
  | @values a ts vs ha hvs hbounds =>
    have hnumeric : numeric? (.word a :: .colon :: ts) = none := by
      simp [numeric?]
    rw [ofTokens?, bounds?_values hbounds, hnumeric]
    exact attribute?_eq_some_iff.2 ⟨a, ts, vs, rfl, ha, hvs, rfl⟩

/-- Whether 64 bits can hold an integer. -/
def Fits (n : ℤ) : Prop := -2 ^ 63 ≤ n ∧ n ≤ 2 ^ 63 - 1

instance : DecidablePred Fits := fun _ => inferInstanceAs (Decidable (_ ∧ _))

lemma fits_toInt (n : Int64) : Fits n.toInt :=
  ⟨n.le_toInt, Int.le_sub_one_of_lt n.toInt_lt⟩

lemma denotes_unique {s : List Char} {m n : ℤ} (hm : Denotes s m) (hn : Denotes s n) : m = n := by
  rw [← integer?_eq_some_iff] at hm hn
  exact Option.some.inj (hm.symm.trans hn)

lemma fits_of_spelled {a low between high : String} {m n : ℤ} (hbetween : IsBetween between)
    (hm : Denotes low.toList m) (hn : Denotes high.toList n)
    (h : Spelled [.word a, .colon, .word low, .word between, .word high] c) : Fits m ∧ Fits n := by
  cases h with
  | range _ _ hm' hn' =>
    rw [denotes_unique hm hm', denotes_unique hn hn']
    exact ⟨fits_toInt _, fits_toInt _⟩
  | values _ _ hbounds => exact absurd ⟨low, between, high, rfl, hbetween, ⟨m, hm⟩, n, hn⟩ hbounds

/-- Tokens are read as a clause exactly where the grammar spells that clause with them. What is
written as a range with a bound that 64 bits cannot hold is no clause. -/
theorem grammar_exact :
    (∀ ts c, ofTokens? ts = some c ↔ Spelled ts c) ∧
    ∀ {a low between high : String} {m n : ℤ}, IsBetween between → Denotes low.toList m →
      Denotes high.toList n → ¬(Fits m ∧ Fits n) →
        ofTokens? [.word a, .colon, .word low, .word between, .word high] = none := by
  refine ⟨fun ts c => ⟨spelled_of_ofTokens?, ofTokens?_of_spelled⟩, ?_⟩
  intro a low between high m n hbetween hm hn hfits
  rw [Option.eq_none_iff_forall_ne_some]
  intro c hc
  exact hfits (fits_of_spelled hbetween hm hn (spelled_of_ofTokens? hc))

/-- The bounds of a range in either order, and a bound that is too large by one. -/
theorem grammar_exact_range :
    Spelled [.word "price", .colon, .word "200", .word "to", .word "-9223372036854775808"]
        (.range "price" Int64.minValue 200) ∧
      ofTokens? [.word "price", .colon, .word "9223372036854775808", .word "TO", .word "1"] =
        none := by
  constructor
  · exact (grammar_exact.1 _ _).1 (by decide +kernel)
  · have hlow : Denotes "9223372036854775808".toList (2 ^ 63) :=
      integer?_eq_some_iff.1 (by decide +kernel)
    have hhigh : Denotes "1".toList 1 := integer?_eq_some_iff.1 (by decide +kernel)
    exact grammar_exact.2 (by decide) hlow hhigh (by decide)

end Reading
end Filter.Clause
end FacetSearch
