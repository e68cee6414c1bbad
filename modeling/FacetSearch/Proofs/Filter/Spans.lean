import FacetSearch.Proofs.Filter.Inside
import FacetSearch.Proofs.Filter.Peeling

/-! The parentheses of a list by their positions: one scan finds out where each of them is closed and
whether a connective stands directly inside, and two positions then move inwards pair by pair. No
position is ever outside the list, and what is left is the body that is read from it. -/
namespace FacetSearch.Filter

/-- How far one position is behind another, unless it is before it. -/
def sub? (m n : ℕ) : Option ℕ := if n ≤ m then some (m - n) else none

/-- The tokens between two positions, where these are in order and in the list. -/
def slice? (ts : List Token) (start stop : ℕ) : Option (List Token) :=
  if start ≤ stop ∧ stop ≤ ts.length then some ((ts.take stop).drop start) else none

/-- A list with another item at a position, where the position is in the list. -/
def set? {α : Type} (xs : List α) (i : ℕ) (x : α) : Option (List α) :=
  if i < xs.length then some (xs.set i x) else none

/-- What is known of the parentheses that stand at each position of a list and open there. -/
structure Spans where
  /-- The position of the partner. -/
  partner : List (Option ℕ)
  /-- Whether a connective stands directly inside. -/
  keyed : List Bool

namespace Spans

/-- The state of a scan: the table so far, and the positions of the parentheses that are open, the
last one first. -/
structure Scan where
  spans : Spans
  opened : List ℕ

/-- The state before the first of some tokens. -/
def Scan.start (size : ℕ) : Scan :=
  ⟨⟨.replicate size none, .replicate size false⟩, []⟩

/-- Takes in a token at its position. There is no result where an entry outside the table would be
written. -/
def Scan.step? (s : Scan) : Token × ℕ → Option Scan
  | (.opening, i) => some { s with opened := i :: s.opened }
  | (.closing, i) =>
    match s.opened with
    | [] => some s
    | o :: opened => do
      return ⟨{ s.spans with partner := ← set? s.spans.partner o (some i) }, opened⟩
  | (.connective _, _) =>
    match s.opened with
    | [] => some s
    | o :: opened => do
      return ⟨{ s.spans with keyed := ← set? s.spans.keyed o true }, o :: opened⟩
  | _ => some s

/-- The table of a list, from one scan. -/
def ofTokens? (ts : List Token) : Option Spans :=
  (ts.zipIdx.foldlM Scan.step? (.start ts.length)).map Scan.spans

lemma lt_of_sub? {m n k : ℕ} (hn : 0 < n) (h : sub? m n = some k) : k < m := by
  unfold sub? at h
  split at h
  · cases h
    omega
  · cases h

/-- The body between two positions, which move inwards as long as the first one is that of a
parenthesis whose partner is the last token before the second. There is no result where a position
would be outside the list, or the difference of two positions negative. -/
def peel? (ts : List Token) (s : Spans) (start stop : ℕ) : Option Body := do
  if (← sub? stop start) < 2 then return .leaf (← slice? ts start stop)
  match _h : sub? stop 1 with
  | none => none
  | some last =>
    if (← s.partner[start]?) ≠ some last then return .leaf (← slice? ts start stop)
    if ← s.keyed[start]? then return .group (← slice? ts (start + 1) last)
    peel? ts s (start + 1) last
termination_by stop
decreasing_by exact lt_of_sub? Nat.one_pos _h

/-- The body of a list, from a table of its parentheses. -/
def body? (ts : List Token) : Option Body := do peel? ts (← ofTokens? ts) 0 ts.length

variable {ts : List Token} {t u : Token} {i j p size start last : ℕ}

section Scanning

/-- What a scan knows when it has read some tokens: which parentheses are open, and of each what is
directly inside. -/
structure Scan.Describes (s : Scan) (size : ℕ) (ts : List Token) : Prop where
  length_partner : s.spans.partner.length = size
  length_keyed : s.spans.keyed.length = size
  opened : ∀ k p, s.opened[k]? = some p ↔ OpenAt ts k p
  partner : ∀ p j, s.spans.partner[p]? = some (some j) ↔ DirectlyIn ts p j .closing
  keyed : ∀ p, s.spans.keyed[p]? = some true ↔ ∃ i k, DirectlyIn ts p i (.connective k)

variable {s : Scan}

lemma describes_start (size : ℕ) : (Scan.start size).Describes size [] where
  length_partner := List.length_replicate
  length_keyed := List.length_replicate
  opened k p := by simp [Scan.start, not_openAt_nil]
  partner p j := by simp [Scan.start, not_directlyIn_nil, List.getElem?_replicate]
  keyed p := by simp [Scan.start, not_directlyIn_nil, List.getElem?_replicate]

lemma set?_eq {α : Type} {xs : List α} {i : ℕ} (h : i < xs.length) (x : α) :
    set? xs i x = some (xs.set i x) := if_pos h

section Step

variable {o : ℕ} {opened : List ℕ} (h : s.Describes size ts)
include h

lemma Scan.Describes.openAt_iff (ho : s.opened = o :: opened) : OpenAt ts 0 p ↔ o = p := by
  rw [← h.opened, ho, List.getElem?_cons_zero, Option.some.injEq]

lemma Scan.Describes.lt_size (hlen : ts.length < size) (ho : s.opened = o :: opened) : o < size :=
  ((h.openAt_iff ho).2 rfl).lt_length.trans hlen

lemma Scan.Describes.opening : Scan.Describes { s with opened := ts.length :: s.opened } size
    (ts ++ [.opening]) := by
  refine ⟨h.length_partner, h.length_keyed, ?_, ?_, ?_⟩
  · intro k p
    rw [openAt_concat_opening]
    cases k with
    | zero => simp [eq_comm]
    | succ k => simp [h.opened]
  · intro p j
    rw [h.partner, directlyIn_concat_of_ne (by simp)]
  · intro p
    simp [h.keyed, directlyIn_concat_of_ne]

lemma Scan.Describes.other (ho : t ≠ .opening) (hc : t ≠ .closing)
    (hk : ∀ k, t = .connective k → s.opened = []) : s.Describes size (ts ++ [t]) := by
  refine ⟨h.length_partner, h.length_keyed, ?_, ?_, ?_⟩
  · intro k p
    rw [openAt_concat_of_ne ho hc, h.opened]
  · intro p j
    rw [h.partner, directlyIn_concat_of_ne hc.symm]
  · intro p
    have hnot (k : Connective) (hkt : .connective k = t) : ¬OpenAt ts 0 p := by
      rw [← h.opened, hk k hkt.symm]
      simp
    simp only [h.keyed, directlyIn_concat]
    constructor
    · rintro ⟨i, k, hi⟩
      exact ⟨i, k, .inl hi⟩
    · rintro ⟨i, k, hi | ⟨-, hkt, hopen⟩⟩
      · exact ⟨i, k, hi⟩
      · exact absurd hopen (hnot k hkt)

lemma Scan.Describes.closing_of_nil (ho : s.opened = []) : s.Describes size (ts ++ [.closing]) := by
  have hnot (k p : ℕ) : ¬OpenAt ts k p := by
    rw [← h.opened, ho]
    simp
  refine ⟨h.length_partner, h.length_keyed, ?_, ?_, ?_⟩
  · intro k p
    simp [openAt_concat_closing, hnot, ho]
  · intro p j
    simp [h.partner, directlyIn_concat, hnot]
  · intro p
    simp [h.keyed, directlyIn_concat_of_ne]

lemma Scan.Describes.closing_of_cons (ho : s.opened = o :: opened)
    (hlt : o < s.spans.partner.length) :
    Scan.Describes ⟨{ s.spans with partner := s.spans.partner.set o (some ts.length) }, opened⟩ size
      (ts ++ [.closing]) := by
  refine ⟨by simpa using h.length_partner, h.length_keyed, ?_, ?_, ?_⟩
  · intro k p
    rw [openAt_concat_closing, ← h.opened, ho, List.getElem?_cons_succ]
  · intro p j
    rw [directlyIn_concat, h.openAt_iff ho]
    by_cases hp : o = p
    · subst hp
      have hnot : ¬DirectlyIn ts o j .closing := fun hj => hj.not_openAt 0 ((h.openAt_iff ho).2 rfl)
      simp [List.getElem?_set_self hlt, hnot, eq_comm]
    · simp [List.getElem?_set_ne hp, h.partner, hp]
  · intro p
    simp [h.keyed, directlyIn_concat_of_ne]

lemma Scan.Describes.connective_of_cons (ho : s.opened = o :: opened)
    (hlt : o < s.spans.keyed.length) (k : Connective) :
    Scan.Describes ⟨{ s.spans with keyed := s.spans.keyed.set o true }, o :: opened⟩ size
      (ts ++ [.connective k]) := by
  refine ⟨h.length_partner, by simpa using h.length_keyed, ?_, ?_, ?_⟩
  · intro k p
    rw [openAt_concat_of_ne (by simp) (by simp), ← h.opened, ho]
  · intro p j
    rw [h.partner, directlyIn_concat_of_ne (by simp)]
  · intro p
    simp only [directlyIn_concat, h.openAt_iff ho]
    by_cases hp : o = p
    · subst hp
      simp only [List.getElem?_set_self hlt, true_iff]
      exact ⟨ts.length, k, .inr ⟨rfl, rfl, trivial⟩⟩
    · simp [List.getElem?_set_ne hp, h.keyed, hp]

end Step

/-- A token keeps the scan right, and writes no entry outside the table. -/
lemma Scan.Describes.step (h : s.Describes size ts) (hlen : ts.length < size) (t : Token) :
    ∃ s', s.step? (t, ts.length) = some s' ∧ s'.Describes size (ts ++ [t]) := by
  cases t with
  | opening => exact ⟨_, rfl, h.opening⟩
  | closing =>
    cases ho : s.opened with
    | nil => exact ⟨s, by rw [Scan.step?, ho], h.closing_of_nil ho⟩
    | cons o opened =>
      have hlt : o < s.spans.partner.length := h.length_partner ▸ h.lt_size hlen ho
      exact ⟨_, by simp only [Scan.step?, ho, set?_eq hlt]; rfl, h.closing_of_cons ho hlt⟩
  | connective k =>
    cases ho : s.opened with
    | nil => exact ⟨s, by rw [Scan.step?, ho], h.other (by simp) (by simp) fun _ _ => ho⟩
    | cons o opened =>
      have hlt : o < s.spans.keyed.length := h.length_keyed ▸ h.lt_size hlen ho
      exact ⟨_, by simp only [Scan.step?, ho, set?_eq hlt]; rfl, h.connective_of_cons ho hlt k⟩
  | _ => exact ⟨s, rfl, h.other (by simp) (by simp) (by simp)⟩

lemma exists_foldlM_step? (hlen : ts.length ≤ size) : ∃ s,
    ts.zipIdx.foldlM Scan.step? (.start size) = some s ∧ s.Describes size ts := by
  induction ts using List.reverseRecOn with
  | nil => exact ⟨_, rfl, describes_start size⟩
  | append_singleton ts t ih =>
    rw [List.length_append, List.length_singleton] at hlen
    obtain ⟨s, hs, hts⟩ := ih (by omega)
    obtain ⟨s', hs', hts'⟩ := hts.step (by omega) t
    refine ⟨s', ?_, hts'⟩
    rw [List.zipIdx_append, List.foldlM_append, hs]
    simpa using hs'

end Scanning

section Peeling

variable {s : Scan}

lemma slice?_eq (hle : i ≤ j) (hj : j ≤ ts.length) : slice? ts i j = some ((ts.take j).drop i) :=
  if_pos ⟨hle, hj⟩

lemma sub?_eq (h : j ≤ i) : sub? i j = some (i - j) := if_pos h

lemma isPair_iff {us : List Token} :
    IsPair (t :: (us ++ [u])) ↔ t = .opening ∧ Balanced us ∧ u = .closing := by
  constructor
  · rintro ⟨vs, hvs, h⟩
    obtain ⟨rfl, htail⟩ := List.cons.inj h
    obtain ⟨rfl, hu⟩ := List.append_inj' htail rfl
    exact ⟨rfl, hvs, List.singleton_inj.1 hu⟩
  · rintro ⟨rfl, h, rfl⟩
    exact ⟨us, h, rfl⟩

lemma slice_eq (hlt : start < last) (hs : ts[start]? = some t) (hl : ts[last]? = some u) :
    (ts.take (last + 1)).drop start = t :: (between ts start last ++ [u]) := by
  have hstart : (ts.take (last + 1))[start]? = some t := by
    rw [List.getElem?_take_of_lt (by omega), hs]
  have hlast : (ts.take (last + 1))[last]? = some u := by
    rw [List.getElem?_take_of_lt (by omega), hl]
  have hbetween : between (ts.take (last + 1)) start last = between ts start last := by
    rw [between, between, List.take_take, min_eq_left (by omega)]
  obtain ⟨hlen, rfl⟩ := List.getElem?_eq_some_iff.1 hstart
  rw [← List.getElem_cons_drop hlen, drop_eq_between hlt hlast, hbetween, List.drop_take_self]

/-- The tokens between two positions are a pair if the last one closes the first one. -/
lemma isPair_slice_iff (hlt : start < last) (hlast : last < ts.length) :
    IsPair ((ts.take (last + 1)).drop start) ↔ DirectlyIn ts start last .closing := by
  have hs : ts[start]? = some ts[start] := List.getElem?_eq_getElem _
  have hl : ts[last]? = some ts[last] := List.getElem?_eq_getElem _
  rw [slice_eq hlt hs hl, isPair_iff, directlyIn_iff, hs, hl]
  simp only [hlt, Option.some.injEq, true_and]
  exact and_congr_right fun _ => and_comm

/-- A connective stands directly inside a pair if it is outside all pairs between the two. -/
lemma connectiveOutside_between_iff (h : DirectlyIn ts start last .closing) :
    ConnectiveOutside (between ts start last) ↔ ∃ i k, DirectlyIn ts start i (.connective k) := by
  obtain ⟨hlt, hs, hl, hb⟩ := directlyIn_iff.1 h
  constructor
  · rintro ⟨us, k, vs, hus, hbetween⟩
    have hdrop := drop_eq_between hlt hl
    rw [hbetween, List.append_assoc] at hdrop
    refine ⟨start + 1 + us.length, k, directlyIn_iff.2 ⟨by omega, hs, ?_, ?_⟩⟩
    · rw [← List.getElem?_drop, hdrop]
      simp
    · rw [between, List.drop_take, hdrop]
      simpa using hus
  · rintro ⟨i, k, hi⟩
    obtain ⟨hlt', -, hk, hus⟩ := directlyIn_iff.1 hi
    rcases lt_trichotomy i last with hil | rfl | hil
    · exact ⟨_, k, _, hus, between_eq_append hlt' hil hk⟩
    · rw [hk] at hl
      cases hl
    · -- What is behind the closing parenthesis is outside the pair.
      rw [between_eq_append hlt hil hl, balanced_iff, depth?_append, hb.depth?_eq] at hus
      cases hus

/-- The body of the tokens between two partners, from what stands directly inside them. -/
lemma peeled_slice (h : DirectlyIn ts start last .closing) {b : Bool}
    (hb : b = true ↔ ∃ i k, DirectlyIn ts start i (.connective k)) :
    Body.peeled ((ts.take (last + 1)).drop start) =
      if b then .group (between ts start last) else Body.peeled (between ts start last) := by
  obtain ⟨hlt, hs, hl, hbalanced⟩ := directlyIn_iff.1 h
  have hkey : hasOuterConnective (between ts start last) = b := by
    rw [Bool.eq_iff_iff, hb, hbalanced.hasOuterConnective_iff, connectiveOutside_between_iff h]
  rw [slice_eq hlt hs hl, hbalanced.peeled_enclosed, hkey]

section Steps

variable {spans : Spans} {stop : ℕ}

/-- No parentheses stand around less than two tokens. -/
lemma peel?_of_short (hle : start ≤ stop) (hstop : stop ≤ ts.length) (hwidth : stop - start < 2) :
    peel? ts spans start stop = some (.leaf ((ts.take stop).drop start)) := by
  rw [peel?, sub?_eq hle, slice?_eq hle hstop, Option.bind_eq_bind, Option.bind_some, if_pos hwidth]
  rfl

/-- One step with what the table has for the first position. -/
lemma peel?_of_entries (hlt : start < last) (hlast : last < ts.length) {o : Option ℕ} {b : Bool}
    (ho : spans.partner[start]? = some o) (hb : spans.keyed[start]? = some b) :
    peel? ts spans start (last + 1) =
      if o ≠ some last then some (.leaf ((ts.take (last + 1)).drop start))
      else if b then some (.group (between ts start last))
      else peel? ts spans (start + 1) last := by
  have hle : start ≤ last + 1 := by omega
  have hwidth : ¬last + 1 - start < 2 := by omega
  have hsub : sub? (last + 1) 1 = some last := sub?_eq (by omega)
  have hgroup : slice? ts (start + 1) last = some (between ts start last) := slice?_eq hlt hlast.le
  rw [peel?, sub?_eq hle, slice?_eq hle hlast, Option.bind_eq_bind, Option.bind_some,
    if_neg hwidth, hsub, ho, hb]
  dsimp only
  rw [hgroup]
  rfl

end Steps

lemma not_isPair_of_short {stop : ℕ} (hwidth : stop - start < 2) :
    ¬IsPair ((ts.take stop).drop start) := by
  rintro ⟨us, -, hus⟩
  have hlen := congrArg List.length hus
  simp only [List.length_drop, List.length_take, List.length_cons, List.length_append] at hlen
  omega

/-- The positions stay in the list, and what is between them in the end is the body of what was
between them at first. -/
lemma peel?_eq (h : s.Describes ts.length ts) {start stop : ℕ} (hle : start ≤ stop)
    (hstop : stop ≤ ts.length) :
    peel? ts s.spans start stop = some (Body.peeled ((ts.take stop).drop start)) := by
  induction stop using Nat.strongRecOn generalizing start with
  | ind stop ih =>
    by_cases hwidth : stop - start < 2
    · rw [peel?_of_short hle hstop hwidth, Body.peeled_of_not_isPair (not_isPair_of_short hwidth)]
    · obtain ⟨last, rfl⟩ := Nat.exists_eq_add_one_of_ne_zero (show stop ≠ 0 by omega)
      have hlt : start < last := by omega
      obtain ⟨o, ho⟩ : ∃ o, s.spans.partner[start]? = some o :=
        ⟨_, List.getElem?_eq_getElem (by rw [h.length_partner]; omega)⟩
      obtain ⟨b, hb⟩ : ∃ b, s.spans.keyed[start]? = some b :=
        ⟨_, List.getElem?_eq_getElem (by rw [h.length_keyed]; omega)⟩
      have hinner := ih last (by omega) hlt (by omega)
      rw [peel?_of_entries hlt hstop ho hb, hinner]
      by_cases hp : o = some last
      · subst hp
        have hin : DirectlyIn ts start last .closing := (h.partner start last).1 ho
        have hkey : b = true ↔ ∃ i k, DirectlyIn ts start i (.connective k) := by
          rw [← h.keyed, hb, Option.some.injEq]
        rw [if_neg (not_not.2 rfl), peeled_slice hin hkey]
        cases b <;> rfl
      · have hnot : ¬IsPair ((ts.take (last + 1)).drop start) := by
          rw [isPair_slice_iff hlt hstop, ← h.partner, ho, Option.some.injEq]
          exact hp
        rw [if_pos hp, Body.peeled_of_not_isPair hnot]

/-- The table of a list, and the body that it leads to. -/
lemma body?_eq (ts : List Token) : body? ts = some (Body.peeled ts) := by
  obtain ⟨s, hs, h⟩ := exists_foldlM_step? (le_refl ts.length)
  have hpeel := peel?_eq h (Nat.zero_le _) (le_refl ts.length)
  rw [List.take_length, List.drop_zero] at hpeel
  rw [body?, ofTokens?, hs]
  exact hpeel

end Peeling

end Spans

/-- The body of any list is got in range from one scan of its parentheses, and is what is left when
they are peeled off by counting the open ones, anew for each pair. -/
theorem Body.ofTokens_exact (ts : List Token) :
    Body.ofTokens ts = Body.peeled ts ∧ Spans.body? ts = some (Body.peeled ts) :=
  ⟨body_eq_peeled ts, Spans.body?_eq ts⟩

end FacetSearch.Filter
