import FacetSearch.Predicate
import FacetSearch.Proofs.Meaning.Row

/-! The truth value of predicates, given one for each leaf or for each predicate of a list. The
leaves are numbered as they stand in the text, so that equal leaves at two places may differ. -/
namespace FacetSearch.Predicate

/-- The connective that joins a predicate to those before it. -/
def link (p : Predicate) : Connective := p.connective.getD .and

lemma link_eq_or_iff {p : Predicate} : p.link = .or ↔ p.connective = some .or := by
  rw [link]
  cases p.connective with
  | none => simp
  | some k => simp

lemma link_eq_and_iff {p : Predicate} : p.link = .and ↔ p.connective ≠ some .or := by
  rw [← not_iff_not, not_not, ← link_eq_or_iff]
  cases p.link <;> simp

@[simp] lemma link_withConnective (k : Connective) (p : Predicate) :
    (p.withConnective (some k)).link = k := by
  rw [link, connective_withConnective, Option.getD_some]

/-- A list as a row of conditions, numbered from `i`. -/
def judged (v : ℕ → Truth) (i : ℕ) : List Predicate → Row
  | [] => []
  | p :: ps => (p.link, v i) :: judged v (i + 1) ps

section Judged

variable (v : ℕ → Truth)

lemma judged_append (i : ℕ) (ps qs : List Predicate) :
    judged v i (ps ++ qs) = judged v i ps ++ judged v (i + ps.length) qs := by
  induction ps generalizing i with
  | nil => rfl
  | cons p ps ih =>
    rw [List.cons_append, judged, judged, ih, List.length_cons, Nat.add_right_comm, Nat.add_assoc,
      List.cons_append]

lemma map_fst_judged (i : ℕ) (ps : List Predicate) :
    (judged v i ps).map Prod.fst = ps.map link := by
  induction ps generalizing i with
  | nil => rfl
  | cons p ps ih => rw [judged, List.map_cons, List.map_cons, ih]

lemma forall_mem_judged_fst {P : Connective → Prop} {ps : List Predicate} {i : ℕ}
    (h : ∀ p ∈ ps, P p.link) : ∀ c ∈ judged v i ps, P c.1 := by
  have hkeys : ∀ k ∈ (judged v i ps).map Prod.fst, P k := by
    rw [map_fst_judged]
    exact List.forall_mem_map.2 h
  exact List.forall_mem_map.1 hkeys

end Judged

mutual
def leafCount : Predicate → ℕ
  | leaf _ _ _ => 1
  | group _ _ children => leafCounts children

def leafCounts : List Predicate → ℕ
  | [] => 0
  | p :: ps => p.leafCount + leafCounts ps
end

section Truth

variable (read : Row → Truth) (v : ℕ → Truth)

mutual
/-- The truth value of a predicate with its leaves numbered from `i`, where the rows of its groups
are read in the given way. -/
def truth (i : ℕ) : Predicate → Truth
  | leaf _ _ _ => v i
  | group _ negated children =>
    if negated then (read (truths i children)).not else read (truths i children)

def truths (i : ℕ) : List Predicate → Row
  | [] => []
  | p :: ps => (p.link, truth i p) :: truths (i + p.leafCount) ps
end

/-- The truth value of a list whose rows are read in the given way at every level. -/
def meaning (ps : List Predicate) : Truth := read (truths read v 0 ps)

lemma truths_append (i : ℕ) (ps qs : List Predicate) :
    truths read v i (ps ++ qs) = truths read v i ps ++ truths read v (i + leafCounts ps) qs := by
  induction ps generalizing i with
  | nil => rfl
  | cons p ps ih =>
    rw [List.cons_append, truths, truths, ih, leafCounts, Nat.add_assoc, List.cons_append]

lemma map_fst_truths (i : ℕ) (ps : List Predicate) :
    (truths read v i ps).map Prod.fst = ps.map link := by
  induction ps generalizing i with
  | nil => rfl
  | cons p ps ih => rw [truths, List.map_cons, List.map_cons, ih]

lemma forall_mem_truths_fst {P : Connective → Prop} {ps : List Predicate} {i : ℕ}
    (h : ∀ p ∈ ps, P p.link) : ∀ c ∈ truths read v i ps, P c.1 := by
  have hkeys : ∀ k ∈ (truths read v i ps).map Prod.fst, P k := by
    rw [map_fst_truths]
    exact List.forall_mem_map.2 h
  exact List.forall_mem_map.1 hkeys

@[simp] lemma truth_withConnective (k : Option Connective) (i : ℕ) (p : Predicate) :
    (p.withConnective k).truth read v i = p.truth read v i := by
  cases p <;> rfl

end Truth

@[simp] lemma leafCount_withConnective (k : Option Connective) (p : Predicate) :
    (p.withConnective k).leafCount = p.leafCount := by
  cases p <;> rfl

lemma leafCounts_append (ps qs : List Predicate) :
    leafCounts (ps ++ qs) = leafCounts ps + leafCounts qs := by
  induction ps with
  | nil => simp [leafCounts]
  | cons p ps ih => rw [List.cons_append, leafCounts, leafCounts, ih, Nat.add_assoc]

section Level

variable (P : List Predicate → Prop)

mutual
/-- Whether a property holds of the children of every group of a predicate, at any depth. -/
def Below : Predicate → Prop
  | leaf _ _ _ => True
  | group _ _ children => P children ∧ BelowAll children

def BelowAll : List Predicate → Prop
  | [] => True
  | p :: ps => p.Below ∧ BelowAll ps
end

/-- Whether a property holds of a list and of the children of every group in it. -/
def EveryLevel (ps : List Predicate) : Prop := P ps ∧ BelowAll P ps

end Level

/-- Whether no `OR` comes before an `AND` behind the first predicate; where a connective is missing
it is an `AND`. -/
def OrsLast (ps : List Predicate) : Prop :=
  ps.tail.Pairwise fun p q => p.connective = some .or → q.connective = some .or

lemma pairwise_truths (read : Row → Truth) (v : ℕ → Truth) {ps : List Predicate}
    (h : ps.Pairwise fun p q => p.connective = some .or → q.connective = some .or) (i : ℕ) :
    (truths read v i ps).Pairwise fun c d => c.1 = .or → d.1 = .or := by
  have hlink : (ps.map link).Pairwise fun k l => k = .or → l = .or := by
    rw [List.pairwise_map]
    simpa only [link_eq_or_iff] using h
  rw [← map_fst_truths read v i, List.pairwise_map] at hlink
  exact hlink

lemma leftToRight_truths_eq (read : Row → Truth) (v : ℕ → Truth) {ps : List Predicate}
    (h : OrsLast ps) (i : ℕ) :
    (truths read v i ps).leftToRight = (truths read v i ps).byPrecedence := by
  apply Row.leftToRight_eq_byPrecedence
  cases ps with
  | nil => exact List.Pairwise.nil
  | cons p ps => exact pairwise_truths read v h _

mutual
/-- Where no `OR` comes before an `AND` at any level the two readings agree on every predicate. -/
lemma truth_leftToRight_eq (v : ℕ → Truth) :
    ∀ (p : Predicate) (i : ℕ), p.Below OrsLast →
      p.truth Row.leftToRight v i = p.truth Row.byPrecedence v i
  | leaf _ _ _, _, _ => rfl
  | group _ negated children, i, h => by
    rw [truth, truth, truths_leftToRight_eq v children i h.2, leftToRight_truths_eq _ v h.1]

lemma truths_leftToRight_eq (v : ℕ → Truth) :
    ∀ (ps : List Predicate) (i : ℕ), BelowAll OrsLast ps →
      truths Row.leftToRight v i ps = truths Row.byPrecedence v i ps
  | [], _, _ => rfl
  | p :: ps, i, h => by
    rw [truths, truths, truth_leftToRight_eq v p i h.1, truths_leftToRight_eq v ps _ h.2]
end

lemma leftToRight_eq_byPrecedence (v : ℕ → Truth) {ps : List Predicate}
    (h : EveryLevel OrsLast ps) : meaning Row.leftToRight v ps = meaning Row.byPrecedence v ps := by
  rw [meaning, meaning, truths_leftToRight_eq v ps 0 h.2, leftToRight_truths_eq _ v h.1]

/-- The assignment to which the first conditions hold, up to number `m`, and all others fail. -/
def holdsUpTo (m n : ℕ) : Truth := if n ≤ m then .holds else .fails

lemma judged_fails {m i : ℕ} (h : m < i) (ps : List Predicate) :
    ∀ c ∈ judged (holdsUpTo m) i ps, c.2 = .fails := by
  induction ps generalizing i with
  | nil => simp [judged]
  | cons p ps ih =>
    rw [judged, List.forall_mem_cons]
    exact ⟨if_neg (Nat.not_le.2 h), ih (Nat.lt_succ_of_lt h)⟩

lemma mem_judged_link (v : ℕ → Truth) (i : ℕ) {p : Predicate} {ps : List Predicate}
    (h : p ∈ ps) : ∃ c ∈ judged v i ps, c.1 = p.link := by
  induction ps generalizing i with
  | nil => simp at h
  | cons q ps ih =>
    rw [judged]
    rcases List.mem_cons.1 h with rfl | h
    · exact ⟨_, List.mem_cons_self, rfl⟩
    · obtain ⟨c, hc, hk⟩ := ih (i + 1) h
      exact ⟨c, List.mem_cons_of_mem _ hc, hk⟩

lemma exists_and_of_not_pairwise {ps : List Predicate}
    (h : ¬ps.Pairwise fun p q => p.connective = some .or → q.connective = some .or) :
    ∃ q ∈ ps, q.link = .and := by
  by_contra hall
  apply h
  apply List.pairwise_of_forall_mem_list
  intro p _ q hq _
  cases hk : q.link with
  | and => exact absurd ⟨q, hq, hk⟩ hall
  | or => exact link_eq_or_iff.1 hk

/-- Where an `OR` comes before an `AND` the two readings differ: all conditions up to the first `OR`
hold, so the row holds by precedence, and the `AND` behind it makes it fail from left to right. -/
lemma exists_judged_ne {ps : List Predicate}
    (h : ¬ps.Pairwise fun p q => p.connective = some .or → q.connective = some .or) (i : ℕ) :
    ∃ m, i ≤ m ∧ Row.accumulate .holds (judged (holdsUpTo m) i ps) = .fails ∧
      Row.conjoin .holds (judged (holdsUpTo m) i ps) = .holds := by
  induction ps generalizing i with
  | nil => exact absurd List.Pairwise.nil h
  | cons p ps ih =>
    have hself {m : ℕ} (hm : i ≤ m) : holdsUpTo m i = .holds := if_pos hm
    cases hp : p.link with
    | and =>
      have hps : ¬ps.Pairwise fun p q => p.connective = some .or → q.connective = some .or := by
        intro hps
        apply h
        refine List.pairwise_cons.2 ⟨fun q _ hor => ?_, hps⟩
        rw [link_eq_or_iff.2 hor] at hp
        cases hp
      obtain ⟨m, hm, hleft, hprecedence⟩ := ih hps (i + 1)
      have him : i ≤ m := Nat.le_of_succ_le hm
      refine ⟨m, him, ?_, ?_⟩
      · rwa [judged, hp, hself him]
      · rwa [judged, hp, hself him]
    | or =>
      refine ⟨i, Nat.le_refl i, ?_, ?_⟩
      · rw [judged, hp, hself (Nat.le_refl i)]
        apply Row.accumulate_fails (judged_fails (Nat.lt_succ_self i) ps)
        right
        obtain ⟨q, hq, hk⟩ := exists_and_of_not_pairwise h
        rcases List.mem_cons.1 hq with rfl | hq
        · rw [hp] at hk
          cases hk
        · obtain ⟨c, hc, hck⟩ := mem_judged_link (holdsUpTo i) (i + 1) hq
          exact ⟨c, hc, hck.trans hk⟩
      · rw [judged, hp, Row.conjoin, hself (Nat.le_refl i), Truth.holds_or]

lemma exists_leftToRight_ne {ps : List Predicate} (h : ¬OrsLast ps) :
    ∃ m, (judged (holdsUpTo m) 0 ps).leftToRight = .fails ∧
      (judged (holdsUpTo m) 0 ps).byPrecedence = .holds := by
  cases ps with
  | nil => exact absurd List.Pairwise.nil h
  | cons p ps =>
    obtain ⟨m, hm, hleft, hprecedence⟩ := exists_judged_ne h 1
    have hfirst : holdsUpTo m 0 = .holds := if_pos (Nat.zero_le m)
    refine ⟨m, ?_, ?_⟩
    · rwa [judged, Row.leftToRight, hfirst]
    · rwa [judged, Row.byPrecedence, hfirst]

lemma holdsUpTo_ne_unknown (m n : ℕ) : holdsUpTo m n ≠ .unknown := by
  unfold holdsUpTo
  split <;> decide

section Flat

variable {ps : List Predicate} (h : ∀ p ∈ ps, p.attribute?.isSome)
include h

/-- Where all predicates are leaves it makes no difference which of the two are numbered. -/
lemma truths_eq_judged (read : Row → Truth) (v : ℕ → Truth) (i : ℕ) :
    truths read v i ps = judged v i ps := by
  induction ps generalizing i with
  | nil => rfl
  | cons p ps ih =>
    cases p with
    | leaf k a t => rw [truths, judged, ← ih (List.forall_mem_cons.1 h |>.2)]; rfl
    | group k negated children => simp [attribute?] at h

lemma belowAll_of_flat (P : List Predicate → Prop) : BelowAll P ps := by
  induction ps with
  | nil => trivial
  | cons p ps ih =>
    cases p with
    | leaf k a t => exact ⟨trivial, ih (List.forall_mem_cons.1 h |>.2)⟩
    | group k negated children => simp [attribute?] at h

end Flat

end FacetSearch.Predicate
