import FacetSearch.Operator
import Mathlib.Tactic.Common

/-! Conditions in a row with connectives between them, and the two ways to read such a row: strictly
from left to right, or with `AND` binding tighter than `OR`. They agree on a row in which no `OR`
comes before an `AND`, and on no other row of independent conditions. -/
namespace FacetSearch

/-- The truth values of SQL. -/
inductive Truth
  | fails
  | unknown
  | holds
  deriving DecidableEq

namespace Truth

def and : Truth → Truth → Truth
  | holds, holds => holds
  | fails, _ => fails
  | _, fails => fails
  | _, _ => unknown

def or : Truth → Truth → Truth
  | fails, fails => fails
  | holds, _ => holds
  | _, holds => holds
  | _, _ => unknown

def not : Truth → Truth
  | fails => holds
  | unknown => unknown
  | holds => fails

@[simp] lemma and_fails (a : Truth) : a.and fails = fails := by
  cases a <;> rfl

lemma and_eq_holds_iff {a b : Truth} : a.and b = holds ↔ a = holds ∧ b = holds := by
  cases a <;> cases b <;> decide

@[simp] lemma or_fails (a : Truth) : a.or fails = a := by
  cases a <;> rfl

@[simp] lemma holds_or (a : Truth) : holds.or a = holds := by
  cases a <;> rfl

@[simp] lemma or_holds (a : Truth) : a.or holds = holds := by
  cases a <;> rfl

end Truth

def Connective.join : Connective → Truth → Truth → Truth
  | .and => Truth.and
  | .or => Truth.or

lemma Connective.join_assoc (k : Connective) (a b c : Truth) :
    k.join (k.join a b) c = k.join a (k.join b c) := by
  cases k <;> cases a <;> cases b <;> cases c <;> rfl

/-- Conditions from left to right, each with the connective that joins it to those before it. -/
abbrev Row := List (Connective × Truth)

namespace Row

/-- Goes on from the value of all conditions before a row. -/
def accumulate (a : Truth) : Row → Truth
  | [] => a
  | (k, b) :: row => accumulate (k.join a b) row

/-- Goes on from the value of the conjunction before a row; an `OR` ends it. -/
def conjoin (a : Truth) : Row → Truth
  | [] => a
  | (.and, b) :: row => conjoin (a.and b) row
  | (.or, b) :: row => a.or (conjoin b row)

/-- The value of a row that is read strictly from left to right; the connective of its first
condition joins nothing. -/
def leftToRight : Row → Truth
  | [] => .holds
  | (_, a) :: row => accumulate a row

/-- The value of a row in which `AND` binds tighter than `OR`. -/
def byPrecedence : Row → Truth
  | [] => .holds
  | (_, a) :: row => conjoin a row

lemma accumulate_append (a : Truth) (row row' : Row) :
    accumulate a (row ++ row') = accumulate (accumulate a row) row' := by
  induction row generalizing a with
  | nil => rfl
  | cons c row ih => exact ih _

/-- An `OR` anywhere in a row parts it into two rows that are read on their own. -/
lemma conjoin_append_or (a b : Truth) (row row' : Row) :
    conjoin a (row ++ (.or, b) :: row') = (conjoin a row).or (conjoin b row') := by
  induction row generalizing a with
  | nil => rfl
  | cons c row ih =>
    obtain ⟨k, c⟩ := c
    cases k with
    | and => exact ih (a.and c)
    | or =>
      rw [List.cons_append, conjoin, conjoin, ih]
      exact (Connective.or.join_assoc a _ _).symm

lemma conjoin_append_and {row : Row} (h : ∀ c ∈ row, c.1 = .and) (a b : Truth) :
    conjoin a (row ++ [(.and, b)]) = (conjoin a row).and b := by
  induction row generalizing a with
  | nil => rfl
  | cons c row ih =>
    obtain ⟨k, c⟩ := c
    obtain rfl : k = .and := h (k, c) List.mem_cons_self
    exact ih (fun c hc => h c (List.mem_cons_of_mem _ hc)) (a.and c)

/-- A row with one connective throughout may be joined to what stands before it at its end. -/
lemma accumulate_join {k : Connective} {row : Row} (h : ∀ c ∈ row, c.1 = k) (a b : Truth) :
    accumulate (k.join a b) row = k.join a (accumulate b row) := by
  induction row generalizing b with
  | nil => rfl
  | cons c row ih =>
    have hc : c.1 = k := h c List.mem_cons_self
    simp only [accumulate, hc, Connective.join_assoc]
    exact ih (fun d hd => h d (List.mem_cons_of_mem _ hd)) (k.join b c.2)

/-- A row of conditions joined by `AND` may be read on its own. -/
lemma accumulate_append_and {row' : Row} (h : ∀ c ∈ row', c.1 = .and) (a b : Truth) (row : Row) :
    accumulate a (row ++ (.and, b) :: row') = (accumulate a row).and (accumulate b row') := by
  rw [accumulate_append, accumulate]
  exact accumulate_join h _ b

/-- Where only `OR` follows an `OR` the two readings go on alike. -/
lemma accumulate_eq_conjoin {row : Row} (h : row.Pairwise fun c d => c.1 = .or → d.1 = .or)
    (a : Truth) : accumulate a row = conjoin a row := by
  induction row generalizing a with
  | nil => rfl
  | cons c row ih =>
    obtain ⟨k, c⟩ := c
    obtain ⟨hc, hrow⟩ := List.pairwise_cons.1 h
    cases k with
    | and => exact ih hrow (a.and c)
    | or =>
      rw [conjoin, ← ih hrow]
      exact accumulate_join (fun d hd => hc d hd rfl) a c

/-- The two readings are one where no `OR` comes before an `AND`. -/
lemma leftToRight_eq_byPrecedence {row : Row}
    (h : row.tail.Pairwise fun c d => c.1 = .or → d.1 = .or) :
    row.leftToRight = row.byPrecedence := by
  cases row with
  | nil => rfl
  | cons c row => exact accumulate_eq_conjoin h c.2

lemma accumulate_eq_conjoin_of_and {row : Row} (h : ∀ c ∈ row, c.1 = .and) (a : Truth) :
    accumulate a row = conjoin a row := by
  apply accumulate_eq_conjoin
  apply List.pairwise_of_forall_mem_list
  intro c hc d _ hor
  rw [h c hc] at hor
  cases hor

/-- A row of conditions joined by `AND` holds if all of them do. -/
lemma accumulate_eq_holds_iff {row : Row} (h : ∀ c ∈ row, c.1 = .and) (a : Truth) :
    accumulate a row = .holds ↔ a = .holds ∧ ∀ c ∈ row, c.2 = .holds := by
  induction row generalizing a with
  | nil => simp [accumulate]
  | cons c row ih =>
    rw [List.forall_mem_cons] at h
    rw [accumulate, h.1, Connective.join, ih h.2, Truth.and_eq_holds_iff, List.forall_mem_cons,
      and_assoc]

lemma leftToRight_eq_holds_iff {row : Row} (h : ∀ c ∈ row.tail, c.1 = .and) :
    row.leftToRight = .holds ↔ ∀ c ∈ row, c.2 = .holds := by
  cases row with
  | nil => simp [leftToRight]
  | cons c row =>
    rw [List.tail_cons] at h
    rw [leftToRight, accumulate_eq_holds_iff h, List.forall_mem_cons]

section Holding

variable {row : Row} (h : ∀ c ∈ row, c.2 = .holds)
include h

lemma accumulate_holds_of_forall : accumulate .holds row = .holds := by
  induction row with
  | nil => rfl
  | cons c row ih =>
    have hc : c.1.join .holds c.2 = .holds := by
      rw [h c List.mem_cons_self]
      cases c.1 <;> rfl
    rw [accumulate, hc]
    exact ih fun d hd => h d (List.mem_cons_of_mem _ hd)

lemma conjoin_holds_of_forall : conjoin .holds row = .holds := by
  induction row with
  | nil => rfl
  | cons c row ih =>
    obtain ⟨k, b⟩ := c
    obtain rfl : b = .holds := h (k, b) List.mem_cons_self
    have hrow := ih fun d hd => h d (List.mem_cons_of_mem _ hd)
    cases k with
    | and => exact hrow
    | or => exact Truth.holds_or _

/-- Behind an `OR` it does not matter what came before, so the row holds in both readings. -/
lemma holds_of_or (hor : ∃ c ∈ row, c.1 = .or) (a : Truth) :
    accumulate a row = .holds ∧ conjoin a row = .holds := by
  induction row generalizing a with
  | nil => simp at hor
  | cons c row ih =>
    obtain ⟨k, b⟩ := c
    obtain rfl : b = .holds := h (k, b) List.mem_cons_self
    have hrow : ∀ c ∈ row, c.2 = .holds := fun d hd => h d (List.mem_cons_of_mem _ hd)
    cases k with
    | and => exact ih hrow (by simpa using hor) (a.and .holds)
    | or =>
      constructor
      · rw [accumulate, Connective.join, Truth.or_holds, accumulate_holds_of_forall hrow]
      · rw [conjoin, conjoin_holds_of_forall hrow, Truth.or_holds]

lemma holds_append_of_or (hor : ∃ c ∈ row, c.1 = .or) (a : Truth) (before : Row) :
    accumulate a (before ++ row) = .holds ∧ conjoin a (before ++ row) = .holds := by
  induction before generalizing a with
  | nil => exact holds_of_or h hor a
  | cons c before ih =>
    obtain ⟨k, b⟩ := c
    cases k with
    | and => exact ih (a.and b)
    | or =>
      refine ⟨(ih (a.or b)).1, ?_⟩
      rw [List.cons_append, conjoin, (ih b).2, Truth.or_holds]

end Holding

/-- Conditions that fail make a row fail from its first `AND` on, if it is read from left to right.
-/
lemma accumulate_fails {row : Row} (h : ∀ c ∈ row, c.2 = .fails) {a : Truth}
    (ha : a = .fails ∨ ∃ c ∈ row, c.1 = .and) : accumulate a row = .fails := by
  induction row generalizing a with
  | nil => simpa [accumulate] using ha
  | cons c row ih =>
    obtain ⟨k, b⟩ := c
    obtain rfl : b = .fails := h (k, b) List.mem_cons_self
    apply ih fun d hd => h d (List.mem_cons_of_mem _ hd)
    cases k with
    | and => exact .inl (Truth.and_fails a)
    | or => simpa [Connective.join] using ha

end Row
end FacetSearch
