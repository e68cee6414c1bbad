import FacetSearch.Proofs.Meaning.Predicates
import Mathlib.Order.Lattice

/-! The truth value of predicates in a record of a table. What is asked of a missing value is unknown,
except whether it is missing. -/
namespace FacetSearch

namespace Truth

def ofBool (b : Bool) : Truth := if b then holds else fails

/-- The truth value of a condition that may stand behind a `NOT`. -/
def notIf (negated : Bool) (a : Truth) : Truth := if negated then a.not else a

@[simp] lemma notIf_false (a : Truth) : notIf false a = a := rfl

@[simp] lemma notIf_true (a : Truth) : notIf true a = a.not := rfl

@[simp] lemma ofBool_eq_holds_iff {b : Bool} : ofBool b = holds ↔ b := by
  cases b <;> decide

@[simp] lemma not_unknown : unknown.not = unknown := rfl

@[simp] lemma not_ofBool (b : Bool) : (ofBool b).not = ofBool !b := by
  cases b <;> rfl

end Truth

section Operators

variable {α : Type} [LinearOrder α]

/-- Whether an operator holds between two values. -/
def Operator.admits : Operator → α → α → Bool
  | eq, x, y => x = y
  | ne, x, y => x ≠ y
  | gt, x, y => y < x
  | ge, x, y => y ≤ x
  | lt, x, y => x < y
  | le, x, y => x ≤ y

lemma Operator.admits_negate (op : Operator) (x y : α) :
    op.negate.admits x y = !op.admits x y := by
  cases op with
  | eq => simp [negate, admits]
  | ne => simp [negate, admits]
  | gt => simp [negate, admits, ← not_lt]
  | ge => simp [negate, admits, ← not_le]
  | lt => simp [negate, admits, ← not_lt]
  | le => simp [negate, admits, ← not_le]

end Operators

/-- A record of a table: the value of each attribute, where it is not `NULL`, and which texts are
together in the sets that array attributes hold. -/
structure Record where
  value? : String → Option Value
  contains : String → List String → Truth

/-- What a question about the value of an attribute comes to. -/
def Record.ask (r : Record) (a : String) (question : Value → Bool) : Truth :=
  match r.value? a with
  | none => .unknown
  | some x => .ofBool (question x)

lemma Record.ask_not (r : Record) (a : String) (question : Value → Bool) :
    (r.ask a fun x => !question x) = (r.ask a question).not := by
  unfold ask
  cases r.value? a <;> simp

section Verdict

variable [LinearOrder Value] (r : Record)

/-- Whether a value lies between two integers, both included. -/
def Value.isBetween (low high : Int64) (x : Value) : Bool := integer low ≤ x && x ≤ integer high

/-- Whether a value is one of some texts. -/
def Value.isOneOf (vs : List String) (x : Value) : Bool :=
  vs.any fun s => Operator.eq.admits x (text s)

/-- The truth value of a test. The operator of a comparison is the one to apply, whatever its flag
says; in all other tests the flag stands for a `NOT`. -/
def Test.verdict (a : String) : Test → Truth
  | comparison op v _ => r.ask a (op.admits · v)
  | range low high negated => (r.ask a (Value.isBetween low high)).notIf negated
  | inList vs negated => (r.ask a (Value.isOneOf vs)).notIf negated
  | isNull negated => (Truth.ofBool (r.value? a).isNone).notIf negated
  | arrayContains vs => r.contains a vs

namespace Predicate

variable (read : Row → Truth)

mutual
/-- The truth value of a predicate by its own fields, where the rows of its groups are read in the
given way. -/
def verdict : Predicate → Truth
  | leaf _ a t => t.verdict r a
  | group _ negated children => (read (verdicts children)).notIf negated

def verdicts : List Predicate → Row
  | [] => []
  | p :: ps => (p.link, verdict p) :: verdicts ps
end

@[simp] lemma verdict_withConnective (k : Option Connective) (p : Predicate) :
    (p.withConnective k).verdict r read = p.verdict r read := by
  cases p <;> rfl

lemma verdicts_append (ps qs : List Predicate) :
    verdicts r read (ps ++ qs) = verdicts r read ps ++ verdicts r read qs := by
  induction ps with
  | nil => rfl
  | cons p ps ih => rw [List.cons_append, verdicts, verdicts, ih, List.cons_append]

lemma map_fst_verdicts (ps : List Predicate) :
    (verdicts r read ps).map Prod.fst = ps.map link := by
  induction ps with
  | nil => rfl
  | cons p ps ih => rw [verdicts, List.map_cons, List.map_cons, ih]

end Predicate
end Verdict
end FacetSearch
