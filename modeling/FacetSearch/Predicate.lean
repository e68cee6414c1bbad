import FacetSearch.Operator

/-! Compiled conditions: tests on single attributes, joined in a list and grouped in parentheses. -/
namespace FacetSearch

/-- A value that a filter compares an attribute with. -/
inductive Value
  | integer (n : Int64)
  | text (s : String)
  deriving DecidableEq

/-- What a predicate asks of one attribute. The operator of a comparison is the one to apply: where
the filter said `NOT` it is negated already, and the flag only records that. -/
inductive Test
  | comparison (operator : Operator) (value : Value) (negated : Bool)
  | range (min max : Int64) (negated : Bool)
  | inList (values : List String) (negated : Bool)
  | isNull (negated : Bool)
  | arrayContains (values : List String)
  deriving DecidableEq

/-- A test of a named attribute, or a group of predicates. The connective joins it to the predicate
before it. -/
inductive Predicate
  | leaf (connective : Option Connective) (name : String) (test : Test)
  | group (connective : Option Connective) (negated : Bool) (children : List Predicate)

namespace Predicate

mutual
/-- Equality of predicates is decided down the tree. -/
def decEq : (p q : Predicate) → Decidable (p = q)
  | leaf k a t, leaf k' a' t' =>
    decidable_of_iff (k = k' ∧ a = a' ∧ t = t') (by simp)
  | group k n ps, group k' n' ps' =>
    match decEqList ps ps' with
    | isTrue h => decidable_of_iff (k = k' ∧ n = n') (by simp [h])
    | isFalse h => isFalse (by simp [h])
  | leaf .., group .. => isFalse (by simp)
  | group .., leaf .. => isFalse (by simp)

def decEqList : (ps qs : List Predicate) → Decidable (ps = qs)
  | [], [] => isTrue rfl
  | p :: ps, q :: qs =>
    match decEq p q, decEqList ps qs with
    | isTrue h, isTrue h' => isTrue (by rw [h, h'])
    | isFalse h, _ => isFalse (by simp [h])
    | _, isFalse h => isFalse (by simp [h])
  | [], _ :: _ => isFalse (by simp)
  | _ :: _, [] => isFalse (by simp)
end

instance : DecidableEq Predicate := decEq

def connective : Predicate → Option Connective
  | leaf k _ _ => k
  | group k _ _ => k

def withConnective (k : Option Connective) : Predicate → Predicate
  | leaf _ a t => leaf k a t
  | group _ n ps => group k n ps

/-- The attribute that a leaf tests; a group has none. -/
def attribute? : Predicate → Option String
  | leaf _ a _ => some a
  | group .. => none

@[simp] theorem connective_withConnective (k : Option Connective) (p : Predicate) :
    (p.withConnective k).connective = k := by
  cases p <;> rfl

@[simp] theorem attribute?_withConnective (k : Option Connective) (p : Predicate) :
    (p.withConnective k).attribute? = p.attribute? := by
  cases p <;> rfl

@[simp] theorem withConnective_withConnective (k k' : Option Connective) (p : Predicate) :
    (p.withConnective k').withConnective k = p.withConnective k := by
  cases p <;> rfl

/-- The list with the given connective on its first predicate. -/
def headed (k : Option Connective) : List Predicate → List Predicate
  | [] => []
  | p :: ps => p.withConnective k :: ps

@[simp] theorem headed_nil (k : Option Connective) : headed k [] = [] := rfl

@[simp] theorem headed_cons (k : Option Connective) (p : Predicate) (ps : List Predicate) :
    headed k (p :: ps) = p.withConnective k :: ps := rfl

@[simp] theorem headed_headed (k k' : Option Connective) (ps : List Predicate) :
    headed k (headed k' ps) = headed k ps := by
  cases ps <;> simp

@[simp] theorem headed_eq_nil_iff {k : Option Connective} {ps : List Predicate} :
    headed k ps = [] ↔ ps = [] := by
  cases ps <;> simp

end Predicate
end FacetSearch
