import FacetSearch.Policy
import Mathlib.Tactic.Common

/-! What a guard does with a result that comes with the mention of some names. In strict mode the
first disallowed name ends the computation; else the result goes through. -/
namespace FacetSearch.Guard

/-- The first of some names that strict mode refuses. -/
def refused? (g : Guard) (names : List String) : Option String :=
  match g.mode with
  | .strict => names.find? fun a => !g.policy.isFilterable a
  | .permissive => none

def grant {α : Type} (g : Guard) (names : List String) (x : α) : Except CompileError α :=
  match g.refused? names with
  | some a => .error (.unfilterable a)
  | none => .ok x

@[simp] lemma refused?_nil (g : Guard) : g.refused? [] = none := by
  cases h : g.mode <;> simp [refused?, h]

lemma refused?_append (g : Guard) (as bs : List String) :
    g.refused? (as ++ bs) = (g.refused? as).or (g.refused? bs) := by
  cases h : g.mode <;> simp [refused?, h, List.find?_append]

lemma refused?_eq_none_iff {g : Guard} {names : List String} :
    g.refused? names = none ↔ (g.mode = .strict → ∀ a ∈ names, g.policy.isFilterable a) := by
  cases h : g.mode <;> simp [refused?, h]

variable {α β : Type}

@[simp] lemma grant_nil (g : Guard) (x : α) : g.grant [] x = .ok x := by
  simp [grant]

@[simp] lemma grant_permissive (p : Policy) (names : List String) (x : α) :
    grant ⟨p, .permissive⟩ names x = .ok x := rfl

lemma grant_strict_eq_error_iff (p : Policy) (names : List String) (x : α) (a : String) :
    grant ⟨p, .strict⟩ names x = .error (.unfilterable a) ↔
      names.find? (fun a => !p.isFilterable a) = some a := by
  simp only [grant, refused?]
  cases names.find? (fun a => !p.isFilterable a) <;> simp

/-- Where every name is admitted the mode makes no difference. -/
lemma grant_of_forall {g : Guard} {names : List String} (x : α)
    (h : ∀ a ∈ names, g.policy.isFilterable a) : g.grant names x = .ok x := by
  have hn : names.find? (fun a => !g.policy.isFilterable a) = none := by
    simpa using h
  cases hm : g.mode <;> simp [grant, refused?, hm, hn]

lemma grant_eq_ok_iff {g : Guard} {names : List String} {x y : α} :
    g.grant names x = .ok y ↔ g.refused? names = none ∧ x = y := by
  cases h : g.refused? names <;> simp [grant, h]

/-- Of two stages in a row the first one that refuses a name gives the error. -/
lemma grant_bind {g : Guard} {as bs : List String} {x : α} {y : β}
    {f : α → Except CompileError β} (h : f x = g.grant bs y) :
    (g.grant as x >>= f) = g.grant (as ++ bs) y := by
  simp only [grant, refused?_append] at h ⊢
  cases g.refused? as with
  | some a => rfl
  | none => exact h

lemma grant_map {g : Guard} {names : List String} {x : α} {y : β} {f : α → Except CompileError β}
    (h : f x = .ok y) : (g.grant names x >>= f) = g.grant names y := by
  rw [← grant_nil g y] at h
  rw [grant_bind h, List.append_nil]

lemma check_eq_grant (g : Guard) (a : String) :
    g.check a = g.grant [a] (g.policy.isFilterable a) := by
  cases ha : g.policy.isFilterable a <;> cases hm : g.mode <;>
    simp [check, grant, refused?, ha, hm]

/-- A pass over a list mentions what its steps mention, in the same order. -/
lemma filterMapM_eq_grant {g : Guard} {f : α → Except CompileError (Option β)}
    {names : α → List String} {kept : α → Option β} (h : ∀ x, f x = g.grant (names x) (kept x))
    (xs : List α) : xs.filterMapM f = g.grant (xs.flatMap names) (xs.filterMap kept) := by
  induction xs with
  | nil => rw [List.flatMap_nil, grant_nil]; rfl
  | cons x xs ih =>
    rw [List.filterMapM_cons, h, ih, List.flatMap_cons]
    apply grant_bind
    cases hx : kept x with
    | none => rw [List.filterMap_cons_none hx]
    | some y =>
      rw [List.filterMap_cons_some hx]
      exact grant_map rfl

lemma filter_eq_grant (g : Guard) (name : α → String) (xs : List α) :
    g.filter name xs =
      g.grant (xs.map name) (xs.filter fun x => g.policy.isFilterable (name x)) := by
  have h (x : α) : (do return if ← g.check (name x) then some x else none) =
      g.grant [name x] (Option.guard (fun x => g.policy.isFilterable (name x)) x) := by
    rw [check_eq_grant]
    exact grant_map rfl
  rw [List.map_eq_flatMap, ← List.filterMap_eq_filter]
  exact filterMapM_eq_grant h xs

end FacetSearch.Guard
