import FacetSearch.Proofs.AllowList.Mentions

/-! The sort terms that can be shown with their columns and numbers as they are. A scan of a sort
expression yields no others, so no compiled query has others. -/
namespace FacetSearch

lemma isNameChar_of_isAttributeName {a : String} (h : isAttributeName a) :
    ∀ c ∈ a.toList, isNameChar c := (isAttributeName_iff.1 h).2

lemma Guard.eq_of_grant_eq_ok {α : Type} {g : Guard} {names : List String} {x y : α}
    (h : g.grant names x = .ok y) : y = x := by
  unfold grant at h
  split at h <;> cases h
  rfl

namespace SortTerm

/-- Where a term has a condition its column is a name, and what the condition calls a number is one.
-/
def IsLegible (t : SortTerm) : Prop :=
  ∀ c, t.condition = some c → isAttributeName t.column ∧
    ∀ s, c.value = .numeric s → Text.isFiniteDecimal s.toList

instance (t : SortTerm) : Decidable t.IsLegible :=
  match h : t.condition with
  | none => isTrue (by simp [IsLegible, h])
  | some ⟨_, .numeric s⟩ =>
    decidable_of_iff (isAttributeName t.column ∧ Text.isFiniteDecimal s.toList)
      (by simp [IsLegible, h])
  | some ⟨_, .text _⟩ =>
    decidable_of_iff (isAttributeName t.column) (by simp [IsLegible, h])

lemma isFiniteDecimal_of_ofText {value : List Char} {s : String}
    (h : Literal.ofText value = .numeric s) : Text.isFiniteDecimal s.toList := by
  unfold Literal.ofText at h
  split at h
  · next hv =>
    cases h
    rwa [String.toList_ofList]
  · cases h

lemma value_of_ofText? {body : List Char} {c : SortCondition}
    (h : SortCondition.ofText? body = some (some c)) : ∃ value, c.value = Literal.ofText value := by
  have hcond {op : Operator} {value : List Char}
      (hc : SortCondition.ofText?.condition op value = some (some c)) :
      ∃ value, c.value = Literal.ofText value := by
    unfold SortCondition.ofText?.condition at hc
    split at hc <;> cases hc
    exact ⟨value, rfl⟩
  unfold SortCondition.ofText? at h
  split at h
  · cases h
  · exact hcond h
  · exact hcond h
  · exact hcond h
  · exact hcond h
  · cases h

lemma isLegible_of_ofBody? {direction : Direction} {body : List Char} {t : SortTerm}
    (h : ofBody? direction body = some t) : t.IsLegible := by
  simp only [ofBody?] at h
  split at h
  · cases h
  · next hne =>
    obtain ⟨condition, hcondition, rfl⟩ := Option.map_eq_some_iff.1 h
    intro c hc
    obtain rfl : condition = some c := hc
    obtain ⟨value, hvalue⟩ := value_of_ofText? hcondition
    constructor
    · simp [isAttributeName, hne]
    · intro s hs
      exact isFiniteDecimal_of_ofText (hvalue ▸ hs)

/-- Every term of a scan was read off a body. -/
lemma exists_ofBody?_of_mem_scan {s : List Char} {t : SortTerm} (h : t ∈ scan s) :
    ∃ direction body, ofBody? direction body = some t := by
  obtain ⟨part, -, hpart⟩ := List.mem_filterMap.1 h
  unfold ofText? at hpart
  split at hpart
  · obtain ⟨direction, -, hbody⟩ := Option.bind_eq_some_iff.1 hpart
    exact ⟨direction, _, hbody⟩
  · exact ⟨.desc, _, hpart⟩

lemma isLegible_of_mem_scan {s : List Char} {t : SortTerm} (h : t ∈ scan s) : t.IsLegible := by
  obtain ⟨direction, body, hbody⟩ := exists_ofBody?_of_mem_scan h
  exact isLegible_of_ofBody? hbody

end SortTerm

/-- Every term of a compiled query is legible, in both modes and under every policy. -/
lemma Query.isLegible_of_compile {p : Policy} {mode : Mode} {r : Request} {q : Query}
    (h : compile p mode r = .ok q) : ∀ t ∈ q.sort, t.IsLegible := by
  rw [compile_eq_grant] at h
  rw [Guard.eq_of_grant_eq_ok h]
  intro t ht
  obtain ⟨u, hu, rfl⟩ := List.mem_map.1 ht
  -- marking a term changes neither its column nor its condition
  have hlegible : u.IsLegible := SortTerm.isLegible_of_mem_scan (List.mem_filter.1 hu).1
  exact hlegible

end FacetSearch
