/-! Finite sets of names. -/
namespace FacetSearch

/-- A set of names, kept as its elements in ascending order. -/
structure NameSet where
  names : List String
  ascending : names.Pairwise (· < ·)
  deriving DecidableEq

namespace NameSet

def empty : NameSet := ⟨[], .nil⟩

def has (s : NameSet) (a : String) : Bool := s.names.contains a

/-- Puts a name into an ascending list, unless it is there. -/
def place (a : String) : List String → List String
  | [] => [a]
  | b :: bs => if a < b then a :: b :: bs else if a = b then b :: bs else b :: place a bs

@[simp] theorem mem_place {a x : String} {bs : List String} : x ∈ place a bs ↔ x = a ∨ x ∈ bs := by
  induction bs with
  | nil => simp [place]
  | cons b bs ih =>
    unfold place
    split
    · simp
    · split
      · next h => simp [h]
      · simp only [List.mem_cons, ih]
        constructor <;> rintro (h | h | h) <;> simp [h]

theorem place_ascending {a : String} {bs : List String} (h : bs.Pairwise (· < ·)) :
    (place a bs).Pairwise (· < ·) := by
  induction bs with
  | nil => simp [place]
  | cons b bs ih =>
    have hb := List.pairwise_cons.1 h
    unfold place
    split
    · next hab =>
      refine List.pairwise_cons.2 ⟨fun x hx => ?_, h⟩
      rcases List.mem_cons.1 hx with rfl | hx
      · exact hab
      · exact String.lt_trans hab (hb.1 x hx)
    · next hab =>
      split
      · exact h
      · next hne =>
        refine List.pairwise_cons.2 ⟨fun x hx => ?_, ih hb.2⟩
        rcases mem_place.1 hx with rfl | hx
        · exact String.not_le.1 fun hle => hne (String.le_antisymm hle (String.not_lt.1 hab))
        · exact hb.1 x hx

def insert (s : NameSet) (a : String) : NameSet := ⟨place a s.names, place_ascending s.ascending⟩

@[simp] theorem has_empty (a : String) : empty.has a = false := rfl

@[simp] theorem has_insert (s : NameSet) (a x : String) :
    (s.insert a).has x = (x == a || s.has x) := by
  rw [Bool.eq_iff_iff]
  simp [has, insert]

def ofList (names : List String) : NameSet := names.foldl insert empty

@[simp] theorem has_ofList (names : List String) (x : String) :
    (ofList names).has x = names.contains x := by
  suffices ∀ s : NameSet, (names.foldl insert s).has x = (s.has x || names.contains x) by
    simpa [ofList] using this empty
  induction names with
  | nil => simp
  | cons a names ih =>
    intro s
    rw [List.foldl_cons, ih, has_insert, List.contains_cons]
    cases x == a <;> cases s.has x <;> rfl

end NameSet
end FacetSearch
