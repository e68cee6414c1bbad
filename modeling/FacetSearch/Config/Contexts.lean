import FacetSearch.Schema

/-! Filtering contexts: schemas under distinct names, in the order the names came in. -/
namespace FacetSearch

structure Contexts where
  entries : List (String × Schema)
  distinct : (entries.map (·.1)).Nodup
  deriving DecidableEq

namespace Contexts

def empty : Contexts := ⟨[], .nil⟩

def names (cs : Contexts) : List String := cs.entries.map (·.1)

def find? (cs : Contexts) (name : String) : Option Schema := cs.entries.lookup name

/-- The entries with one more at the end, or with its schema put into its place. -/
def upsert (name : String) (s : Schema) : List (String × Schema) → List (String × Schema)
  | [] => [(name, s)]
  | (name', s') :: rest =>
    if name' = name then (name, s) :: rest else (name', s') :: upsert name s rest

theorem names_upsert (name : String) (s : Schema) (es : List (String × Schema)) :
    (upsert name s es).map (·.1) =
      if name ∈ es.map (·.1) then es.map (·.1) else es.map (·.1) ++ [name] := by
  induction es with
  | nil => rfl
  | cons e es ih =>
    obtain ⟨name', s'⟩ := e
    unfold upsert
    split
    · next h => simp [h]
    · next h =>
      simp only [List.map_cons, ih, List.mem_cons, Ne.symm h, false_or]
      split <;> rfl

theorem upsert_distinct (name : String) (s : Schema) {es : List (String × Schema)}
    (h : (es.map (·.1)).Nodup) : ((upsert name s es).map (·.1)).Nodup := by
  rw [names_upsert]
  split
  · exact h
  · next hn =>
    refine List.nodup_append.2 ⟨h, List.nodup_cons.2 ⟨List.not_mem_nil, .nil⟩, ?_⟩
    rintro a ha b hb rfl
    exact hn (List.mem_singleton.1 hb ▸ ha)

def insert (cs : Contexts) (name : String) (s : Schema) : Contexts :=
  ⟨upsert name s cs.entries, upsert_distinct name s cs.distinct⟩

theorem lookup_entry (a b : String) (s : Schema) (es : List (String × Schema)) :
    ((b, s) :: es).lookup a = if a = b then some s else es.lookup a := by
  by_cases h : a = b
  · rw [h, List.lookup_cons_self, if_pos rfl]
  · rw [List.lookup_cons, beq_false_of_ne h, if_neg h]

theorem lookup_upsert (name a : String) (s : Schema) (es : List (String × Schema)) :
    (upsert name s es).lookup a = if a = name then some s else es.lookup a := by
  induction es with
  | nil => exact lookup_entry a name s []
  | cons e es ih =>
    obtain ⟨b, s'⟩ := e
    unfold upsert
    split
    · next h =>
      subst h
      rw [lookup_entry, lookup_entry]
      split <;> rfl
    · next h =>
      rw [lookup_entry, lookup_entry, ih]
      split
      · next hb => rw [if_neg (hb ▸ h)]
      · rfl

@[simp] theorem find?_insert (cs : Contexts) (name a : String) (s : Schema) :
    (cs.insert name s).find? a = if a = name then some s else cs.find? a :=
  lookup_upsert name a s cs.entries

def erase (cs : Contexts) (name : String) : Contexts :=
  ⟨cs.entries.filter (·.1 != name), cs.distinct.sublist (List.filter_sublist.map _)⟩

/-- A name that comes again keeps its place and takes the later schema. -/
def ofList (es : List (String × Schema)) : Contexts :=
  es.foldl (fun cs e => cs.insert e.1 e.2) empty

end Contexts
end FacetSearch
