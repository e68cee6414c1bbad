import FacetSearch.Sql
import Mathlib.Tactic.Common

/-! Reading SQL text by its quoting rules. A text is closed if a reader who comes to it outside all
quotes leaves it outside of them; closed texts make closed texts when they are put together. -/
namespace FacetSearch.Sql

/-- The quotes of SQL: one around names, one around texts. -/
inductive Mark
  | name
  | text
  deriving DecidableEq

namespace Mark

def char : Mark → Char
  | name => '"'
  | text => '\''

def ofChar? (c : Char) : Option Mark :=
  if c = '"' then some name else if c = '\'' then some text else none

@[simp] lemma ofChar?_char (m : Mark) : ofChar? m.char = some m := by
  cases m <;> rfl

end Mark

/-- Where a reader stands: outside all regions, in one that a mark opened, or behind such a mark
inside of it, which ends the region unless it comes once more. -/
inductive Region
  | outside
  | inside (mark : Mark)
  | behind (mark : Mark)
  deriving DecidableEq

namespace Region

/-- The next place for a reader who is in no region. -/
def enter (c : Char) : Region :=
  match Mark.ofChar? c with
  | some m => inside m
  | none => outside

def next : Region → Char → Region
  | outside, c => enter c
  | inside m, c => if c = m.char then behind m else inside m
  | behind m, c => if c = m.char then inside m else enter c

/-- Where the reader stands at the end of a text. -/
def after (p : Region) (s : List Char) : Region := s.foldl next p

/-- Whether the next character belongs to no region. -/
def isBare : Region → Char → Bool
  | inside _, _ => false
  | _, c => (Mark.ofChar? c).isNone

/-- The characters of a text that belong to no region. -/
def bare : Region → List Char → List Char
  | _, [] => []
  | p, c :: s => if p.isBare c then c :: bare (p.next c) s else bare (p.next c) s

/-- Whether a text that ends here ends outside every region. -/
def isClosed : Region → Bool
  | inside _ => false
  | _ => true

lemma after_append (p : Region) (s t : List Char) : p.after (s ++ t) = (p.after s).after t :=
  List.foldl_append

lemma bare_append (p : Region) (s t : List Char) :
    p.bare (s ++ t) = p.bare s ++ (p.after s).bare t := by
  induction s generalizing p with
  | nil => rfl
  | cons c s ih =>
    change bare p (c :: (s ++ t)) = bare p (c :: s) ++ ((p.next c).after s).bare t
    simp only [bare, ih]
    split <;> rfl

lemma next_char {p : Region} (hp : p.isClosed) (m : Mark) : p.next m.char = inside m := by
  cases p with
  | outside => simp [next, enter]
  | inside m' => cases hp
  | behind m' =>
    by_cases h : m.char = m'.char
    · have hm : some m = some m' := by
        rw [← Mark.ofChar?_char m, h, Mark.ofChar?_char]
      rw [Option.some.inj hm]
      simp [next]
    · simp [next, enter, h]

lemma isBare_char (p : Region) (m : Mark) : p.isBare m.char = false := by
  cases p <;> simp [isBare]

lemma next_of_not_mark {p : Region} (hp : p.isClosed) {c : Char} (hc : Mark.ofChar? c = none) :
    p.next c = outside := by
  cases p with
  | outside => simp [next, enter, hc]
  | inside m => cases hp
  | behind m =>
    have h : c ≠ m.char := by
      rintro rfl
      simp at hc
    simp [next, enter, hc, h]

lemma isBare_of_not_mark {p : Region} (hp : p.isClosed) {c : Char} (hc : Mark.ofChar? c = none) :
    p.isBare c := by
  cases p with
  | outside => simp [isBare, hc]
  | inside m => cases hp
  | behind m => simp [isBare, hc]

/-- A doubled mark stays in its region, so only the last one ends it. -/
lemma read_doubled (m : Mark) (s : List Char) :
    (inside m).after (Text.doubled m.char s) = inside m ∧
      (inside m).bare (Text.doubled m.char s) = [] := by
  induction s with
  | nil => exact ⟨rfl, rfl⟩
  | cons c s ih =>
    have hc : (inside m).after (if c = m.char then [c, c] else [c]) = inside m ∧
        (inside m).bare (if c = m.char then [c, c] else [c]) = [] := by
      split
      · next h => subst h; simp [after, bare, next, isBare]
      · next h => simp [after, bare, next, isBare, h]
    rw [Text.doubled_cons, after_append, bare_append, hc.1, hc.2]
    exact ih

end Region

/-- A reader who comes to the text outside all regions leaves it outside of them and has read the
given characters outside. -/
def Closed (s bare : List Char) : Prop :=
  ∀ p : Region, p.isClosed → (p.after s).isClosed ∧ p.bare s = bare

namespace Closed

lemma nil : Closed [] [] := fun _ hp => ⟨hp, rfl⟩

lemma append {s t b c : List Char} (hs : Closed s b) (ht : Closed t c) :
    Closed (s ++ t) (b ++ c) := by
  intro p hp
  obtain ⟨hsp, rfl⟩ := hs p hp
  obtain ⟨htp, rfl⟩ := ht _ hsp
  exact ⟨Region.after_append p s t ▸ htp, Region.bare_append p s t⟩

/-- A text without marks is outside as a whole. -/
lemma of_not_mark {s : List Char} (h : ∀ c ∈ s, Mark.ofChar? c = none) : Closed s s := by
  induction s with
  | nil => exact nil
  | cons c s ih =>
    have hc := h c List.mem_cons_self
    have hone : Closed [c] [c] := by
      intro p hp
      have hnext := Region.next_of_not_mark hp hc
      have hbare := Region.isBare_of_not_mark hp hc
      simp [Region.after, Region.bare, hnext, hbare, Region.isClosed]
    exact hone.append (ih fun d hd => h d (List.mem_cons_of_mem c hd))

/-- Nothing of an enclosed text is outside, whatever is in it. -/
lemma enclosed (m : Mark) (s : String) : Closed (enclosed m.char s).toList [] := by
  intro p hp
  obtain ⟨hafter, hbare⟩ := Region.read_doubled m s.toList
  have hs : (Sql.enclosed m.char s).toList = [m.char] ++ Text.doubled m.char s.toList ++ [m.char] := by
    simp [Sql.enclosed]
  have hfirst : p.after [m.char] = Region.inside m := Region.next_char hp m
  constructor
  · rw [hs, Region.after_append, Region.after_append, hfirst, hafter]
    simp [Region.after, Region.next, Region.isClosed]
  · rw [hs, Region.bare_append, Region.bare_append, Region.after_append, hfirst, hafter, hbare]
    simp [Region.bare, Region.isBare_char]

end Closed
end FacetSearch.Sql
