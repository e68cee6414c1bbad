import Mathlib.Tactic.Common

/-! Cancelling printed text from the front: what was printed first is the same in two equal texts,
and so is what follows it, if it can be told where the first part ends. -/
namespace FacetSearch.Text

/-- Two texts that start with a run of one kind of character, where nothing of the kind follows, are
equal in the run and behind it. -/
lemma run_append_inj {p : Char → Bool} {xs ys r s : List Char} (hx : ∀ c ∈ xs, p c)
    (hy : ∀ c ∈ ys, p c) (hr : ∀ c ∈ r.head?, p c = false) (hs : ∀ c ∈ s.head?, p c = false)
    (h : xs ++ r = ys ++ s) : xs = ys ∧ r = s := by
  induction xs generalizing ys with
  | nil =>
    cases ys with
    | nil => exact ⟨rfl, h⟩
    | cons y ys =>
      have hry : p y = false := hr y (by rw [List.nil_append] at h; simp [h])
      simp [hy y List.mem_cons_self] at hry
  | cons x xs ih =>
    have hpx := hx x List.mem_cons_self
    cases ys with
    | nil =>
      have hsx : p x = false := hs x (by rw [List.nil_append] at h; simp [← h])
      simp [hpx] at hsx
    | cons y ys =>
      obtain ⟨rfl, ht⟩ := List.cons.inj h
      obtain ⟨rfl, hrs⟩ := ih (fun c hc => hx c (List.mem_cons_of_mem _ hc))
        (fun c hc => hy c (List.mem_cons_of_mem _ hc)) ht
      exact ⟨rfl, hrs⟩

/-- A run of one kind of character does not start with a character of another kind. -/
lemma run_append_ne_cons {p : Char → Bool} {xs : List Char} {d : Char} (hx : ∀ c ∈ xs, p c)
    (hne : xs ≠ []) (hd : p d = false) (r s : List Char) : xs ++ r ≠ d :: s := by
  obtain ⟨c, cs, rfl⟩ := List.exists_cons_of_ne_nil hne
  intro h
  have hc := hx c List.mem_cons_self
  rw [(List.cons.inj h).1, hd] at hc
  cases hc

section Separated

variable {α β : Type} (separator : String) (f : α → String) (g : α → β)
  (Stop End : List Char → Prop) {xs ys : List α} {r s : List Char}

/-- The items of a list that is not at its start, each behind a separator. -/
def separated (xs : List α) : List Char :=
  xs.flatMap fun x => separator.toList ++ (f x).toList

lemma toList_intercalate_cons (x : α) (xs : List α) :
    (separator.intercalate ((x :: xs).map f)).toList = (f x).toList ++ separated separator f xs := by
  induction xs generalizing x with
  | nil => simp [separated]
  | cons y xs ih =>
    rw [List.map_cons, List.map_cons, String.intercalate_cons_cons, String.toList_append,
      String.toList_append, ← List.map_cons, ih, List.append_assoc]
    simp [separated]

lemma stop_separated (hsep : ∀ t, Stop (separator.toList ++ t)) (xs : List α) (hr : Stop r) :
    Stop (separated separator f xs ++ r) := by
  cases xs with
  | nil => exact hr
  | cons x xs =>
    simp only [separated, List.flatMap_cons, List.append_assoc]
    exact hsep _

lemma separated_append_inj
    (hitem : ∀ x ∈ xs, ∀ y ∈ ys, ∀ r s, Stop r → Stop s →
      (f x).toList ++ r = (f y).toList ++ s → g x = g y ∧ r = s)
    (hsep : ∀ t, Stop (separator.toList ++ t))
    (hend : ∀ r, End r → Stop r ∧ ∀ t, r ≠ separator.toList ++ t) (hr : End r) (hs : End s)
    (h : separated separator f xs ++ r = separated separator f ys ++ s) :
    xs.map g = ys.map g ∧ r = s := by
  induction xs generalizing ys with
  | nil =>
    cases ys with
    | nil => exact ⟨rfl, h⟩
    | cons y ys =>
      simp only [separated, List.flatMap_cons, List.append_assoc] at h
      exact absurd h ((hend r hr).2 _)
  | cons x xs ih =>
    cases ys with
    | nil =>
      simp only [separated, List.flatMap_cons, List.append_assoc] at h
      exact absurd h.symm ((hend s hs).2 _)
    | cons y ys =>
      simp only [separated, List.flatMap_cons, List.append_assoc] at h
      obtain ⟨hxy, hrest⟩ := hitem x List.mem_cons_self y List.mem_cons_self _ _
        (stop_separated separator f Stop hsep xs (hend r hr).1)
        (stop_separated separator f Stop hsep ys (hend s hs).1) (List.append_cancel_left h)
      obtain ⟨hxs, hrs⟩ := ih (fun x hx y hy => hitem x (List.mem_cons_of_mem _ hx) y
        (List.mem_cons_of_mem _ hy)) hrest
      exact ⟨by rw [List.map_cons, List.map_cons, hxy, hxs], hrs⟩

/-- The items of a list are read back if each of them is, where a separator or the end follows, and
the end is told from a separator and from an item. -/
lemma intercalate_append_inj
    (hitem : ∀ x ∈ xs, ∀ y ∈ ys, ∀ r s, Stop r → Stop s →
      (f x).toList ++ r = (f y).toList ++ s → g x = g y ∧ r = s)
    (hsep : ∀ t, Stop (separator.toList ++ t))
    (hend : ∀ r, End r → Stop r ∧ ∀ t, r ≠ separator.toList ++ t)
    (hfirst : ∀ r, End r → ∀ x t, r ≠ (f x).toList ++ t) (hr : End r) (hs : End s)
    (h : (separator.intercalate (xs.map f)).toList ++ r =
      (separator.intercalate (ys.map f)).toList ++ s) :
    xs.map g = ys.map g ∧ r = s := by
  cases xs with
  | nil =>
    cases ys with
    | nil => exact ⟨rfl, by simpa using h⟩
    | cons y ys =>
      rw [toList_intercalate_cons, List.append_assoc] at h
      exact absurd (by simpa using h) (hfirst r hr y _)
  | cons x xs =>
    cases ys with
    | nil =>
      rw [toList_intercalate_cons, List.append_assoc] at h
      exact absurd (by simpa using h.symm) (hfirst s hs x _)
    | cons y ys =>
      rw [toList_intercalate_cons, toList_intercalate_cons, List.append_assoc,
        List.append_assoc] at h
      obtain ⟨hxy, hrest⟩ := hitem x List.mem_cons_self y List.mem_cons_self _ _
        (stop_separated separator f Stop hsep xs (hend r hr).1)
        (stop_separated separator f Stop hsep ys (hend s hs).1) h
      obtain ⟨hxs, hrs⟩ := separated_append_inj separator f g Stop End
        (fun x hx y hy => hitem x (List.mem_cons_of_mem _ hx) y (List.mem_cons_of_mem _ hy)) hsep
        hend hr hs hrest
      exact ⟨by rw [List.map_cons, List.map_cons, hxy, hxs], hrs⟩

end Separated
end FacetSearch.Text
