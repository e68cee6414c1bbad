import FacetSearch.Proofs.Sql.Order
import FacetSearch.Proofs.Sql.Tree

/-! A statement can be read in one way only: two queries with the same text differ in nothing but
what no text shows. -/
namespace FacetSearch.Sql

/-- What a statement says of the rows it selects. -/
def restriction (ps : List Predicate) : String :=
  if ps.isEmpty then "" else " where " ++ predicates ps

@[simp] lemma restriction_nil : restriction [] = "" := rfl

@[simp] lemma restriction_cons (p : Predicate) (ps : List Predicate) :
    restriction (p :: ps) = " where " ++ predicates (p :: ps) := rfl

/-- What a statement says of the order of its rows. -/
def order (ts : List SortTerm) : String :=
  if ts.isEmpty then "" else " order by " ++ ", ".intercalate (ts.map sortTerm)

@[simp] lemma order_nil : order [] = "" := rfl

@[simp] lemma order_cons (t : SortTerm) (ts : List SortTerm) :
    order (t :: ts) = " order by " ++ ", ".intercalate ((t :: ts).map sortTerm) := rfl

lemma render_eq (table : String) (q : Query) :
    render table q = "select " ++ columns q.projection ++ " from " ++ identifier table ++
      restriction q.predicates ++ order q.sort := rfl

lemma columns_append_inj {names names' : Option (List String)} {r s : List Char}
    (h : (columns names).toList ++ (" from ".toList ++ r) =
      (columns names').toList ++ (" from ".toList ++ s)) : names = names' ∧ r = s := by
  cases names with
  | none =>
    cases names' with
    | none => exact ⟨rfl, by simpa [columns] using h⟩
    | some bs => cases bs <;> simp [columns, toList_identifier] at h
  | some as =>
    cases names' with
    | none => cases as <;> simp [columns, toList_identifier] at h
    | some bs =>
      have hinj := Text.intercalate_append_inj ", " identifier id Stops
        (fun r => ∃ t, r = " from ".toList ++ t)
        (fun _ _ _ _ _ _ hr hs hab => identifier_append_inj hr hs hab) (fun t => by simp [Stops])
        (by rintro _ ⟨t, rfl⟩; exact ⟨by simp [Stops], by simp⟩)
        (by rintro _ ⟨t, rfl⟩ x u hx; simp [toList_identifier] at hx) ⟨r, rfl⟩ ⟨s, rfl⟩ h
      exact ⟨by simpa using hinj.1, List.append_cancel_left hinj.2⟩

lemma restriction_append_inj {ps qs : List Predicate} {r s : List Char} (hr : EndsList r)
    (hs : EndsList s) (h : (restriction ps).toList ++ r = (restriction qs).toList ++ s) :
    Predicate.shownAll ps = Predicate.shownAll qs ∧ r = s := by
  have hwhere {t u : List Char} (ht : EndsList t) : t ≠ " where ".toList ++ u := by
    rcases ht with rfl | ⟨v, rfl⟩ | ⟨v, rfl⟩ <;> simp
  cases ps with
  | nil =>
    cases qs with
    | nil => exact ⟨rfl, by simpa using h⟩
    | cons q qs =>
      rw [restriction_cons, String.toList_append, List.append_assoc] at h
      exact absurd h (hwhere hr)
  | cons p ps =>
    cases qs with
    | nil =>
      rw [restriction_cons, String.toList_append, List.append_assoc] at h
      exact absurd h.symm (hwhere hs)
    | cons q qs =>
      rw [restriction_cons, restriction_cons, String.toList_append, String.toList_append,
        List.append_assoc, List.append_assoc] at h
      exact predicates_append_inj (p :: ps) (q :: qs) hr hs (List.append_cancel_left h)

lemma endsList_order (ts : List SortTerm) : EndsList (order ts).toList := by
  cases ts with
  | nil => exact .inl rfl
  | cons t ts =>
    refine .inr (.inr ⟨(", ".intercalate ((t :: ts).map sortTerm)).toList, ?_⟩)
    rw [order_cons, String.toList_append]

lemma sortTerm_ne_nil (t : SortTerm) : (sortTerm t).toList ≠ [] := by
  unfold sortTerm
  split
  · simp
  · split <;> simp

lemma order_inj {ts us : List SortTerm} (ht : ∀ t ∈ ts, t.IsLegible) (hu : ∀ u ∈ us, u.IsLegible)
    (h : (order ts).toList = (order us).toList) : ts.map SortTerm.shown = us.map SortTerm.shown := by
  cases ts with
  | nil =>
    cases us with
    | nil => rfl
    | cons u us => simp at h
  | cons t ts =>
    cases us with
    | nil => simp at h
    | cons u us =>
      have hterms : (", ".intercalate ((t :: ts).map sortTerm)).toList ++ [] =
          (", ".intercalate ((u :: us).map sortTerm)).toList ++ [] := by
        simpa only [order_cons, String.toList_append, List.append_cancel_left_eq,
          List.append_nil] using h
      exact (Text.intercalate_append_inj ", " sortTerm SortTerm.shown (fun _ => True) (· = [])
        (fun t hmem u hmem' _ _ _ _ htu => sortTerm_append_inj (ht t hmem) (hu u hmem') htu)
        (fun _ => trivial) (by rintro _ rfl; simp)
        (by rintro _ rfl x t hx; exact sortTerm_ne_nil x (List.append_eq_nil_iff.1 hx.symm).1)
        rfl rfl hterms).1

lemma order_map_shown (ts : List SortTerm) : order (ts.map SortTerm.shown) = order ts := by
  simp [order, Function.comp_def, sortTerm_shown]

lemma restriction_shownAll (ps : List Predicate) :
    restriction (Predicate.shownAll ps) = restriction ps := by
  simp [restriction, predicates_shownAll]

/-- Two statements are the same text exactly if they select the same columns from the same table and
show the same predicates and the same order. The columns of sort conditions have to be names and
what they call numbers has to be one: these are the parts that stand without quotes. -/
theorem render_eq_render_iff {table table' : String} {q q' : Query}
    (hq : ∀ t ∈ q.sort, t.IsLegible) (hq' : ∀ t ∈ q'.sort, t.IsLegible) :
    render table q = render table' q' ↔
      table = table' ∧ q.projection = q'.projection ∧
      q.sort.map SortTerm.shown = q'.sort.map SortTerm.shown ∧
      Predicate.shownAll q.predicates = Predicate.shownAll q'.predicates := by
  constructor
  · intro h
    rw [← String.toList_inj] at h
    simp only [render_eq, String.toList_append, List.append_assoc] at h
    obtain ⟨hcolumns, htable⟩ := columns_append_inj (List.append_cancel_left h)
    have hstops (q : Query) : Stops ((restriction q.predicates).toList ++ (order q.sort).toList) := by
      unfold restriction
      split
      · simpa using (endsList_order q.sort).stops
      · simp [Stops]
    obtain ⟨htable, hrest⟩ := identifier_append_inj (hstops q) (hstops q') htable
    obtain ⟨hpredicates, horder⟩ := restriction_append_inj (endsList_order q.sort)
      (endsList_order q'.sort) hrest
    exact ⟨htable, hcolumns, order_inj hq hq' horder, hpredicates⟩
  · rintro ⟨rfl, hcolumns, hsort, hpredicates⟩
    rw [render_eq, render_eq, hcolumns, ← order_map_shown q.sort, hsort, order_map_shown,
      ← restriction_shownAll q.predicates, hpredicates, restriction_shownAll]

/-- The mark of a term with a condition is not shown; one column is told from two columns whatever
it is called. -/
theorem render_one_column_or_two :
    render "t" { projection := some ["a\", \"b"]
                 sort := [⟨"c", .asc, some ⟨.lt, .numeric "1.5"⟩, true⟩] } =
        render "t" { projection := some ["a\", \"b"]
                     sort := [⟨"c", .asc, some ⟨.lt, .numeric "1.5"⟩, false⟩] } ∧
      render "t" { projection := some ["a\", \"b"]
                   sort := [⟨"c", .asc, some ⟨.lt, .numeric "1.5"⟩, true⟩] } ≠
        render "t" { projection := some ["a", "b"]
                     sort := [⟨"c", .asc, some ⟨.lt, .numeric "1.5"⟩, false⟩] } := by
  constructor
  · exact (render_eq_render_iff (by decide) (by decide)).2 ⟨rfl, rfl, rfl, rfl⟩
  · intro h
    exact absurd ((render_eq_render_iff (by decide) (by decide)).1 h).2.1 (by decide)

end FacetSearch.Sql
