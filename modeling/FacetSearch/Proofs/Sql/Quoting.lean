import FacetSearch.Proofs.Sort.Legible
import FacetSearch.Proofs.Sql.Quiet

/-! What of a query's text is outside quotes. Queries that differ only in names and texts are shown
with the same text outside, and none of that text ends the statement or starts a comment. -/
namespace FacetSearch

/-! ## Queries without their contents -/

def Value.blank : Value → Value
  | .integer n => .integer n
  | .text _ => .text ""

/-- A test without the texts that it compares with. -/
def Test.blank : Test → Test
  | .comparison op v negated => .comparison op v.blank negated
  | .range low high negated => .range low high negated
  | .inList vs negated => .inList (vs.map fun _ => "") negated
  | .isNull negated => .isNull negated
  | .arrayContains _ => .arrayContains []

mutual
/-- A predicate without its attributes and texts. -/
def Predicate.blank : Predicate → Predicate
  | .leaf k _ t => .leaf k "" t.blank
  | .group k negated children => .group k negated (Predicate.blankAll children)

def Predicate.blankAll : List Predicate → List Predicate
  | [] => []
  | p :: ps => p.blank :: Predicate.blankAll ps
end

def Literal.blank : Literal → Literal
  | .numeric s => .numeric s
  | .text _ => .text ""

/-- A sort term without what it shows in quotes: a column that has no condition, or the text in one.
-/
def SortTerm.blank (t : SortTerm) : SortTerm :=
  match t.condition with
  | none => { t with column := "" }
  | some c => { t with condition := some { c with value := c.value.blank } }

/-- A query without the contents of its names and texts, but for the columns of conditions. -/
def Query.blank (q : Query) : Query where
  predicates := Predicate.blankAll q.predicates
  sort := q.sort.map SortTerm.blank
  projection := q.projection.map fun names => names.map fun _ => ""

namespace Sql

/-- Two closed texts with the same plain text outside of quotes. -/
def Alike (s t : String) : Prop := ∃ b, isQuiet b ∧ Closed s.toList b ∧ Closed t.toList b

lemma Alike.append {s t s' t' : String} (h : Alike s t) (h' : Alike s' t') :
    Alike (s ++ s') (t ++ t') := by
  obtain ⟨b, hb, hs, ht⟩ := h
  obtain ⟨b', hb', hs', ht'⟩ := h'
  refine ⟨b ++ b', isQuiet_append hb hb', ?_, ?_⟩
  · rw [String.toList_append]
    exact hs.append hs'
  · rw [String.toList_append]
    exact ht.append ht'

lemma alike_plain {s : String} (h : IsPlain s.toList) : Alike s s :=
  ⟨s.toList, h.1, Closed.of_not_mark h.2, Closed.of_not_mark h.2⟩

lemma Alike.append_plain {s t : String} (h : Alike s t) (u : String)
    (hu : IsPlain u.toList := by decide) : Alike (s ++ u) (t ++ u) := h.append (alike_plain hu)

lemma Alike.plain_append {s t : String} (h : Alike s t) (u : String)
    (hu : IsPlain u.toList := by decide) : Alike (u ++ s) (u ++ t) := (alike_plain hu).append h

lemma alike_enclosed (m : Mark) (s t : String) : Alike (enclosed m.char s) (enclosed m.char t) :=
  ⟨[], rfl, Closed.enclosed m s, Closed.enclosed m t⟩

lemma alike_identifier (s t : String) : Alike (identifier s) (identifier t) :=
  alike_enclosed .name s t

lemma alike_string (s t : String) : Alike (string s) (string t) :=
  alike_enclosed .text s t

/-- Lists with the same items up to what is blanked out are alike if their items are. -/
lemma alike_intercalate {α β : Type} (separator : String) (hsep : IsPlain separator.toList)
    {f : α → String} {g : α → β} {xs ys : List α}
    (hitem : ∀ x ∈ xs, ∀ y ∈ ys, g x = g y → Alike (f x) (f y)) (h : xs.map g = ys.map g) :
    Alike (separator.intercalate (xs.map f)) (separator.intercalate (ys.map f)) := by
  induction xs generalizing ys with
  | nil =>
    obtain rfl : ys = [] := List.map_eq_nil_iff.1 h.symm
    rw [List.map_nil, String.intercalate_nil]
    exact alike_plain (by decide)
  | cons x xs ih =>
    obtain ⟨y, ys, rfl, hxy, hrest⟩ := List.map_eq_cons_iff.1 h.symm
    have hfirst := hitem x List.mem_cons_self y List.mem_cons_self hxy.symm
    have hlater := ih (fun x hx y hy => hitem x (List.mem_cons_of_mem _ hx) y
      (List.mem_cons_of_mem _ hy)) hrest.symm
    cases xs with
    | nil =>
      obtain rfl : ys = [] := List.map_eq_nil_iff.1 hrest
      simpa using hfirst
    | cons x' xs =>
      obtain ⟨y', ys, rfl, -, -⟩ := List.map_eq_cons_iff.1 hrest
      rw [List.map_cons, List.map_cons, String.intercalate_cons_cons, List.map_cons, List.map_cons,
        String.intercalate_cons_cons]
      exact (hfirst.append (alike_plain hsep)).append hlater

/-! ## The parts of a query -/

lemma isPlain_int (n : Int) : IsPlain (toString n).toList := by
  have hdigits (m : ℕ) : IsPlain (Nat.toDigits 10 m) :=
    isPlain_of_isDigit fun c hc => Text.isDigit_of_mem_toDigits hc
  rw [Text.toList_toString_int]
  split
  · exact hdigits _
  · have hsign : Text.Decimal.IsSign ['-'] := .inr (.inr rfl)
    apply IsPlain.signed hsign (hdigits _)
    obtain ⟨d, ds, hd⟩ := List.exists_cons_of_ne_nil (Nat.toDigits_ne_nil (n := (-n).toNat))
    have hdigit : d.isDigit := Text.isDigit_of_mem_toDigits (hd ▸ List.mem_cons_self)
    have hne : d ≠ '-' := by
      rintro rfl
      exact absurd hdigit (by decide)
    simp [hd, hne]

lemma alike_value {v w : Value} (h : v.blank = w.blank) : Alike (value v) (value w) := by
  cases v with
  | integer n =>
    cases w with
    | integer m =>
      cases h
      exact alike_plain (isPlain_int _)
    | text s => cases h
  | text s =>
    cases w with
    | integer m => cases h
    | text t => exact alike_string s t

lemma isPlain_symbol (op : Operator) : IsPlain op.symbol.toList := by
  cases op <;> decide

lemma isPlain_not (negated : Bool) : IsPlain (not negated).toList := by
  cases negated <;> decide

/-- Tests of any two attributes are alike if they compare with the same kinds of values. -/
lemma alike_test (a b : String) {t u : Test} (h : t.blank = u.blank) :
    Alike (test a t) (test b u) := by
  have hname := alike_identifier a b
  cases t with
  | comparison op v negated =>
    cases u <;> simp only [Test.blank, Test.comparison.injEq, reduceCtorEq] at h
    obtain ⟨rfl, hv, -⟩ := h
    have hop := (hname.append_plain " ").append_plain op.symbol (isPlain_symbol op)
    exact (hop.append_plain " ").append (alike_value hv)
  | range low high negated =>
    cases u <;> simp only [Test.blank, Test.range.injEq, reduceCtorEq] at h
    obtain ⟨rfl, rfl, rfl⟩ := h
    have hnot := (hname.append_plain " ").append_plain (not negated) (isPlain_not negated)
    have hlow := (hnot.append_plain "between ").append_plain _ (isPlain_int low.toInt)
    exact (hlow.append_plain " and ").append_plain _ (isPlain_int high.toInt)
  | inList vs negated =>
    cases u <;> simp only [Test.blank, Test.inList.injEq, reduceCtorEq] at h
    obtain ⟨hvs, rfl⟩ := h
    have hnot := (hname.append_plain " ").append_plain (not negated) (isPlain_not negated)
    have hitems := alike_intercalate ", " (by decide)
      (fun v _ w _ _ => alike_string v w) hvs
    exact ((hnot.append_plain "in (").append hitems).append_plain ")"
  | isNull negated =>
    cases u <;> simp only [Test.blank, Test.isNull.injEq, reduceCtorEq] at h
    obtain rfl := h
    have hnot := (hname.append_plain " is ").append_plain (not negated) (isPlain_not negated)
    exact hnot.append_plain "null"
  | arrayContains vs =>
    cases u <;> simp only [Test.blank, reduceCtorEq] at h
    exact (hname.append_plain " @> ").append (alike_string _ _)

lemma isPlain_junction (k : Option Connective) : IsPlain (junction k).toList := by
  rcases k with _ | _ | _ <;> decide

lemma connective_blank (p : Predicate) : p.blank.connective = p.connective := by
  cases p <;> rw [Predicate.blank] <;> rfl

mutual
lemma alike_predicate : ∀ {p q : Predicate}, p.blank = q.blank → Alike (predicate p) (predicate q)
  | .leaf k a t, q, h => by
    cases q with
    | leaf k' b u =>
      simp only [Predicate.blank, Predicate.leaf.injEq] at h
      exact alike_test a b h.2.2
    | group => simp [Predicate.blank] at h
  | .group k negated ps, q, h => by
    cases q with
    | leaf => simp [Predicate.blank] at h
    | group k' negated' qs =>
      simp only [Predicate.blank, Predicate.group.injEq] at h
      obtain ⟨-, rfl, hchildren⟩ := h
      have hopening : IsPlain (not negated ++ "(").toList := by
        rw [String.toList_append]
        exact (isPlain_not negated).append (by decide)
      exact ((alike_predicates hchildren).plain_append _ hopening).append_plain ")"

lemma alike_predicates :
    ∀ {ps qs : List Predicate}, Predicate.blankAll ps = Predicate.blankAll qs →
      Alike (predicates ps) (predicates qs)
  | [], qs, h => by
    cases qs with
    | nil => exact alike_plain (by decide)
    | cons q qs => cases h
  | p :: ps, qs, h => by
    cases qs with
    | nil => cases h
    | cons q qs =>
      obtain ⟨hp, hps⟩ := List.cons.inj h
      exact (alike_predicate hp).append (alike_continued hps)

lemma alike_continued :
    ∀ {ps qs : List Predicate}, Predicate.blankAll ps = Predicate.blankAll qs →
      Alike (continued ps) (continued qs)
  | [], qs, h => by
    cases qs with
    | nil => exact alike_plain (by decide)
    | cons q qs => cases h
  | p :: ps, qs, h => by
    cases qs with
    | nil => cases h
    | cons q qs =>
      obtain ⟨hp, hps⟩ := List.cons.inj h
      have hk : p.connective = q.connective := by
        rw [← connective_blank p, hp, connective_blank]
      rw [continued, continued, hk]
      exact ((alike_predicate hp).plain_append _ (isPlain_junction _)).append (alike_continued hps)
end

lemma isPlain_column {s : String} (h : isAttributeName s) : IsPlain s.toList := by
  apply isPlain_of_isCalm
  intro c hc
  have hname := isNameChar_of_isAttributeName h c hc
  simp only [isCalm, Bool.and_eq_true, bne_iff_ne]
  refine ⟨⟨⟨⟨?_, ?_⟩, ?_⟩, ?_⟩, ?_⟩ <;> (rintro rfl; exact absurd hname (by decide))

lemma alike_literal {v w : Literal} (hv : ∀ s, v = .numeric s → Text.isFiniteDecimal s.toList)
    (h : v.blank = w.blank) : Alike (literal v) (literal w) := by
  cases v with
  | numeric s =>
    cases w with
    | numeric t =>
      cases h
      exact alike_plain (isPlain_of_isFiniteDecimal (hv s rfl))
    | text t => cases h
  | text s =>
    cases w with
    | numeric t => cases h
    | text t => exact alike_string s t

lemma isPlain_keyword (d : Direction) : IsPlain d.keyword.toList := by
  cases d <;> decide

/-- The column of a condition and its number are the only parts of a term that are outside quotes.
-/
lemma alike_sortTerm {t u : SortTerm} (ht : t.IsLegible) (h : t.blank = u.blank) :
    Alike (sortTerm t) (sortTerm u) := by
  obtain ⟨column, direction, condition, nullsLast⟩ := t
  obtain ⟨column', direction', condition', nullsLast'⟩ := u
  have hdirection := isPlain_keyword direction
  cases condition with
  | some c =>
    cases condition' <;> simp only [SortTerm.blank, SortTerm.mk.injEq, Option.some.injEq,
      SortCondition.mk.injEq, reduceCtorEq, false_and, and_false] at h
    next c' =>
    obtain ⟨rfl, rfl, ⟨hop, hvalue⟩, -⟩ := h
    obtain ⟨hcolumn, hnumber⟩ := ht c rfl
    have hliteral := alike_literal hnumber hvalue
    have hopening : IsPlain ("case when(" ++ column ++ c.operator.symbol).toList := by
      rw [String.toList_append, String.toList_append]
      exact (IsPlain.append (by decide) (isPlain_column hcolumn)).append (isPlain_symbol _)
    have hterm := ((hliteral.plain_append _ hopening).append_plain
      ") then 1 else 0 end ").append_plain direction.keyword hdirection
    simpa only [sortTerm, hop] using hterm
  | none =>
    cases condition' <;> simp only [SortTerm.blank, SortTerm.mk.injEq, reduceCtorEq, false_and,
      and_false] at h
    obtain ⟨-, rfl, -, rfl⟩ := h
    have hcolumn := alike_identifier column column'
    have hlast := (hcolumn.append_plain " ").append_plain direction.keyword hdirection
    cases nullsLast with
    | false => exact hlast
    | true =>
      have hcase := ((hcolumn.plain_append "case when(").append_plain " is null or ").append hcolumn
      have hasc := hcase.append_plain " = 0) then 1 else 0 end asc, "
      have hterm := ((hasc.append hcolumn).append_plain " ").append_plain direction.keyword hdirection
      exact hterm

lemma alike_columns {names names' : Option (List String)}
    (h : (names.map fun ns => ns.map fun _ => "") = names'.map fun ns => ns.map fun _ => "") :
    Alike (columns names) (columns names') := by
  cases names with
  | none =>
    cases names' with
    | none => exact alike_plain (by decide)
    | some ns' => cases h
  | some ns =>
    cases names' with
    | none => cases h
    | some ns' =>
      have hns : (ns.map fun _ => "") = ns'.map fun _ => "" := Option.some.inj h
      exact alike_intercalate ", " (by decide) (fun n _ n' _ _ => alike_identifier n n') hns

/-- The texts of two queries that differ in contents only. -/
lemma alike_render {q q' : Query} (hq : ∀ t ∈ q.sort, t.IsLegible) (h : q.blank = q'.blank)
    (table table' : String) : Alike (render table q) (render table' q') := by
  simp only [Query.blank, Query.mk.injEq] at h
  obtain ⟨hpredicates, hsort, hprojection⟩ := h
  have hfrom := (((alike_columns hprojection).plain_append "select ").append_plain
    " from ").append (alike_identifier table table')
  have hwhere : Alike
      (if q.predicates.isEmpty then "" else " where " ++ predicates q.predicates)
      (if q'.predicates.isEmpty then "" else " where " ++ predicates q'.predicates) := by
    have halike := alike_predicates hpredicates
    cases hp : q.predicates <;> cases hp' : q'.predicates <;> rw [hp, hp'] at hpredicates halike
    · exact alike_plain (by decide)
    · cases hpredicates
    · cases hpredicates
    · exact halike.plain_append " where "
  have horder : Alike
      (if q.sort.isEmpty then "" else " order by " ++ ", ".intercalate (q.sort.map sortTerm))
      (if q'.sort.isEmpty then "" else " order by " ++ ", ".intercalate (q'.sort.map sortTerm)) := by
    have halike := alike_intercalate ", " (by decide)
      (fun t ht u _ htu => alike_sortTerm (hq t ht) htu) hsort
    cases hs : q.sort <;> cases hs' : q'.sort <;> rw [hs, hs'] at hsort halike
    · exact alike_plain (by decide)
    · cases hsort
    · cases hsort
    · exact halike.plain_append " order by "
  exact (hfrom.append hwhere).append horder

/-- No text of a request leaves its quotes. A reader of a compiled query's SQL ends outside all
quotes, what is outside of them neither ends the statement nor starts a comment, and another query
that differs in the contents of names and texts only is shown with the same text outside. What the
request puts there itself are the columns of conditions, which are names, and numbers. -/
theorem render_quoted {p : Policy} {mode : Mode} {r : Request} {q : Query}
    (h : Query.compile p mode r = .ok q) (table : String) :
    let outside := Region.outside.bare (render table q).toList
    (Region.outside.after (render table q).toList).isClosed ∧
    (';' ∉ outside ∧ ¬ ['-', '-'] <:+: outside ∧ ¬ ['/', '*'] <:+: outside) ∧
    (∀ table' q', q.blank = q'.blank →
      outside = Region.outside.bare (render table' q').toList) ∧
    ∀ t ∈ q.sort, ∀ c, t.condition = some c →
      (∀ a ∈ t.column.toList, Unicode.isAlphanumeric a ∨ a = '_') ∧
      ∀ s, c.value = .numeric s → ∀ a ∈ s.toList, a.isDigit ∨ a ∈ ['+', '-', '.', 'e', 'E'] := by
  intro outside
  have hlegible := Query.isLegible_of_compile h
  obtain ⟨b, hb, hs, -⟩ := alike_render hlegible rfl table table
  obtain ⟨hclosed, hbare⟩ := hs .outside rfl
  have hquiet : isQuiet outside := by
    change isQuiet (Region.outside.bare _)
    rwa [hbare]
  have hsame (table' : String) (q' : Query) (hq' : q.blank = q'.blank) :
      outside = Region.outside.bare (render table' q').toList := by
    obtain ⟨b', -, hs', ht'⟩ := alike_render hlegible hq' table table'
    exact (hs' .outside rfl).2.trans (ht' .outside rfl).2.symm
  refine ⟨hclosed, ⟨(not_mem_of_isQuiet hquiet).1, not_infix_dashes_of_isQuiet hquiet,
    not_infix_comment_of_isQuiet hquiet⟩, hsame, ?_⟩
  intro t ht c hc
  obtain ⟨hcolumn, hnumber⟩ := hlegible t ht c hc
  constructor
  · intro a ha
    simpa [isNameChar] using isNameChar_of_isAttributeName hcolumn a ha
  · intro s hs a ha
    obtain ⟨f⟩ := Text.Decimal.nonempty_form (hnumber s hs)
    simpa [Text.Decimal.isNumeralChar] using Text.Decimal.isNumeralChar_of_form f a ha

/-- A value and a table name that try to end their regions stay inside. -/
theorem render_quoted_hostile :
    ∃ q, Query.compile { isFilterable := fun _ => true } .strict
        { filters := some "a:\"x'; drop --\"", sortBy := some "b<-1.5,asc" } = .ok q ∧
      (Region.outside.after (render "t\"" q).toList).isClosed ∧
      ';' ∉ Region.outside.bare (render "t\"" q).toList := by
  have h : Query.compile { isFilterable := fun _ => true } .strict
      { filters := some "a:\"x'; drop --\"", sortBy := some "b<-1.5,asc" } = .ok {
        predicates := [.leaf none "a" (.comparison .eq (.text "x'; drop --") false)]
        sort := [⟨"b", .asc, some ⟨.lt, .numeric "-1.5"⟩, false⟩] } := by
    decide +kernel
  exact ⟨_, h, (render_quoted h "t\"").1, (render_quoted h "t\"").2.1.1⟩

end Sql
end FacetSearch
