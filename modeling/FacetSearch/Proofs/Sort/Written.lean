import FacetSearch.Proofs.AllowList.Mentions
import FacetSearch.Proofs.Text.Letters
import FacetSearch.Proofs.Text.Trim

/-! Sort expressions read back from the terms that they are written with. A value may hold the commas
and operators that terms are cut at, and blank parts between the bars make no difference. -/
namespace FacetSearch
open Text Unicode

namespace SortCondition

/-- A condition as it is meant to be written behind a column. -/
structure Written where
  operator : Operator
  value : String
  mem_sorting : operator ∈ Operator.sorting
  bar_notMem : '|' ∉ value.toList
  head_ne : value.toList.head? ≠ some '='
  not_isBlank : ∀ c ∈ value.toList.getLast?, ¬isBlank c

namespace Written

def text (w : Written) : String := w.operator.symbol ++ w.value

def condition (w : Written) : SortCondition := ⟨w.operator, .ofText w.value.toList⟩

lemma trimmed_text (w : Written) : Trimmed w.text.toList := by
  have hsymbol : w.operator.symbol.toList ≠ [] ∧ w.operator.symbol.toList.all (!isBlank ·) := by
    cases w.operator <;> decide
  rw [text, String.toList_append]
  exact Trimmed.append (.of_forall (by simpa using hsymbol.2)) hsymbol.1 w.not_isBlank

/-- A condition ends the column before it. -/
lemma not_isNameChar_of_mem_head? (w : Written) : ∀ c ∈ w.text.toList.head?, ¬isNameChar c := by
  rw [text, String.toList_append]
  cases w.operator <;> rintro c ⟨⟩ <;> decide +kernel

lemma bar_notMem_text (w : Written) : '|' ∉ w.text.toList := by
  have hsymbol : '|' ∉ w.operator.symbol.toList := by
    cases w.operator <;> decide
  rw [text, String.toList_append, List.mem_append, not_or]
  exact ⟨hsymbol, w.bar_notMem⟩

lemma ofText?_text (w : Written) : ofText? w.text.toList = some (some w.condition) := by
  have hvalue (op : Operator) : ofText?.condition op w.value.toList =
      some (some ⟨op, .ofText w.value.toList⟩) := if_neg w.head_ne
  rw [text, String.toList_append, condition]
  have hop := w.mem_sorting
  generalize w.operator = op at hop ⊢
  cases op with
  | eq => exact hvalue .eq
  | ne => exact hvalue .ne
  | lt => exact hvalue .lt
  | gt => exact hvalue .gt
  | le => exact absurd hop (by decide)
  | ge => exact absurd hop (by decide)

end Written
end SortCondition

namespace SortTerm

/-- A term as it is meant to be written: a column, perhaps a condition, and a direction in any case
of its letters. -/
structure Written where
  column : String
  condition : Option SortCondition.Written
  direction : Direction
  keyword : String
  isAttributeName : isAttributeName column
  isKeyword : equalsIgnoringCase keyword.toList direction.keyword.toList

namespace Written

def body (w : Written) : String := w.column ++ w.condition.elim "" (·.text)

def text (w : Written) : String := w.body ++ "," ++ w.keyword

/-- The term that is read, before anything is known of its column. -/
def bare (w : Written) : SortTerm :=
  { column := w.column, direction := w.direction, condition := w.condition.map (·.condition) }

/-- The term that is asked for. -/
def term (p : Policy) (w : Written) : SortTerm :=
  { w.bare with nullsLast := w.condition.isNone && p.isBucketSorted w.column }

variable (w : Written)

lemma marked_bare (p : Policy) : marked p w.bare = w.term p := by
  rw [marked, term, bare, Option.isNone_map]

lemma column_ne_nil : w.column.toList ≠ [] :=
  String.toList_eq_nil_iff.not.2 (isAttributeName_iff.1 w.isAttributeName).1

lemma isNameChar_of_mem_column : ∀ c ∈ w.column.toList, isNameChar c :=
  (isAttributeName_iff.1 w.isAttributeName).2

section Keyword

lemma isAlpha_of_mem_keyword : ∀ c ∈ w.keyword.toList, c.isAlpha := by
  apply isAlpha_of_equalsIgnoringCase w.isKeyword
  cases w.direction <;> exact List.all_eq_true.1 (by decide)

lemma notMem_keyword {c : Char} (hc : c.isAlpha = false) : c ∉ w.keyword.toList := by
  intro h
  rw [w.isAlpha_of_mem_keyword c h] at hc
  cases hc

lemma trimmed_keyword : Trimmed w.keyword.toList := by
  apply Trimmed.of_forall
  intro c hc
  apply not_isBlank_of_isNameChar
  exact isNameChar_of_isAlpha (w.isAlpha_of_mem_keyword c hc)

lemma ofText?_keyword : Direction.ofText? w.keyword.toList = some w.direction := by
  have h := w.isKeyword
  cases hd : w.direction with
  | asc =>
    rw [hd] at h
    exact if_pos h
  | desc =>
    rw [hd] at h
    have hasc : ¬equalsIgnoringCase w.keyword.toList ['a', 's', 'c'] := by
      rw [equalsIgnoringCase_congr h]
      decide
    rw [Direction.ofText?, if_neg hasc]
    exact if_pos h

end Keyword

section Body

lemma trimmed_column : Trimmed w.column.toList :=
  .of_forall fun c hc => not_isBlank_of_isNameChar (w.isNameChar_of_mem_column c hc)

lemma trimmed_body : Trimmed w.body.toList := by
  rw [body, String.toList_append]
  apply w.trimmed_column.append w.column_ne_nil
  cases w.condition with
  | none => rintro c ⟨⟩
  | some condition => exact condition.trimmed_text.2

lemma body_ne_nil : w.body.toList ≠ [] := by
  rw [body, String.toList_append]
  exact List.append_ne_nil_of_left_ne_nil w.column_ne_nil _

lemma bar_notMem_body : '|' ∉ w.body.toList := by
  rw [body, String.toList_append, List.mem_append, not_or]
  constructor
  · intro h
    exact absurd (w.isNameChar_of_mem_column _ h) (by decide +kernel)
  · cases w.condition with
    | none => exact List.not_mem_nil
    | some condition => exact condition.bar_notMem_text

lemma ofBody?_body : ofBody? w.direction w.body.toList = some w.bare := by
  have hend : ∀ c ∈ (w.condition.elim "" (·.text)).toList.head?, ¬isNameChar c := by
    cases w.condition with
    | none => rintro c ⟨⟩
    | some condition => exact condition.not_isNameChar_of_mem_head?
  have hcondition : SortCondition.ofText? (w.condition.elim "" (·.text)).toList =
      some (w.condition.map (·.condition)) := by
    cases w.condition with
    | none => rfl
    | some condition => exact condition.ofText?_text
  rw [body, String.toList_append, ofBody?,
    takeWhile_append_of_head? w.isNameChar_of_mem_column hend,
    dropWhile_append_of_head? w.isNameChar_of_mem_column hend, if_neg w.column_ne_nil, hcondition,
    String.ofList_toList]
  rfl

end Body

lemma toList_text : w.text.toList = w.body.toList ++ ',' :: w.keyword.toList := by
  simp [text]

lemma trimmed_text : Trimmed w.text.toList := by
  have hend : Trimmed (',' :: w.keyword.toList) :=
    Trimmed.append (s := [',']) (.of_forall (by simp; decide)) (by simp) w.trimmed_keyword.2
  rw [toList_text]
  exact w.trimmed_body.append w.body_ne_nil hend.2

lemma bar_notMem_text : '|' ∉ w.text.toList := by
  rw [toList_text, List.mem_append, List.mem_cons, not_or, not_or]
  exact ⟨w.bar_notMem_body, by decide, w.notMem_keyword rfl⟩

/-- The last comma is the one before the direction, whatever commas a value holds. -/
lemma ofText?_text : ofText? w.text.toList = some w.bare := by
  rw [toList_text, ofText?, cutLast?_append _ (w.notMem_keyword rfl)]
  simp only [trim_eq_self w.trimmed_keyword, trim_eq_self w.trimmed_body, w.ofText?_keyword]
  exact w.ofBody?_body

end Written

/-- What may stand between two bars. -/
inductive Part
  | blank (s : String) (h : ∀ c ∈ s.toList, isBlank c)
  | term (w : Written)

namespace Part

def text : Part → String
  | blank s _ => s
  | term w => w.text

def written? : Part → Option Written
  | blank _ _ => none
  | term w => some w

lemma bar_notMem_text (q : Part) : '|' ∉ q.text.toList := by
  cases q with
  | blank s h => exact fun hbar => absurd (h _ hbar) (by decide)
  | term w => exact w.bar_notMem_text

lemma ofText?_trim (q : Part) : ofText? (trim q.text.toList) = q.written?.map Written.bare := by
  cases q with
  | blank s h =>
    have htrim : trim s.toList = [] := by
      rw [trim, List.dropWhile_eq_nil_iff.2 h]
      rfl
    rw [text, htrim]
    rfl
  | term w =>
    rw [text, trim_eq_self w.trimmed_text, w.ofText?_text]
    rfl

end Part

lemma scan_parts (parts : List Part) : scan ("|".intercalate (parts.map Part.text)).toList =
    (parts.filterMap Part.written?).map Written.bare := by
  cases parts with
  | nil => rfl
  | cons q parts =>
    have hsplit : ("|".intercalate ((q :: parts).map Part.text)).toList.splitOn '|' =
        (q :: parts).map (·.text.toList) := by
      rw [String.toList_intercalate, List.map_map]
      apply List.splitOn_intercalate
      · exact List.forall_mem_map.2 fun q _ => q.bar_notMem_text
      · simp
    rw [scan, hsplit, List.filterMap_map, List.map_filterMap]
    congr 1
    funext q
    exact q.ofText?_trim

/-- Every sort expression is read back from its terms, with nulls last where nothing but a
bucket-sorted column is sorted by. Parts without a term do not change it. -/
theorem compile_written (g : Guard) (ws : List Written)
    (hg : ∀ w ∈ ws, g.policy.isFilterable w.column) :
    compile g ("|".intercalate (ws.map Written.text)) = .ok (ws.map (Written.term g.policy)) ∧
      ∀ parts : List Part, parts.filterMap Part.written? = ws →
        compile g ("|".intercalate (parts.map Part.text)) =
          compile g ("|".intercalate (ws.map Written.text)) := by
  have hparts : ∀ parts : List Part, parts.filterMap Part.written? = ws →
      compile g ("|".intercalate (parts.map Part.text)) = .ok (ws.map (Written.term g.policy)) := by
    intro parts hws
    have hscan := scan_parts parts
    rw [hws] at hscan
    have hcolumns : ∀ t ∈ ws.map Written.bare, g.policy.isFilterable t.column :=
      List.forall_mem_map.2 hg
    rw [compile_eq_grant, mentions, admitted, hscan, Guard.grant_of_forall _
      (List.forall_mem_map.2 hcolumns), List.filter_eq_self.2 hcolumns, List.map_map]
    congr 2
    funext w
    exact w.marked_bare g.policy
  have hterms : compile g ("|".intercalate (ws.map Written.text)) =
      .ok (ws.map (Written.term g.policy)) := by
    have h := hparts (ws.map .term) (by simp [List.filterMap_map, Function.comp_def, Part.written?])
    rwa [List.map_map] at h
  exact ⟨hterms, fun parts hws => (hparts parts hws).trans hterms.symm⟩

/-- Values with commas, operators and blanks, an empty one and a number, with blank parts between. -/
theorem compile_written_values :
    compile ⟨{ isFilterable := fun a => ["make", "price", "year"].contains a,
               isBucketSorted := fun a => a == "year" }, .strict⟩
      "make= a,b!=c,asC| |year,DESC||year!=,asc|price>-1.5,desc" = .ok [
        { column := "make", direction := .asc, condition := some ⟨.eq, .text " a,b!=c"⟩ },
        { column := "year", direction := .desc, condition := none, nullsLast := true },
        { column := "year", direction := .asc, condition := some ⟨.ne, .text ""⟩ },
        { column := "price", direction := .desc, condition := some ⟨.gt, .numeric "-1.5"⟩ }] := by
  have hyear : isAttributeName "year" := by decide +kernel
  let make : Written := ⟨"make", some ⟨.eq, " a,b!=c", by decide, by decide, by decide,
    by rintro c ⟨⟩; decide⟩, .asc, "asC", by decide +kernel, by decide⟩
  let year : Written := ⟨"year", none, .desc, "DESC", hyear, by decide⟩
  let known : Written := ⟨"year", some ⟨.ne, "", by decide, by decide, by decide,
    by rintro c ⟨⟩⟩, .asc, "asc", hyear, by decide⟩
  let price : Written := ⟨"price", some ⟨.gt, "-1.5", by decide, by decide, by decide,
    by rintro c ⟨⟩; decide⟩, .desc, "desc", by decide +kernel, by decide⟩
  obtain ⟨hterms, hparts⟩ := compile_written
    ⟨{ isFilterable := fun a => ["make", "price", "year"].contains a,
       isBucketSorted := fun a => a == "year" }, .strict⟩ [make, year, known, price]
    (by simp [make, year, known, price])
  let parts : List Part := [.term make, .blank " " (by simp; decide), .term year,
    .blank "" (by simp), .term known, .term price]
  have htext : "|".intercalate (parts.map Part.text) =
      "make= a,b!=c,asC| |year,DESC||year!=,asc|price>-1.5,desc" := by
    simp [parts, make, year, known, price, Part.text, Written.text, Written.body,
      SortCondition.Written.text, Operator.symbol]
  have hliterals : Literal.ofText " a,b!=c".toList = .text " a,b!=c" ∧
      Literal.ofText "".toList = .text "" ∧ Literal.ofText "-1.5".toList = .numeric "-1.5" := by
    decide +kernel
  rw [← htext, hparts parts rfl, hterms]
  simp only [make, year, known, price, List.map_cons, List.map_nil, Written.term, Written.bare,
    Option.map_some, SortCondition.Written.condition, hliterals]
  rfl

end SortTerm
end FacetSearch
