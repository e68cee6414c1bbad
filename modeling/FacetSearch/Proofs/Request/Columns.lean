import FacetSearch.Proofs.Request.Inputs
import FacetSearch.Proofs.Text.Trim

/-! The columns that a request asks for: how they are cut into parameters does not matter, nor does
the order among parameters for different inputs. -/
namespace FacetSearch

/-- The parts of texts with a comma between each two are the parts of each of them. -/
lemma commaParts_intercalate {values : List String} (hne : values ≠ []) :
    commaParts (",".intercalate values) = values.flatMap commaParts := by
  have hcomma : ",".toList = [','] := rfl
  induction values with
  | nil => exact absurd rfl hne
  | cons v values ih =>
    cases values with
    | nil => simp [commaParts]
    | cons w values =>
      have hrest := ih (by simp)
      simp only [commaParts, String.toList_intercalate, hcomma, List.map_cons] at hrest ⊢
      rw [List.intercalate_cons_cons, List.append_assoc, List.singleton_append, List.splitOn,
        List.splitOnP_append_cons _ _ (by simp), List.map_append, ← List.splitOn, ← List.splitOn,
        hrest]
      rfl

/-- A column stays selected under its own name: it is not empty, not a star, and trimmed. -/
lemma wellFormed_of_projection {columns names : List String} (h : projection columns = some names) :
    names ≠ [] ∧ ∀ a ∈ names, a ≠ "" ∧ a ≠ "*" ∧ Text.Trimmed a.toList := by
  simp only [projection] at h
  split at h
  · cases h
  · next hkept =>
    rw [Bool.or_eq_true, not_or] at hkept
    obtain ⟨hne, hstar⟩ := hkept
    obtain rfl := Option.some.inj h
    refine ⟨by simpa using hne, ?_⟩
    intro a ha
    obtain ⟨hmap, hnonempty⟩ := List.mem_filter.1 ha
    obtain ⟨c, -, rfl⟩ := List.mem_map.1 hmap
    refine ⟨by simpa using hnonempty, ?_, ?_⟩
    · intro heq
      rw [heq] at ha
      exact hstar (List.contains_iff_mem.2 ha)
    · rw [String.toList_ofList]
      exact Text.trimmed_trim c.toList

lemma projection_of_projection {columns names : List String} (h : projection columns = some names) :
    projection names = some names := by
  obtain ⟨hne, hnames⟩ := wellFormed_of_projection h
  have htrim : names.map (fun c => String.ofList (Text.trim c.toList)) = names := by
    rw [List.map_congr_left (g := id), List.map_id]
    intro a ha
    rw [Text.trim_eq_self (hnames a ha).2.2, String.ofList_toList, id]
  have hnonempty : names.filter (· != "") = names := by
    rw [List.filter_eq_self]
    intro a ha
    exact bne_iff_ne.2 (hnames a ha).1
  have hstar : "*" ∉ names := fun h => (hnames "*" h).2.1 rfl
  simp only [projection, htrim, hnonempty]
  simp [hne, hstar]

namespace Request

variable (names : ParameterNames)

/-- The parameters for an input, in order. -/
def parametersFor (i : Input) (pairs : List (String × String)) : List (String × String) :=
  pairs.filter fun p => names.input? p.1 = some i

/-- The names in a list of columns, trimmed and without the empty ones. -/
def columnNames (value : String) : List String :=
  ((commaParts value).map fun c => .ofList (Text.trim c.toList)).filter (· != "")

/-- The names of the columns in all parameters for them, in order. -/
def columnsNamed (pairs : List (String × String)) : List String :=
  (parametersFor names .attributesToRetrieve pairs).flatMap fun p => columnNames p.2

variable {names}

lemma valuesFor_eq_map (i : Input) (pairs : List (String × String)) :
    valuesFor names i pairs = (parametersFor names i pairs).map (·.2) := rfl

/-- Only the order among the parameters for the same input counts. -/
lemma ofPairs_congr {ps qs : List (String × String)}
    (h : ∀ i, parametersFor names i ps = parametersFor names i qs) :
    ofPairs names ps = ofPairs names qs := by
  simp only [ofPairs_eq, valuesFor_eq_map, h]

/-- Lists of parameters that come to the same in the middle come to the same as a whole. -/
lemma ofPairs_append_congr {ps qs : List (String × String)} (front back : List (String × String))
    (hcolumns : (valuesFor names .attributesToRetrieve ps).flatMap commaParts =
      (valuesFor names .attributesToRetrieve qs).flatMap commaParts)
    (h : ∀ i, i ≠ .attributesToRetrieve → valuesFor names i ps = valuesFor names i qs) :
    ofPairs names (front ++ ps ++ back) = ofPairs names (front ++ qs ++ back) := by
  simp only [ofPairs_eq, valuesFor_append, List.flatMap_append, hcolumns]
  rw [h .filters nofun, h .facetFilters nofun, h .sortBy nofun]

lemma input?_of_columns {key : String}
    (hkey : key = names.attributesToRetrieve ∨ key = names.attributesToRetrieve ++ "[]")
    (hfree : key ∉ [names.filters, names.facetFilters, names.sortBy]) :
    names.input? key = some .attributesToRetrieve := by
  simp only [List.mem_cons, List.not_mem_nil, or_false, not_or] at hfree
  obtain ⟨hfilters, hfacets, hsort⟩ := hfree
  rw [ParameterNames.input?, if_neg hfilters, if_neg hfacets, if_neg hsort, if_pos hkey]

lemma valuesFor_of_forall {i : Input} {ps : List (String × String)}
    (h : ∀ p ∈ ps, names.input? p.1 = some .attributesToRetrieve) :
    valuesFor names i ps = if i = .attributesToRetrieve then ps.map (·.2) else [] := by
  split
  · next hi =>
    rw [valuesFor_eq_map, parametersFor, List.filter_eq_self.2]
    simpa [hi] using h
  · next hi =>
    rw [valuesFor_eq_map, parametersFor, List.filter_eq_nil_iff.2]
    · rfl
    · intro p hp
      rw [h p hp, decide_eq_true_eq, Option.some.injEq]
      exact Ne.symm hi

/-- The columns may be cut at any commas into parameters of their own. -/
lemma ofPairs_cut {front parts back : List (String × String)} {key : String}
    (hkey : names.input? key = some .attributesToRetrieve) (hne : parts ≠ [])
    (hparts : ∀ p ∈ parts, names.input? p.1 = some .attributesToRetrieve) :
    ofPairs names (front ++ [(key, ",".intercalate (parts.map (·.2)))] ++ back) =
      ofPairs names (front ++ parts ++ back) := by
  have hone : ∀ p ∈ [(key, ",".intercalate (parts.map (·.2)))],
      names.input? p.1 = some .attributesToRetrieve := by simpa using hkey
  apply ofPairs_append_congr
  · rw [valuesFor_of_forall hone, valuesFor_of_forall hparts, if_pos rfl, if_pos rfl,
      List.map_singleton, List.flatMap_singleton, commaParts_intercalate (by simpa using hne)]
  · intro i hi
    rw [valuesFor_of_forall hone, valuesFor_of_forall hparts, if_neg hi, if_neg hi]

lemma projection_ofPairs (pairs : List (String × String)) :
    projection (ofPairs names pairs).attributesToRetrieve =
      if columnsNamed names pairs = [] ∨ "*" ∈ columnsNamed names pairs then none
      else some (columnsNamed names pairs) := by
  have hnamed : ((ofPairs names pairs).attributesToRetrieve.map
      fun c => String.ofList (Text.trim c.toList)).filter (· != "") = columnsNamed names pairs := by
    simp only [ofPairs_eq, columnsNamed, valuesFor_eq_map, List.flatMap_map, List.map_flatMap,
      List.filter_flatMap]
    rfl
  simp only [projection, hnamed]
  simp

/-- Only the order among the parameters for the same input counts, the columns may be cut at any
commas into parameters of their own, and what is selected are the names in all of them in order,
which are selected again under the same names. -/
theorem ofPairs_exact (names : ParameterNames) :
    (∀ ps qs, (∀ i, parametersFor names i ps = parametersFor names i qs) →
      ofPairs names ps = ofPairs names qs) ∧
    (∀ front key parts back, names.input? key = some .attributesToRetrieve → parts ≠ [] →
      (∀ p ∈ parts, p.1 ∈ [names.attributesToRetrieve, names.attributesToRetrieve ++ "[]"] ∧
        p.1 ∉ [names.filters, names.facetFilters, names.sortBy]) →
      ofPairs names (front ++ [(key, ",".intercalate (parts.map (·.2)))] ++ back) =
        ofPairs names (front ++ parts ++ back)) ∧
    (∀ pairs, projection (ofPairs names pairs).attributesToRetrieve =
      if columnsNamed names pairs = [] ∨ "*" ∈ columnsNamed names pairs then none
      else some (columnsNamed names pairs)) ∧
    ∀ columns selected, projection columns = some selected → projection selected = some selected := by
  refine ⟨fun ps qs => ofPairs_congr, ?_, projection_ofPairs, fun _ _ => projection_of_projection⟩
  intro front key parts back hkey hne hparts
  apply ofPairs_cut hkey hne
  intro p hp
  obtain ⟨hname, hfree⟩ := hparts p hp
  exact input?_of_columns (by simpa using hname) hfree

/-- The filters have the plain name of the columns here, so that these come under the other one. -/
theorem ofPairs_exact_taken :
    (ofPairs { filters := "q", attributesToRetrieve := "q" }
        [("q[]", "make, model ,"), ("sortBy", "year"), ("q", "a:1")] =
      ofPairs { filters := "q", attributesToRetrieve := "q" }
        [("q", "a:1"), ("q[]", "make, model ,"), ("sortBy", "year")]) ∧
    (ofPairs { filters := "q", attributesToRetrieve := "q" }
        [("q", "a:1"), ("q[]", "make, model ,"), ("sortBy", "year")] =
      ofPairs { filters := "q", attributesToRetrieve := "q" }
        [("q", "a:1"), ("q[]", "make"), ("q[]", " model "), ("q[]", ""), ("sortBy", "year")]) ∧
    projection ["make", " model ", ""] = some ["make", "model"] ∧
    projection ["make", "model"] = some ["make", "model"] := by
  have hselected : projection ["make", " model ", ""] = some ["make", "model"] := by decide +kernel
  refine ⟨?_, ?_, hselected, (ofPairs_exact {}).2.2.2 _ _ hselected⟩
  · apply (ofPairs_exact _).1
    intro i
    cases i <;> decide +kernel
  · exact (ofPairs_exact { filters := "q", attributesToRetrieve := "q" }).2.1 [("q", "a:1")] "q[]"
      [("q[]", "make"), ("q[]", " model "), ("q[]", "")] [("sortBy", "year")] (by decide +kernel)
      (by simp) (by decide +kernel)

end Request
end FacetSearch
