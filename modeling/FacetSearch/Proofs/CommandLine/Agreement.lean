import FacetSearch.CommandLine.Outcome
import FacetSearch.Proofs.Request.Inputs

/-! The command line and the service compile the same, exactly where no two inputs have the same
parameter name. -/
namespace FacetSearch.CommandLine.QueryOptions

/-- What the options give for an input. -/
def argument? (o : QueryOptions) : Input → Option String
  | .filters => o.filters
  | .facetFilters => o.facetFilters
  | .sortBy => o.sortBy
  | .attributesToRetrieve => o.attributes

/-- An option as a parameter under the configured name of its input, if it is given. -/
def pair? (names : ParameterNames) (o : QueryOptions) (i : Input) : Option (String × String) :=
  (o.argument? i).map fun value => (names.name i, value)

/-- The options that are given, as parameters. -/
def pairs (names : ParameterNames) (o : QueryOptions) : List (String × String) :=
  Input.all.filterMap (o.pair? names)

/-- The request of query options has, for each input, what a single parameter would give. -/
lemma request_eq (o : QueryOptions) :
    o.request = {
      filters := (o.argument? .filters).toList.getLast?
      facetFilters := (o.argument? .facetFilters).toList.getLast?
      sortBy := (o.argument? .sortBy).toList.getLast?
      attributesToRetrieve := (o.argument? .attributesToRetrieve).toList.flatMap commaParts } := by
  have hlast (value : Option String) : value.toList.getLast? = value := by
    cases value <;> rfl
  have hcolumns (value : Option String) :
      value.toList.flatMap commaParts = (value.map commaParts).getD [] := by
    cases value <;> simp
  simp only [hlast, hcolumns]
  rfl

section Names

variable {names : ParameterNames}

/-- With different names each input gets the value of its own option. -/
lemma valuesFor_pairs (h : names.Distinct) (i : Input) (o : QueryOptions) :
    Request.valuesFor names i (o.pairs names) = (o.argument? i).toList := by
  have hone (j : Input) : Request.valuesFor names i (o.pair? names j).toList =
      if j = i then (o.argument? j).toList else [] := by
    unfold pair?
    cases o.argument? j with
    | none => simp [Request.valuesFor]
    | some value =>
      simp [Request.valuesFor_singleton, ParameterNames.distinct_iff.1 h j]
  have hall : o.pairs names = (o.pair? names .filters).toList ++
      ((o.pair? names .facetFilters).toList ++ ((o.pair? names .sortBy).toList ++
        (o.pair? names .attributesToRetrieve).toList)) := by
    simp [pairs, Input.all, List.filterMap_eq_flatMap_toList]
  rw [hall]
  simp only [Request.valuesFor_append, hone]
  cases i <;> simp

lemma ofPairs_of_perm (h : names.Distinct) {o : QueryOptions} {ps : List (String × String)}
    (hps : ps.Perm (o.pairs names)) : Request.ofPairs names ps = o.request := by
  have hvalues (i : Input) : Request.valuesFor names i ps = (o.argument? i).toList := by
    have hperm : (Request.valuesFor names i ps).Perm (o.argument? i).toList := by
      rw [← valuesFor_pairs h i o]
      exact (hps.filter _).map _
    cases hi : o.argument? i with
    | none =>
      rw [hi] at hperm
      exact List.perm_nil.1 hperm
    | some value =>
      rw [hi] at hperm
      exact List.perm_singleton.1 hperm
  rw [Request.ofPairs_eq, request_eq]
  simp only [hvalues]

/-- The options that give one input only. -/
def only : Input → QueryOptions
  | .filters => { context := "", filters := some "" }
  | .facetFilters => { context := "", facetFilters := some "" }
  | .sortBy => { context := "", sortBy := some "" }
  | .attributesToRetrieve => { context := "", attributes := some "" }

lemma pairs_only (names : ParameterNames) (i : Input) :
    (only i).pairs names = [(names.name i, "")] := by
  cases i <;> rfl

/-- The name of an input that an option alone can reach leads to that input. -/
lemma input?_of_ofPairs_only {i : Input}
    (h : Request.ofPairs names ((only i).pairs names) = (only i).request) :
    names.input? (names.name i) = some i := by
  by_contra hi
  have hnil : Request.valuesFor names i [(names.name i, "")] = [] := by
    rw [Request.valuesFor_singleton, if_neg hi]
  rw [pairs_only, Request.ofPairs_eq] at h
  cases i with
  | filters => simp [hnil, only, request] at h
  | facetFilters => simp [hnil, only, request] at h
  | sortBy => simp [hnil, only, request] at h
  | attributesToRetrieve => simp [hnil, only, request, commaParts] at h

end Names

/-- Query options make the request that they make as parameters, exactly where no two inputs have the
same parameter name. There, in whatever order the parameters come, a command that does not ask for
strict mode has the result of the service: the same query, or the same error. -/
theorem compile_agrees (c : Config) :
    (c.parameters.Distinct ↔
      ∀ o : QueryOptions, Request.ofPairs c.parameters (o.pairs c.parameters) = o.request) ∧
    (c.parameters.Distinct → ∀ (o : QueryOptions) (ps : List (String × String)),
      ps.Perm (o.pairs c.parameters) →
        Request.ofPairs c.parameters ps = o.request ∧
        (o.strict = false → o.compile c = c.compile o.context ps)) := by
  refine ⟨⟨fun h o => ofPairs_of_perm h (.refl _), fun h => ?_⟩, fun h o ps hps => ?_⟩
  · exact ParameterNames.distinct_iff.2 fun i => input?_of_ofPairs_only (h (only i))
  · have hrequest := ofPairs_of_perm h hps
    refine ⟨hrequest, fun hstrict => ?_⟩
    rw [compile, hstrict, Config.compile, hrequest]
    rfl

/-- One name is here what another one is with brackets behind it, and the parameters come in another
order than the options. -/
theorem compile_agrees_brackets :
    let c : Config := { parameters := { filters := "q[]", attributesToRetrieve := "q" } }
    let o : QueryOptions :=
      { context := "vehicles", filters := some "make:Nissan", attributes := some "make,year" }
    let ps := [("q", "make,year"), ("q[]", "make:Nissan")]
    c.parameters.Distinct ∧ ps.Perm (o.pairs c.parameters) ∧ o.strict = false ∧
      Request.ofPairs c.parameters ps = o.request ∧ o.compile c = c.compile "vehicles" ps := by
  intro c o ps
  have hnames : c.parameters.Distinct := by decide
  have hps : ps.Perm (o.pairs c.parameters) := by decide
  obtain ⟨hrequest, hcompile⟩ := (compile_agrees c).2 hnames o ps hps
  exact ⟨hnames, hps, rfl, hrequest, hcompile rfl⟩

end FacetSearch.CommandLine.QueryOptions
