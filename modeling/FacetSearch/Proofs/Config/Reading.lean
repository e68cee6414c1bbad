import FacetSearch.Config.Document
import FacetSearch.Proofs.Yaml.Meaning
import Mathlib.Data.List.Sort

/-! The YAML form of a configuration, with its sets in any order, is read as that configuration. -/
namespace FacetSearch

namespace NameSet

lemma eq_of_names_eq {s t : NameSet} (h : s.names = t.names) : s = t := by
  obtain ⟨names, hs⟩ := s
  obtain ⟨names', ht⟩ := t
  cases h
  rfl

/-- A set is made of its names, in whatever order they come. -/
lemma ofList_of_perm {s : NameSet} {names : List String} (h : names.Perm s.names) :
    ofList names = s := by
  have hmem (a : String) : a ∈ (ofList names).names ↔ a ∈ s.names := by
    have hhas := has_ofList names a
    rw [has, Bool.eq_iff_iff, List.contains_iff_mem, List.contains_iff_mem] at hhas
    rw [hhas, h.mem_iff]
  have hperm : (ofList names).names.Perm s.names :=
    (List.perm_ext_iff_of_nodup (ofList names).ascending.nodup s.ascending.nodup).2 hmem
  exact eq_of_names_eq (hperm.eq_of_pairwise' (ofList names).ascending s.ascending)

end NameSet

namespace Contexts

lemma upsert_of_not_mem {name : String} (s : Schema) {es : List (String × Schema)}
    (h : name ∉ es.map (·.1)) : upsert name s es = es ++ [(name, s)] := by
  induction es with
  | nil => rfl
  | cons e es ih =>
    rw [List.map_cons, List.mem_cons, not_or] at h
    rw [upsert, if_neg (Ne.symm h.1), ih h.2, List.cons_append]

/-- Contexts of new names come behind those that are there, in order. -/
lemma entries_foldl_insert (es : List (String × Schema)) (cs : Contexts)
    (h : ((cs.entries ++ es).map (·.1)).Nodup) :
    (es.foldl (fun cs e => cs.insert e.1 e.2) cs).entries = cs.entries ++ es := by
  induction es generalizing cs with
  | nil => rw [List.foldl_nil, List.append_nil]
  | cons e es ih =>
    have hnew : e.1 ∉ cs.entries.map (·.1) := by
      rw [List.map_append, List.nodup_append] at h
      exact fun he => h.2.2 e.1 he e.1 List.mem_cons_self rfl
    have hinsert : (cs.insert e.1 e.2).entries = cs.entries ++ [e] := upsert_of_not_mem e.2 hnew
    rw [List.foldl_cons, ih _ (by rw [hinsert, List.append_assoc]; exact h), hinsert,
      List.append_assoc]
    rfl

lemma ofList_entries (cs : Contexts) : ofList cs.entries = cs := by
  have h := entries_foldl_insert cs.entries empty cs.distinct
  rw [← ofList, empty, List.nil_append] at h
  cases hcs : ofList cs.entries with
  | mk entries distinct =>
    rw [hcs] at h
    cases h
    rfl

end Contexts

open Yaml (Node)

/-- A mode is read off its keyword. -/
lemma Mode.ofYaml_eq {n : Node} {mode : Mode} (h : n.Means (.string mode.keyword)) :
    ofYaml n = pure mode := by
  have hkeyword : ofKeyword? mode.keyword = some mode := by
    cases mode <;> rfl
  rw [ofYaml, Node.choice_eq h, pure_bind, hkeyword]

lemma NameSet.ofYaml_eq {n : Node} {names : List String} {s : NameSet}
    (h : n.Means (.strings names)) (hnames : names.Perm s.names) : ofYaml n = pure s := by
  obtain ⟨ns, hns, hmeans⟩ := Node.exists_items h
  have hstrings : List.Forall₂ (fun name v => Yaml.Value.string name = v) names
      (names.map .string) := List.forall₂_map_right_iff.2 (List.forall₂_same.2 fun _ _ => rfl)
  have hread : ns.mapM Node.text = pure names :=
    Yaml.mapM_eq (fun n name v hn hv => Node.text_eq (hv ▸ hn)) hmeans hstrings
  rw [ofYaml, hns, pure_bind, hread, pure_bind, ofList_of_perm hnames]

lemma ParameterNames.ofYaml_eq {n : Node} {names : ParameterNames} (h : n.Means names.toYaml) :
    ofYaml n = pure names := by
  obtain ⟨fields, hfields, hmean⟩ := Node.exists_fields h (by simp)
  have hget (name value : String) (hvalue : List.lookup name _ = some (Yaml.Value.string value))
      (default : String) : fields.get name default Node.text = pure value :=
    Yaml.Fields.get_eq hmean hvalue fun _ => Node.text_eq
  have hfilters := hget "filters" names.filters rfl
  have hfacets := hget "facet_filters" names.facetFilters rfl
  have hsort := hget "sort_by" names.sortBy rfl
  have hattributes := hget "attributes_to_retrieve" names.attributesToRetrieve rfl
  simp only [ofYaml, hfields, hfilters, hfacets, hsort, hattributes, pure_bind]

/-- Whether a value is a schema, with the names of its sets in any order. -/
def Schema.Written (s : Schema) (v : Yaml.Value) : Prop :=
  ∃ filterable arrays buckets : List String, filterable.Perm s.filterable.names ∧
    arrays.Perm s.arrayAttributes.names ∧ buckets.Perm s.bucketSortFields.names ∧
    v = .mapping [("table", s.table.elim .null .string), ("filterable", .strings filterable),
      ("array_attributes", .strings arrays), ("bucket_sort_fields", .strings buckets),
      ("enforce_allow_list", .bool s.enforceAllowList)]

lemma Schema.written_toYaml (s : Schema) : s.Written s.toYaml :=
  ⟨_, _, _, .refl _, .refl _, .refl _, rfl⟩

lemma Schema.ofYaml_eq {n : Node} {s : Schema} {v : Yaml.Value} (h : n.Means v)
    (hv : s.Written v) : ofYaml n = pure s := by
  obtain ⟨filterable, arrays, buckets, hfilterable, harrays, hbuckets, rfl⟩ := hv
  obtain ⟨fields, hfields, hmean⟩ := Node.exists_fields h (by simp)
  have htable (default) : fields.get "table" default (Node.optional Node.text) = pure s.table := by
    refine Yaml.Fields.get_eq hmean rfl fun n hn => ?_
    cases ht : s.table with
    | none =>
      rw [ht] at hn
      exact Node.optional_null_eq Node.text hn
    | some t =>
      rw [ht] at hn
      exact Node.optional_text_eq hn
  have hset (name : String) (names : List String) (set : NameSet) (hperm : names.Perm set.names)
      (hvalue : List.lookup name _ = some (Yaml.Value.strings names)) (default : NameSet) :
      fields.get name default NameSet.ofYaml = pure set :=
    Yaml.Fields.get_eq hmean hvalue fun _ hn => NameSet.ofYaml_eq hn hperm
  have hfilter := hset "filterable" filterable _ hfilterable rfl
  have harray := hset "array_attributes" arrays _ harrays rfl
  have hbucket := hset "bucket_sort_fields" buckets _ hbuckets rfl
  have henforce (default) : fields.get "enforce_allow_list" default Node.bool =
      pure s.enforceAllowList := Yaml.Fields.get_eq hmean rfl fun _ => Node.bool_eq
  simp only [ofYaml, hfields, htable, hfilter, harray, hbucket, henforce, pure_bind]

namespace Config

/-- Whether a value is a configuration, with its contexts in order and its sets in any order. -/
def Written (c : Config) (v : Yaml.Value) : Prop :=
  ∃ contexts : List (String × Yaml.Value),
    List.Forall₂ (fun e w => e.1 = w.1 ∧ e.2.Written w.2) c.contexts.entries contexts ∧
    v = .mapping [("params", c.parameters.toYaml), ("mode", .string c.mode.keyword),
      ("listen", .string c.listen), ("contexts", .mapping contexts)]

lemma written_toYaml (c : Config) : c.Written c.toYaml := by
  refine ⟨_, ?_, rfl⟩
  rw [List.forall₂_map_right_iff, List.forall₂_same]
  exact fun e _ => ⟨rfl, e.2.written_toYaml⟩

lemma contextsOfYaml_eq {n : Node} {cs : Contexts} {es : List (String × Yaml.Value)}
    (h : n.Means (.mapping es))
    (hes : List.Forall₂ (fun e w => e.1 = w.1 ∧ e.2.Written w.2) cs.entries es) :
    contextsOfYaml n = pure cs := by
  obtain ⟨fs, hfs, hmeans⟩ := Node.exists_entries h
  have hread (f : Node × Node) (e : String × Schema) (w : String × Yaml.Value)
      (hf : f.1.Means (.string w.1) ∧ f.2.Means w.2) (he : e.1 = w.1 ∧ e.2.Written w.2) :
      (do return (← f.1.text, ← Schema.ofYaml f.2)) = (pure e : Yaml.Reader _) := by
    rw [Node.text_eq hf.1, pure_bind, Schema.ofYaml_eq hf.2 he.2, pure_bind, ← he.1]
  rw [contextsOfYaml, hfs, pure_bind, Yaml.mapM_eq hread hmeans hes, pure_bind,
    Contexts.ofList_entries]

lemma ofYaml_eq {n : Node} {c : Config} {v : Yaml.Value} (h : n.Means v) (hv : c.Written v) :
    ofYaml n = pure c := by
  obtain ⟨contexts, hcontexts, rfl⟩ := hv
  obtain ⟨fields, hfields, hmean⟩ := Node.exists_fields h (by simp)
  have hparameters (default) : fields.get "params" default ParameterNames.ofYaml =
      pure c.parameters := Yaml.Fields.get_eq hmean rfl fun _ => ParameterNames.ofYaml_eq
  have hmode (default) : fields.get "mode" default Mode.ofYaml = pure c.mode :=
    Yaml.Fields.get_eq hmean rfl fun _ => Mode.ofYaml_eq
  have hlisten (default) : fields.get "listen" default Node.text = pure c.listen :=
    Yaml.Fields.get_eq hmean rfl fun _ => Node.text_eq
  have hcs (default) : fields.get "contexts" default contextsOfYaml = pure c.contexts :=
    Yaml.Fields.get_eq hmean rfl fun _ hn => contextsOfYaml_eq hn hcontexts
  simp only [ofYaml, hfields, hparameters, hmode, hlisten, hcs, pure_bind]

lemma ofYaml?_eq {n : Node} {c : Config} {v : Yaml.Value} (h : n.Means v) (hv : c.Written v) :
    ofYaml? n = some c := by
  rw [ofYaml?, Node.read?, ofYaml_eq h hv]
  rfl

end Config
end FacetSearch
