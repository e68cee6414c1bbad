import FacetSearch.Config.Storage
import FacetSearch.Proofs.Config.Reading
import FacetSearch.Proofs.Disk.Making

/-! Configurations survive the disk: what was saved is loaded, whatever order its sets were written
in, and where there is no file the default configuration is written and loaded. -/
namespace FacetSearch
namespace Config

/-- Whether every context has a name, and every name in its schema is one of an attribute. -/
def Valid (c : Config) : Prop :=
  ∀ e ∈ c.contexts.entries, e.1 ≠ "" ∧ ∀ a ∈ e.2.names, isAttributeName a

lemma contextProblem?_eq_none_iff (e : String × Schema) :
    contextProblem? e = none ↔ e.1 ≠ "" ∧ ∀ a ∈ e.2.names, isAttributeName a := by
  obtain ⟨context, s⟩ := e
  rw [contextProblem?]
  split
  · next h => simp [h]
  · next h => simp [h, List.find?_eq_none]

lemma problem?_eq_none_iff {c : Config} : c.problem? = none ↔ c.Valid := by
  rw [problem?, List.findSome?_eq_none_iff]
  exact forall₂_congr fun e _ => contextProblem?_eq_none_iff e

instance (c : Config) : Decidable c.Valid := decidable_of_iff _ problem?_eq_none_iff

lemma valid_default : ({} : Config).Valid := by
  decide +kernel

section Reading

variable {f : Yaml.Format} {path text directory : String} {v : Yaml.Value} {d d' : Disk}
  {c : Config}

lemma read_eq (hread : d.read? path = some text) (hc : (f.read? text).bind ofYaml? = some c)
    (hvalid : c.Valid) : read f path d = .ok c := by
  simp only [read, hread, hc, problem?_eq_none_iff.2 hvalid]

lemma exists_of_read (h : read f path d = .ok c) :
    (∃ text, d.read? path = some text) ∧ c.Valid := by
  unfold read at h
  split at h
  · cases h
  · next text hread =>
    split at h
    · cases h
    · split at h
      · cases h
      · next hproblem =>
        cases h
        exact ⟨⟨text, hread⟩, problem?_eq_none_iff.1 hproblem⟩

lemma load_of_read? (h : d.read? (fileIn directory) = some text) :
    load f directory d = (d, read f (fileIn directory) d) := by
  have hentry : (d.entry? (fileIn directory)).isSome := by
    obtain ⟨q, hresolve, hfile⟩ := Disk.resolve_of_read? h
    simp [Disk.entry?, hresolve, hfile]
  exact if_pos hentry

lemma save_eq_iff : save f path c d = (d', none) ↔
    ∃ d₁, d.makeDirectory (Path.directory path) = (d₁, none) ∧
      d₁.write? path (f.write c.toYaml) = some d' := by
  unfold save
  split
  · next d₁ e hmake => simp [hmake]
  · next d₁ hmake =>
    split
    · next d₂ hwrite => simp [hmake, hwrite]
    · next hwrite => simp [hmake, hwrite]

/-- A configuration that was written to its file is loaded. -/
lemma load_of_write? (hvalid : c.Valid) (hv : c.Written v) (hback : f.ReadsBack v)
    (hwrite : d.write? (fileIn directory) (f.write v) = some d') :
    load f directory d' = (d', .ok c) := by
  have hread : d'.read? (fileIn directory) = some (f.write v) := Disk.read?_write? hwrite
  obtain ⟨n, hn, hmeans⟩ := Option.bind_eq_some_iff.1 hback
  have hc : (f.read? (f.write v)).bind ofYaml? = some c := by
    rw [hn]
    exact ofYaml?_eq hmeans hv
  rw [load_of_read? hread, read_eq hread hc hvalid]

/-- What is loaded was there, or was written as the default. -/
lemma cases_of_load (h : load f directory d = (d', .ok c)) :
    read f (fileIn directory) d' = .ok c ∧
      (((d.entry? (fileIn directory)).isSome ∧ d' = d) ∨
        (d.entry? (fileIn directory) = none ∧ save f (fileIn directory) {} d = (d', none))) := by
  simp only [load] at h
  split at h
  · next hentry =>
    obtain ⟨rfl, hread⟩ := Prod.mk.inj h
    exact ⟨hread, .inl ⟨hentry, rfl⟩⟩
  · next hentry =>
    split at h
    · cases h
    · next d₁ hsave =>
      obtain ⟨rfl, hread⟩ := Prod.mk.inj h
      exact ⟨hread, .inr ⟨by simpa using hentry, hsave⟩⟩

lemma load_of_missing (hmissing : d.entry? (fileIn directory) = none)
    (hsave : save f (fileIn directory) {} d = (d', none)) :
    load f directory d = (d', read f (fileIn directory) d') := by
  simp only [load, hmissing, hsave, Option.isSome_none, Bool.false_eq_true, if_false]

/-- The name of the file of a configuration stands last in its path. -/
lemma getLast?_names_fileIn (directory : String) :
    (Path.names (fileIn directory)).getLast? = some "config.yaml" :=
  Path.getLast?_names_inside directory (by decide)

end Reading

/-- What loading the configuration of a directory and saving it there make of each other. -/
structure Survives (f : Yaml.Format) (directory : String) (d : Disk) : Prop where
  /-- What is loaded is valid, is loaded again, and can be replaced. -/
  loaded : ∀ d' c, load f directory d = (d', .ok c) → c.Valid ∧ load f directory d' = (d', .ok c) ∧
    ∀ edited, ∃ d'', save f (fileIn directory) edited d' = (d'', none)
  saved : ∀ c d', c.Valid → f.ReadsBack c.toYaml → save f (fileIn directory) c d = (d', none) →
    load f directory d' = (d', .ok c)
  /-- The sets may be written in any order. -/
  written : ∀ c v d', c.Valid → c.Written v → f.ReadsBack v →
    d.write? (fileIn directory) (f.write v) = some d' → load f directory d' = (d', .ok c)
  /-- Where there is no file, the default is written and loaded. -/
  missing : d.entry? (fileIn directory) = none → f.ReadsBack ({} : Config).toYaml →
    ∀ d' c, load f directory d = (d', .ok c) →
      c = {} ∧ d'.read? (fileIn directory) = some (f.write ({} : Config).toYaml)
  /-- It can be written unless something is in the way. -/
  made : d.entry? (fileIn directory) = none → f.ReadsBack ({} : Config).toYaml →
    d.Admits (fileIn directory) → ∃ d', load f directory d = (d', .ok {})

/-- Configurations survive the disk. -/
theorem survives (f : Yaml.Format) (directory : String) (d : Disk) : Survives f directory d where
  loaded d' c h := by
    obtain ⟨hread, -⟩ := cases_of_load h
    obtain ⟨⟨text, htext⟩, hvalid⟩ := exists_of_read hread
    refine ⟨hvalid, by rw [load_of_read? htext, hread], fun edited => ?_⟩
    obtain ⟨hmake, d'', hwrite⟩ :=
      Disk.exists_write?_of_read? htext (getLast?_names_fileIn directory) (f.write edited.toYaml)
    exact ⟨d'', save_eq_iff.2 ⟨d', hmake, hwrite⟩⟩
  saved c d' hvalid hback hsave := by
    obtain ⟨d₁, -, hwrite⟩ := save_eq_iff.1 hsave
    exact load_of_write? hvalid c.written_toYaml hback hwrite
  written c v d' := load_of_write?
  missing hmissing hback d' c h := by
    obtain ⟨hread, ⟨hentry, -⟩ | ⟨-, hsave⟩⟩ := cases_of_load h
    · rw [hmissing] at hentry
      cases hentry
    · obtain ⟨d₁, -, hwrite⟩ := save_eq_iff.1 hsave
      have hdefault := load_of_write? valid_default (written_toYaml {}) hback hwrite
      have htext := Disk.read?_write? hwrite
      rw [load_of_read? htext, hread] at hdefault
      exact ⟨Except.ok.inj (Prod.mk.inj hdefault).2, htext⟩
  made hmissing hback hadmits := by
    obtain ⟨d₁, d', hmake, hwrite⟩ := hadmits.exists_write? (getLast?_names_fileIn directory)
      (by decide) (f.write ({} : Config).toYaml)
    have hdefault := load_of_write? valid_default (written_toYaml {}) hback hwrite
    rw [load_of_read? (Disk.read?_write? hwrite)] at hdefault
    refine ⟨d', ?_⟩
    rw [load_of_missing hmissing (save_eq_iff.2 ⟨d₁, hmake, hwrite⟩), (Prod.mk.inj hdefault).2]

/-- Where nothing is, the default is written and loaded, and then a configuration that replaces it.
Its table has the name of a word for null. -/
theorem survives_replaced :
    let c : Config := { mode := .strict, contexts := .ofList [("cars",
      { table := some "null", filterable := .ofList ["make"], enforceAllowList := false })] }
    ∃ d₁ d₂, load Yaml.format "conf" {} = (d₁, .ok {}) ∧
      save Yaml.format (fileIn "conf") c d₁ = (d₂, none) ∧
      load Yaml.format "conf" d₂ = (d₂, .ok c) := by
  intro c
  have hadmits : Disk.Admits {} (fileIn "conf") := by
    refine ⟨by decide +kernel, [], ["conf", "config.yaml"], [], by decide +kernel, by simp,
      by decide, rfl, by decide, fun front _ hne => ?_⟩
    simp [Disk.lookup, hne]
  have hback : Yaml.format.ReadsBack ({} : Config).toYaml ∧ Yaml.format.ReadsBack c.toYaml := by
    constructor
    all_goals
      change (Yaml.Node.ofText? (.ofList _)).bind _ = _
      -- the kernel is slow to decode a text that it has just encoded
      rw [Yaml.Node.ofText?, Yaml.Token.ofText?, String.toList_ofList]
      decide +kernel
  have hfirst := survives Yaml.format "conf" {}
  obtain ⟨d₁, hd₁⟩ := hfirst.made (by decide +kernel) hback.1 hadmits
  obtain ⟨-, -, hreplace⟩ := hfirst.loaded d₁ {} hd₁
  obtain ⟨d₂, hd₂⟩ := hreplace c
  have hsecond := survives Yaml.format "conf" d₁
  exact ⟨d₁, d₂, hd₁, hd₂, hsecond.saved c d₂ (by decide +kernel) hback.2 hd₂⟩

end Config
end FacetSearch
