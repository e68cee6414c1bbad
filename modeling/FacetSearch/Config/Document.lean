import FacetSearch.Config.Basic
import FacetSearch.Yaml.Node
import FacetSearch.Yaml.Value

/-! Configurations as YAML documents. -/
namespace FacetSearch

def Mode.keyword : Mode → String
  | strict => "strict"
  | permissive => "permissive"

def Mode.ofKeyword? : String → Option Mode
  | "strict" => some strict
  | "permissive" => some permissive
  | _ => none

def Mode.ofYaml (v : Yaml.Node) : Yaml.Reader Mode := do
  match ofKeyword? (← v.choice) with
  | some mode => return mode
  | none => failure

def NameSet.ofYaml (v : Yaml.Node) : Yaml.Reader NameSet := do
  return .ofList (← (← v.items).mapM Yaml.Node.text)

namespace ParameterNames

def toYaml (n : ParameterNames) : Yaml.Value :=
  .mapping [("filters", .string n.filters), ("facet_filters", .string n.facetFilters),
    ("sort_by", .string n.sortBy),
    ("attributes_to_retrieve", .string n.attributesToRetrieve)]

def ofYaml (v : Yaml.Node) : Yaml.Reader ParameterNames := do
  let fields ← v.fields ["filters", "facet_filters", "sort_by", "attributes_to_retrieve"]
  let default : ParameterNames := {}
  return {
    filters := ← fields.get "filters" default.filters Yaml.Node.text
    facetFilters := ← fields.get "facet_filters" default.facetFilters Yaml.Node.text
    sortBy := ← fields.get "sort_by" default.sortBy Yaml.Node.text
    attributesToRetrieve :=
      ← fields.get "attributes_to_retrieve" default.attributesToRetrieve Yaml.Node.text }

end ParameterNames

namespace Schema

def toYaml (s : Schema) : Yaml.Value :=
  .mapping [("table", s.table.elim .null .string), ("filterable", .strings s.filterable.names),
    ("array_attributes", .strings s.arrayAttributes.names),
    ("bucket_sort_fields", .strings s.bucketSortFields.names),
    ("enforce_allow_list", .bool s.enforceAllowList)]

def ofYaml (v : Yaml.Node) : Yaml.Reader Schema := do
  let fields ← v.fields
    ["table", "filterable", "array_attributes", "bucket_sort_fields", "enforce_allow_list"]
  return {
    table := ← fields.get "table" none (Yaml.Node.optional Yaml.Node.text)
    filterable := ← fields.get "filterable" .empty NameSet.ofYaml
    arrayAttributes := ← fields.get "array_attributes" .empty NameSet.ofYaml
    bucketSortFields := ← fields.get "bucket_sort_fields" .empty NameSet.ofYaml
    enforceAllowList := ← fields.get "enforce_allow_list" true Yaml.Node.bool }

end Schema

namespace Config

def toYaml (c : Config) : Yaml.Value :=
  .mapping [("params", c.parameters.toYaml), ("mode", .string c.mode.keyword),
    ("listen", .string c.listen),
    ("contexts", .mapping (c.contexts.entries.map fun (name, s) => (name, s.toYaml)))]

/-- Reads the contexts; one whose name comes again keeps its place and takes the later schema. -/
def contextsOfYaml (v : Yaml.Node) : Yaml.Reader Contexts := do
  return .ofList (← (← v.entries).mapM fun (name, v) => do return (← name.text, ← Schema.ofYaml v))

/-- Reads a configuration; what is left out has its default, and unknown fields are passed over. -/
def ofYaml (v : Yaml.Node) : Yaml.Reader Config := do
  let fields ← v.fields ["params", "mode", "listen", "contexts"]
  let default : Config := {}
  return {
    parameters := ← fields.get "params" default.parameters ParameterNames.ofYaml
    mode := ← fields.get "mode" default.mode Mode.ofYaml
    listen := ← fields.get "listen" default.listen Yaml.Node.text
    contexts := ← fields.get "contexts" default.contexts contextsOfYaml }

/-- Reads a configuration that is a document of its own. -/
def ofYaml? (v : Yaml.Node) : Option Config := v.read? ofYaml

end Config
end FacetSearch
