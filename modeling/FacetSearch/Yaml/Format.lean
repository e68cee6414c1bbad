import FacetSearch.Yaml.Node
import FacetSearch.Yaml.Text

/-! How values are written as documents, and documents read. -/
namespace FacetSearch.Yaml

structure Format where
  read? : String → Option Node
  write : Value → String

def format : Format := ⟨Node.ofText?, Value.toText⟩

end FacetSearch.Yaml
