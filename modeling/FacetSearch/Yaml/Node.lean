import FacetSearch.Yaml.Layout
import FacetSearch.Yaml.Tree

/-!
What can be read off the nodes of a document. Aliases are followed on the way, but only so many
times, so that a short document cannot stand for a huge value.
-/
namespace FacetSearch.Yaml

/-- A node of a document and the nodes that its aliases stand for. -/
structure Node where
  tree : Tree
  anchored : List (Nat × Tree) := []

/-- Readers of nodes, which may fail. The state is how many more aliases may be followed. -/
abbrev Reader := StateT Nat Option

namespace Node

/-- Reads a text that holds one document. Of the nodes with one number the last is meant. -/
def ofText? (text : String) : Option Node := do
  let tree ← Tree.ofTokens? (← Token.ofText? text)
  return ⟨tree, tree.anchored.reverse⟩

/-- Reads a whole document, following a hundred aliases for each part of it. -/
def read? {α : Type} (read : Node → Reader α) (v : Node) : Option α :=
  (read v).run' (100 * v.tree.size)

/-- The node itself, or what it is an alias of. -/
def target (v : Node) : Reader Tree := fun aliases =>
  match v.tree, aliases with
  | .link _, 0 => none
  | .link anchor, aliases + 1 => (v.anchored.lookup anchor).map (·, aliases)
  | tree, aliases => some (tree, aliases)

def scalar (v : Node) : Reader Scalar := do
  match ← v.target with
  | .scalar _ s => return s
  | _ => failure

/-- Any scalar can be read as a text. -/
def text (v : Node) : Reader String := do return (← v.scalar).text

def nullWords : List String := ["~", "null", "Null", "NULL"]

/-- Whether a plain scalar without a tag stands for the absence of a value. -/
def isNullText (s : String) : Bool := s = "" || nullWords.contains s

/-- Booleans are plain words, or literal blocks with their tag. -/
def bool (v : Node) : Reader Bool := do
  let s ← v.scalar
  if s.style = .plain || (s.style = .literal && s.tag = some "tag:yaml.org,2002:bool") then
    if ["true", "True", "TRUE"].contains s.text then return true
    else if ["false", "False", "FALSE"].contains s.text then return false
    else failure
  else failure

/-- Reads a value that may be absent. Quotes and tags other than that of null make it present. -/
def optional {α : Type} (read : Node → Reader α) (v : Node) : Reader (Option α) := do
  let tree ← v.target
  let present := some <$> read { v with tree }
  match tree with
  | .scalar _ ⟨.plain, none, s⟩ => if isNullText s then return none else present
  | .scalar _ ⟨.plain, some "tag:yaml.org,2002:null", s⟩ =>
    if nullWords.contains s then return none else failure
  | _ => present

/-- The word that a node chooses: its text, or a tag of its own with no text. -/
def choice (v : Node) : Reader String := do
  let s ← v.scalar
  match s.tag.map String.toList with
  | some ('!' :: word) => if s.style = .plain && isNullText s.text then return .ofList word else failure
  | _ => return s.text

/-- The items of a sequence; a missing node has none. -/
def items (v : Node) : Reader (List Node) := do
  match ← v.target with
  | .sequence _ items => return items.map fun tree => { v with tree }
  | tree => if tree.isMissing then return [] else failure

/-- The entries of a mapping; a missing node has none. -/
def entries (v : Node) : Reader (List (Node × Node)) := do
  match ← v.target with
  | .mapping _ entries => return entries.map fun (key, tree) => ({ v with tree := key }, { v with tree })
  | tree => if tree.isMissing then return [] else failure

end Node

/-- The entries of a mapping that are read by their keys. -/
abbrev Fields := List (String × Node)

/-- The entries of a mapping in which no known key comes twice. -/
def Node.fields (known : List String) (v : Node) : Reader Fields := do
  let fields ← (← v.entries).mapM fun (key, v) => do return (← key.text, v)
  let keys := fields.map (·.1)
  if known.all fun key => keys.count key ≤ 1 then return fields else failure

/-- Reads a field that may be left out. -/
def Fields.get {α : Type} (fields : Fields) (name : String) (default : α) (read : Node → Reader α) :
    Reader α :=
  match fields.lookup name with
  | none => return default
  | some v => read v

end FacetSearch.Yaml
