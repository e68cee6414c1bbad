/-! The tokens of a YAML document. -/
namespace FacetSearch.Yaml

/-- How a scalar is written. -/
inductive Style
  | plain
  | quoted
  | literal
  | folded
  deriving DecidableEq

inductive Token
  /-- The version of the format that a document is written in. -/
  | version (major minor : Nat)
  /-- What the tags with a handle start with. -/
  | handle (name : String) (start : List UInt8)
  | documentStart
  | documentEnd
  | blockSequence
  | blockMapping
  | blockEnd
  | openBracket
  | closeBracket
  | openBrace
  | closeBrace
  | comma
  | dash
  /-- A key follows. -/
  | key
  /-- The value of a key follows. -/
  | value
  | link (name : String)
  | anchor (name : String)
  | tag (handle : String) (suffix : List UInt8)
  | scalar (style : Style) (text : String)
  deriving DecidableEq

end FacetSearch.Yaml
