import FacetSearch.Text.Basic
import FacetSearch.Text.Utf8

/-! The targets of HTTP requests: a path, and parameters in the form encoding. -/
namespace FacetSearch.Http
open Text

/-- The value of a hexadecimal digit. -/
def hexValue? (byte : UInt8) : Option UInt8 :=
  if '0'.toUInt8 ≤ byte ∧ byte ≤ '9'.toUInt8 then some (byte - '0'.toUInt8)
  else if 'a'.toUInt8 ≤ byte ∧ byte ≤ 'f'.toUInt8 then some (byte - 'a'.toUInt8 + 10)
  else if 'A'.toUInt8 ≤ byte ∧ byte ≤ 'F'.toUInt8 then some (byte - 'A'.toUInt8 + 10)
  else none

/-- Bytes with each percent sign and two digits replaced by what they stand for. A percent sign
without two digits stays. -/
def percentDecode : List UInt8 → List UInt8
  | [] => []
  | [a] => [a]
  | [a, b] => [a, b]
  | a :: b :: c :: rest =>
    if a = '%'.toUInt8 then
      match hexValue? b, hexValue? c with
      | some high, some low => (16 * high + low) :: percentDecode rest
      | _, _ => a :: percentDecode (b :: c :: rest)
    else a :: percentDecode (b :: c :: rest)

/-- One name or value of the form encoding, in which a plus sign is a blank. -/
def formDecode (s : List Char) : String :=
  Utf8.lossy (percentDecode (utf8Bytes (s.map fun c => if c = '+' then ' ' else c)))

/-- The parameters that a query string holds, in order. -/
def formPairs (query : List Char) : List (String × String) :=
  ((query.splitOn '&').filter (· ≠ [])).map fun part =>
    match cutFirst? '=' part with
    | some (name, value) => (formDecode name, formDecode value)
    | none => (formDecode part, "")

/-- Where a request goes to. -/
structure Target where
  path : List Char
  query : List Char

/-- The characters that a path may hold as they are. -/
def isPathChar (c : Char) : Bool :=
  !(c.toNat ≤ 0x20 || c ∈ ['#', '<', '>', '?', '\x60'])

/-- The characters that a query string may hold as they are. -/
def isQueryChar (c : Char) : Bool :=
  !(c.toNat ≤ 0x20 || c ∈ ['"', '#', '<', '>'])

/-- The characters of host names, ports and user names. -/
def isAuthorityChar (c : Char) : Bool :=
  c.isAlphanum || c ∈ ['-', '.', '_', '~', '!', '$', '&', '\'', '(', ')', '*', '+', ',', ';', '=',
    ':', '@', '%', '[', ']']

/-- The characters of schemes. -/
def isSchemeChar (c : Char) : Bool := c.isAlphanum || c ∈ ['+', '-', '.', '~']

/-- Whether a text can be a host with a port behind it and a user before it. Only the user and an
address in brackets may have percent signs or several colons. -/
def isAuthority (s : List Char) : Bool :=
  let stretches := s.splitOnP fun c => c = '@' || c = ']'
  let last := (stretches.getLast?).getD []
  s.all isAuthorityChar && s.getLast? != some '@' &&
    (s.filter fun c => c = '[' || c = ']') ∈ [[], ['[', ']']] &&
    last.count ':' ≤ 1 && last.count '%' = 0 &&
    stretches.all fun t =>
      t.count ':' ≤ 8 && (t.count '[' = 0 || (t.takeWhile (· != '[')).count '%' = 0)

namespace Target

/-- Reads a path and a query string; a number sign ends them. -/
def ofPath? (s : List Char) : Option Target :=
  let whole := s.takeWhile (· != '#')
  let (path, query) := (cutFirst? '?' whole).getD (whole, [])
  if path.all isPathChar && query.all isQueryChar then some ⟨path, query⟩ else none

/-- Reads a host and what follows it. -/
def ofAuthority? (s : List Char) : Option Target :=
  let isEnd (c : Char) : Bool := c = '/' || c = '?' || c = '#'
  let authority := s.takeWhile (!isEnd ·)
  if authority = [] || !isAuthority authority then none
  else (ofPath? (s.dropWhile (!isEnd ·))).map fun t => if t.path = [] then { t with path := ['/'] } else t

/-- Reads a target: a path, a host with a scheme in front, a host alone, or a star. A target has at
most 65534 bytes, and a scheme 64. -/
def ofText? (s : List Char) : Option Target :=
  if 65534 < (utf8Bytes s).length then none
  else match s with
  | [] => none
  | ['*'] => some ⟨s, []⟩
  | '/' :: _ => ofPath? s
  | _ =>
    match s.dropWhile isSchemeChar with
    | ':' :: '/' :: '/' :: rest =>
      if 64 < (s.takeWhile isSchemeChar).length then none else ofAuthority? rest
    | _ => if isAuthority s then some ⟨[], []⟩ else none

end Target
end FacetSearch.Http
