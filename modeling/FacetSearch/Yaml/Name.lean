import FacetSearch.Text.Decimal
import FacetSearch.Text.Utf8
import FacetSearch.Yaml.Scalar.Quoted
import FacetSearch.Yaml.Token

/-! Names in a document: anchors, aliases, tags, and the directives in front of a document. -/
namespace FacetSearch.Yaml
open Source

/-- The characters of anchors, handles and directives. -/
def isNameChar (c : Char) : Bool := c.isAlphanum || c = '_' || c = '-'

/-- Cuts a name off. -/
def name (s : Source) : String × Source :=
  let here := s.takeWhile fun (c, _) => isNameChar c
  (.ofList (text here), s.drop here.length)

/-- Reads the name of an anchor, which a gap or certain marks have to follow. -/
def anchorName? (s : Source) : Option (String × Source) :=
  let (n, after) := name s
  if n ≠ "" && endsOr (fun c => isInlineBlank c || isLineEnd c ||
      c ∈ ['?', ':', ',', ']', '\x7d', '%', '@', '\x60']) after then some (n, after)
  else none

/-- The characters that tags hold as they are; those in angle brackets may hold three more. -/
def isTagChar (verbatim : Bool) (c : Char) : Bool :=
  isNameChar c ||
    c ∈ [';', '/', '?', ':', '@', '&', '=', '+', '$', '.', '!', '~', '*', '\'', '(', ')'] ||
    (verbatim && c ∈ [',', '[', ']'])

/-- How many bytes follow the first one of an encoded character. -/
def following? (byte : Nat) : Option Nat :=
  if byte < 0x80 then some 0
  else if 0xC0 ≤ byte ∧ byte < 0xE0 then some 1
  else if 0xE0 ≤ byte ∧ byte < 0xF0 then some 2
  else if 0xF0 ≤ byte ∧ byte < 0xF8 then some 3
  else none

/-- Reads the bytes of a tag. A percent sign and two hexadecimal digits stand for a byte, and all
bytes of a character outside ASCII come so; it is told how many are left to come. -/
def tagBytes? (verbatim : Bool) : Nat → Source → Option (List UInt8 × Source)
  | left, ('%', _) :: (a, _) :: (b, _) :: s => do
    let byte := 16 * (← hexDigit? a) + (← hexDigit? b)
    let left ←
      if left = 0 then following? byte
      else if 0x80 ≤ byte ∧ byte < 0xC0 then some (left - 1)
      else none
    (tagBytes? verbatim left s).map (Prod.map (.ofNat byte :: ·) id)
  | 0, (c, p) :: s =>
    if c = '%' then none
    else if isTagChar verbatim c then (tagBytes? verbatim 0 s).map (Prod.map (c.toUInt8 :: ·) id)
    else some ([], (c, p) :: s)
  | 0, [] => some ([], [])
  | _ + 1, _ => none

/-- Reads the bytes of a tag that has some. -/
def someTagBytes? (verbatim : Bool) (s : Source) : Option (List UInt8 × Source) := do
  let (bytes, after) ← tagBytes? verbatim 0 s
  if bytes = [] then none else some (bytes, after)

/-- Reads a tag from behind its exclamation mark: one in angle brackets, one with a handle between
exclamation marks, one without, or the mark alone. -/
def tag? : Source → Option (Token × Source)
  | ('<', _) :: s => do
    match ← someTagBytes? true s with
    | (bytes, ('>', _) :: after) => return (.tag "" bytes, after)
    | _ => none
  | s =>
    match name s with
    | (n, ('!', _) :: s) => do
      let (bytes, after) ← someTagBytes? false s
      return (.tag ("!" ++ n ++ "!") bytes, after)
    | _ => do
      let (bytes, after) ← tagBytes? false 0 s
      return (if bytes = [] then .tag "" ['!'.toUInt8] else .tag "!" bytes, after)

/-- Reads a run of at most nine digits. -/
def number? (s : Source) : Option (Nat × Source) :=
  let digits := text (s.takeWhile fun (c, _) => c.isDigit)
  if digits = [] ∨ 9 < digits.length then none
  else some (Text.Decimal.ofDigits digits, s.drop digits.length)

def version? (s : Source) : Option (Token × Source) := do
  match ← number? s with
  | (major, ('.', _) :: s) => do
    let (minor, after) ← number? s
    return (.version major minor, after)
  | _ => none

/-- Reads a handle and what it stands for. -/
def handle? : Source → Option (Token × Source)
  | ('!', _) :: s => do
    let (n, s) := name s
    let (handle, s) ← match s with
      | ('!', _) :: s => some ("!" ++ n ++ "!", s)
      | s => if n = "" then some ("!", s) else none
    if s.isEmpty || !endsOr isInlineBlank s then none
    else
      let (bytes, after) ← someTagBytes? true (skipInline s)
      if atGap after then some (.handle handle bytes, after) else none
  | _ => none

/-- Reads a directive from behind its percent sign to the end of the line. -/
def directive? (s : Source) : Option (Token × Source) := do
  let (n, s) := name s
  if !atGap s then none
  else
    let (t, s) ←
      if n = "YAML" then version? (skipInline s)
      else if n = "TAG" then handle? (skipInline s)
      else none
    return (t, ← restOfLine? s)

end FacetSearch.Yaml
