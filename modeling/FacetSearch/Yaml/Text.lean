import FacetSearch.Text.Basic
import FacetSearch.Yaml.Source
import FacetSearch.Yaml.Value

/-! Writing documents in block style. -/
namespace FacetSearch.Yaml

/-- The characters that can stand for themselves in a scalar. -/
def isVisible (c : Char) : Bool :=
  let n := c.toNat
  c = '\n' || (0x20 ≤ n && n ≤ 0x7E) ||
    (0xA0 ≤ n && n ≠ 0xFEFF && n ≠ 0xFFFE && n ≠ 0xFFFF)

/-- The words that readers may take for something else than a text. -/
def ambiguousWords : List String :=
  ["", "~", "null", "nil", "nan", "true", "false", "yes", "no", "on", "off", "y", "n"]

/-- Whether a text without quotes could be read as something else than a text, or looks like it. -/
def isAmbiguous (s : List Char) : Bool :=
  s.head?.any (fun c => c.isDigit || c ∈ ['-', '.', '+']) ||
    ambiguousWords.contains (.ofList (s.map Char.toLower))

def isGap (c : Char) : Bool := isInlineBlank c || isLineEnd c

/-- Whether a text, taken from behind the given character, holds a mark that ends a plain scalar. -/
def hasInnerMark : Char → List Char → Bool
  | _, [] => false
  | before, c :: s =>
    (c = '#' && isGap before) || (c = ':' && s.head?.all isGap) || hasInnerMark c s

/-- Whether the first character of a text has a meaning of its own. -/
def hasLeadingMark : List Char → Bool
  | [] => false
  | c :: s =>
    c ∈ ['#', ',', '[', ']', '\x7b', '\x7d', '&', '*', '!', '|', '>', '\'', '"', '%', '@', '\x60'] ||
      (c ∈ ['?', ':', '-'] && s.head?.all isGap) ||
      ['-', '-', '-'].isPrefixOf (c :: s) || ['.', '.', '.'].isPrefixOf (c :: s)

/-- Whether two neighbours are a blank and a line end, in the order given by the two conditions. -/
def hasNeighbours (p q : Char → Bool) (s : List Char) : Bool :=
  (s.zip (s.drop 1)).any fun (c, d) => p c && q d

/-- Whether a text has to be written with escapes. -/
def needsEscapes (s : List Char) : Bool :=
  !s.all isVisible || hasNeighbours (· = ' ') isLineEnd s

/-- Whether a text can stand without quotes. -/
def isPlain (s : List Char) : Bool :=
  !isAmbiguous s && !needsEscapes s && !s.any isLineEnd && !hasLeadingMark s &&
    !(s.head?.any fun c => hasInnerMark c (s.drop 1)) && s.head? != some ' ' && s.getLast? != some ' '

/-- Whether a text can stand between single quotes. -/
def isQuotable (s : List Char) : Bool := !needsEscapes s && !hasNeighbours isLineEnd (· = ' ') s

/-- Whether a text is written as a literal block: one of several lines that needs no escapes. -/
def isLiteral (s : List Char) : Bool :=
  s.contains '\n' && !needsEscapes s && s.getLast? != some ' '

def hexPadded (width n : Nat) : List Char :=
  let digits := (Nat.toDigits 16 n).map Char.toUpper
  List.replicate (width - digits.length) '0' ++ digits

/-- A character between double quotes. -/
def escaped (c : Char) : List Char :=
  match c with
  | '\x00' => ['\\', '0']
  | '\x07' => ['\\', 'a']
  | '\x08' => ['\\', 'b']
  | '\t' => ['\\', 't']
  | '\n' => ['\\', 'n']
  | '\x0b' => ['\\', 'v']
  | '\x0c' => ['\\', 'f']
  | '\r' => ['\\', 'r']
  | '\x1b' => ['\\', 'e']
  | '"' => ['\\', '"']
  | '\\' => ['\\', '\\']
  | '\u0085' => ['\\', 'N']
  | '\u2028' => ['\\', 'L']
  | '\u2029' => ['\\', 'P']
  | c =>
    if isVisible c then [c]
    else if c.toNat ≤ 0xFF then '\\' :: 'x' :: hexPadded 2 c.toNat
    else if c.toNat ≤ 0xFFFF then '\\' :: 'u' :: hexPadded 4 c.toNat
    else '\\' :: 'U' :: hexPadded 8 c.toNat

def doubleQuoted (s : List Char) : List Char := '"' :: s.flatMap escaped ++ ['"']

def margin (column : Nat) : List Char := List.replicate column ' '

/-- A text whose lines, the first one apart, are indented to a column, blank ones excepted. The flag
tells whether a line end comes before it. -/
def indented (column : Nat) (atStart : Bool) : List Char → List Char
  | [] => []
  | c :: s =>
    if isLineEnd c then c :: indented column true s
    else (if atStart then margin column else []) ++ c :: indented column false s

/-- A text between single quotes. A line end in front of the closing one is followed by a margin. -/
def singleQuoted (column : Nat) (s : List Char) : List Char :=
  '\'' :: indented column false (Text.doubled '\'' s ++ ['\''])

/-- How a literal block says what line ends stand behind it. -/
def chompingMark (s : List Char) : List Char :=
  match s.reverse with
  | [] => ['-']
  | [c] => if isLineEnd c then ['+'] else ['-']
  | c :: d :: _ => if !isLineEnd c then ['-'] else if isLineEnd d then ['+'] else []

/-- The header of a literal block; where its text starts with a blank or a line end, the indentation
is told. -/
def literalHeader (s : List Char) : List Char :=
  '|' :: (if s.head?.any fun c => c = ' ' || isLineEnd c then ['2'] else []) ++ chompingMark s

/-- The text of a scalar whose further lines, if it has some, start at the given column. -/
def scalarText (column : Nat) (s : List Char) : List Char :=
  if isLiteral s then literalHeader s ++ '\n' :: indented column true s
  else if !s.contains '\n' && isPlain s then s
  else if !s.contains '\n' && isQuotable s then singleQuoted column s
  else doubleQuoted s

/-- Ends a line, unless it is ended. -/
def endLine (s : List Char) : List Char :=
  if s.getLast?.any isLineEnd then s else s ++ ['\n']

/-- Whether a key can stand in front of its colon on one line. -/
def isSimpleKey (key : String) : Bool :=
  !key.toList.any isLineEnd && key.utf8ByteSize ≤ 128

/-- What stands behind a colon or a dash if it is short: a scalar, or brackets with nothing in. -/
def Value.inline? (column : Nat) : Value → Option (List Char)
  | null => some "null".toList
  | bool b => some (if b then "true" else "false").toList
  | string s => some (scalarText column s.toList)
  | sequence [] => some ['[', ']']
  | mapping [] => some ['\x7b', '\x7d']
  | _ => none

namespace Value

mutual
/-- The text of a collection that starts at a column, the first line of it behind the given lead. -/
def blockText (column : Nat) (lead : List Char) : Value → List Char
  | sequence items => itemsText column lead items
  | mapping entries => entriesText column lead entries
  | v => endLine (lead ++ (v.inline? column).getD [])

/-- The text of items behind their dashes. An item that is a collection starts on the same line. -/
def itemsText (column : Nat) (lead : List Char) : List Value → List Char
  | [] => []
  | v :: vs =>
    (match v.inline? (column + 2) with
      | some s => endLine (lead ++ '-' :: ' ' :: s)
      | none => v.blockText (column + 2) (lead ++ ['-', ' '])) ++
    itemsText column (margin column) vs

/-- The text of entries. A collection follows its key on lines of its own, a sequence in the column
of the key and a mapping further in. A key that does not stand in front of its colon has a question
mark, and what it leads to starts behind the colon on the next line. -/
def entriesText (column : Nat) (lead : List Char) : List (String × Value) → List Char
  | [] => []
  | (key, v) :: entries =>
    let keyText := scalarText (column + 2) key.toList
    (if isSimpleKey key then
      match v.inline? (column + 2) with
      | some s => endLine (lead ++ keyText ++ ':' :: ' ' :: s)
      | none =>
        let inner := if v matches .sequence _ then column else column + 2
        lead ++ keyText ++ ':' :: '\n' :: v.blockText inner (margin inner)
    else
      endLine (lead ++ '?' :: ' ' :: keyText) ++
        match v.inline? (column + 2) with
        | some s => endLine (margin column ++ ':' :: ' ' :: s)
        | none => v.blockText (column + 2) (margin column ++ [':', ' '])) ++
    entriesText column (margin column) entries
end

/-- The text of a document. -/
def toText (v : Value) : String :=
  .ofList (match v.inline? 2 with
    | some s => endLine s
    | none => v.blockText 0 [])

end Value
end FacetSearch.Yaml
