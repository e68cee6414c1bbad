import FacetSearch.Text.Basic

/-! The text of a YAML document as characters that know their places. -/
namespace FacetSearch.Yaml

/-- A line and a column, both counted from zero, and how many bytes of the line come before. -/
structure Place where
  line : Nat := 0
  column : Nat := 0
  bytes : Nat := 0
  deriving DecidableEq

/-- What is left of a text, each character with its place. -/
abbrev Source := List (Char × Place)

/-- Whether a character ends a line. -/
def isLineEnd (c : Char) : Bool :=
  c = '\n' || c = '\r' || c.toNat = 0x85 || c.toNat = 0x2028 || c.toNat = 0x2029

def isInlineBlank (c : Char) : Bool := c = ' ' || c = '\t'

/-- The characters that a document may hold. -/
def isAllowed (c : Char) : Bool :=
  let n := c.toNat
  c = '\t' || c = '\n' || c = '\r' || (0x20 ≤ n && n ≤ 0x7E) || n = 0x85 ||
    (0xA0 ≤ n && n ≠ 0xFFFE && n ≠ 0xFFFF)

/-- The text with its line ends written as line feeds, but for the two separators of Unicode, which
stay apart from one another. -/
def unifyLineEnds : List Char → List Char
  | '\r' :: '\n' :: s => '\n' :: unifyLineEnds s
  | '\r' :: s => '\n' :: unifyLineEnds s
  | c :: s => (if c.toNat = 0x85 then '\n' else c) :: unifyLineEnds s
  | [] => []

namespace Source

/-- The place behind a character. -/
def after (c : Char) (p : Place) : Place :=
  if isLineEnd c then { line := p.line + 1 }
  else { p with column := p.column + 1, bytes := p.bytes + c.utf8Size }

/-- Gives each character its place, the first one the given place. -/
def place (p : Place) : List Char → Source
  | [] => []
  | c :: s => (c, p) :: place (after c p) s

def ofText? (s : List Char) : Option Source :=
  if s.all isAllowed then some (place {} (unifyLineEnds s)) else none

/-- The characters without their places. -/
def text (s : Source) : List Char := s.map (·.1)

/-- Whether the text is over or one of some characters comes next. -/
def endsOr (p : Char → Bool) : Source → Bool
  | [] => true
  | (c, _) :: _ => p c

def atLineEnd (s : Source) : Bool := s.endsOr isLineEnd

/-- Whether a blank, a line end or the end of the text comes next. -/
def atGap (s : Source) : Bool := s.endsOr fun c => isInlineBlank c || isLineEnd c

/-- Passes over the blanks of the line. -/
def skipInline (s : Source) : Source := s.dropWhile fun (c, _) => isInlineBlank c

/-- Passes over the rest of the line, with its end, if it holds nothing but blanks and a comment. -/
def restOfLine? (s : Source) : Option Source :=
  let s := skipInline s
  let s := if s.head?.any (·.1 = '#') then s.dropWhile fun (c, _) => !isLineEnd c else s
  if atLineEnd s then some (s.drop 1) else none

/-- Whether a marker of three such characters starts the line. -/
def atMarker (mark : Char) : Source → Bool
  | (a, p) :: (b, _) :: (c, _) :: s => p.column = 0 && a = mark && b = mark && c = mark && atGap s
  | _ => false

/-- Whether a document starts or ends here. -/
def atBoundary (s : Source) : Bool := s.atMarker '-' || s.atMarker '.'

/-- Passes over blanks, line ends, comments and byte order marks at the start of a line, to the next
token. Tabs count as blanks only where no key can start: a key needs to be indented by spaces. It is
given back whether a key can start here, as it can on a new line outside brackets. -/
def toToken (inBrackets keyAllowed comment : Bool) : Source → Bool × Source
  | [] => (keyAllowed, [])
  | (c, p) :: s =>
    if isLineEnd c then toToken inBrackets (keyAllowed || !inBrackets) false s
    else if comment || c = ' ' || (c = '\t' && (inBrackets || !keyAllowed)) ||
        (c = '\uFEFF' && p.column = 0) then toToken inBrackets keyAllowed comment s
    else if c = '#' then toToken inBrackets keyAllowed true s
    else (keyAllowed, (c, p) :: s)

/-- Takes the lines of a text apart, each with its end. -/
def lines : Source → List Source
  | [] => []
  | (c, p) :: s =>
    if isLineEnd c then [(c, p)] :: lines s
    else match lines s with
      | [] => [[(c, p)]]
      | line :: more => ((c, p) :: line) :: more

theorem flatten_lines (s : Source) : s.lines.flatten = s := by
  induction s with
  | nil => rfl
  | cons a s ih =>
    obtain ⟨c, p⟩ := a
    unfold lines
    split
    · simp [ih]
    · split
      · next h => simp [h] at ih; simp [← ih]
      · next line more h => simp [h] at ih; simp [← ih]

end Source
end FacetSearch.Yaml
