import FacetSearch.Yaml.Scalar.Folding

/-! Plain scalars, which stand without quotes. -/
namespace FacetSearch.Yaml
open Source

/-- The characters that have a meaning of their own between brackets. -/
def isBracketMark (c : Char) : Bool := c ∈ [',', '[', ']', '\x7b', '\x7d']

/-- The characters that no plain scalar starts with. -/
def isReserved (c : Char) : Bool :=
  isBracketMark c || c ∈ ['#', '&', '*', '!', '|', '>', '\'', '"', '%', '@', '\x60']

/-- Whether a plain scalar may start here. -/
def startsPlain (inBrackets : Bool) : Source → Bool
  | [] => false
  | (c, _) :: s =>
    if c = '-' then !atGap s
    else if c = '?' || c = ':' then !inBrackets && !atGap s
    else !(isInlineBlank c || isLineEnd c || isReserved c)

/-- Whether a colon here separates a key from its value. -/
def atColon : Source → Bool
  | (':', _) :: s => atGap s
  | _ => false

/-- Whether a colon runs into a mark, which is an error between brackets. -/
def atStrayColon : Source → Bool
  | (':', _) :: (c, _) :: _ => isBracketMark c || c = '?'
  | _ => false

/-- Whether a line end is among some pieces. -/
def crosses (ps : List Piece) : Bool := ps.any fun p => p matches .lineEnd _

/-- Whether a plain scalar ends here, given what was passed since its last character. Outside
brackets its lines have to be indented to the given column. -/
def endsPlain (inBrackets : Bool) (least : Nat) (gap : List Piece) : Source → Bool
  | [] => true
  | (c, p) :: s =>
    let s := (c, p) :: s
    (!gap.isEmpty && ((!inBrackets && p.column < least) || atBoundary s || c = '#')) ||
      atColon s || (inBrackets && isBracketMark c)

/-- Reads a plain scalar. What was passed since its last character is kept reversed, and belongs to
it only if more of it follows. It is given back whether a line ended behind the scalar. -/
def plain? (inBrackets : Bool) (least : Nat) (gap : List Piece) :
    Source → Option (List Piece × Bool × Source)
  | [] => some ([], crosses gap, [])
  | (c, p) :: s =>
    if isLineEnd c then plain? inBrackets least (.lineEnd c :: gap) s
    else if isInlineBlank c then
      if c = '\t' && crosses gap && p.column < least then none
      else plain? inBrackets least (.blank c :: gap) s
    else if endsPlain inBrackets least gap ((c, p) :: s) then some ([], crosses gap, (c, p) :: s)
    else if inBrackets && atStrayColon ((c, p) :: s) then none
    else (plain? inBrackets least [] s).map (Prod.map (gap.reverse ++ .char c :: ·) id)

end FacetSearch.Yaml
