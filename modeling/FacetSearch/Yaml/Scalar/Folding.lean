import FacetSearch.Yaml.Source

/-! The pieces of a scalar that runs over several lines, and how the lines are joined. -/
namespace FacetSearch.Yaml

/-- A piece of a scalar as it is written. -/
inductive Piece
  | char (c : Char)
  /-- A blank that vanishes next to a line end. -/
  | blank (c : Char)
  | lineEnd (c : Char)
  /-- A line end that joins its lines without a blank. -/
  | joint

/-- What came since the last character: blanks, or line ends, the first of them perhaps a joint. -/
inductive Gap
  | blanks (reversed : List Char)
  | lineEnds (first : Char) (reversed : List Char)
  | joined (reversed : List Char)

/-- A single line feed folds into a blank, and more of them lose the first; other line ends stay. -/
def Gap.text : Gap → List Char
  | blanks bs => bs.reverse
  | lineEnds first more =>
    if first != '\n' then first :: more.reverse
    else if more.isEmpty then [' ']
    else more.reverse
  | joined more => more.reverse

def Gap.addBlank (c : Char) : Gap → Gap
  | blanks bs => blanks (c :: bs)
  | g => g

def Gap.addLineEnd (c : Char) : Gap → Gap
  | blanks _ => lineEnds c []
  | lineEnds first more => lineEnds first (c :: more)
  | joined more => joined (c :: more)

/-- The text of a scalar, its lines folded. -/
def fold : Gap → List Piece → List Char
  | g, [] => g.text
  | g, .char c :: ps => g.text ++ c :: fold (.blanks []) ps
  | g, .blank c :: ps => fold (g.addBlank c) ps
  | g, .lineEnd c :: ps => fold (g.addLineEnd c) ps
  | g, .joint :: ps => g.text ++ fold (.joined []) ps

def folded (ps : List Piece) : String := .ofList (fold (.blanks []) ps)

/-- The piece that a character without special meaning makes. -/
def Piece.ofChar (c : Char) : Piece :=
  if isLineEnd c then lineEnd c else if isInlineBlank c then blank c else char c

end FacetSearch.Yaml
