import FacetSearch.Yaml.Source

/-! Scalars as blocks of lines, which are either literal or folded. -/
namespace FacetSearch.Yaml
open Source

/-- How the line ends behind a block are kept. -/
inductive Chomping
  | strip
  | clip
  | keep
  deriving DecidableEq

/-- A line of a block: a blank one, or its text behind the indentation. Only the last line of a
document may have no end. -/
inductive BlockLine
  | blank (lineEnd : Char)
  | content (text lineEnd : List Char)

/-- What stands in front of the next line of a block: the end of the last line with text, whether
that one started with a blank, and the ends of the blank lines since. -/
structure BlockGap where
  lineEnd : List Char := []
  indented : Bool := false
  blanks : List Char := []

/-- What goes between two lines with text, the second perhaps starting with a blank. In a folded
block a single line feed becomes a blank, unless one of the lines starts with a blank. -/
def BlockGap.text (folds indented : Bool) (g : BlockGap) : List Char :=
  if folds && g.lineEnd = ['\n'] && !g.indented && !indented then
    if g.blanks.isEmpty then [' '] else g.blanks
  else g.lineEnd ++ g.blanks

/-- What is kept of the line ends behind a block. -/
def Chomping.apply (g : BlockGap) : Chomping → List Char
  | strip => []
  | clip => g.lineEnd
  | keep => g.lineEnd ++ g.blanks

/-- The text of a block. -/
def blockText (folds : Bool) (chomping : Chomping) (g : BlockGap) : List BlockLine → List Char
  | [] => chomping.apply g
  | .blank e :: ls => blockText folds chomping { g with blanks := g.blanks ++ [e] } ls
  | .content s e :: ls =>
    let indented := s.head?.any isInlineBlank
    g.text folds indented ++ s ++ blockText folds chomping { lineEnd := e, indented } ls

/-- Reads the lines of a block that is indented to the given column. -/
def blockLines? (column : Nat) : List Source → Option (List BlockLine × Source)
  | [] => some ([], [])
  | line :: more =>
    let body := line.dropWhile fun (c, p) => c = ' ' && p.column < column
    match body with
    | [] => some ([], [])
    | (c, p) :: _ =>
      if isLineEnd c then (blockLines? column more).map (Prod.map (.blank c :: ·) id)
      else if column ≤ p.column then
        let content := body.takeWhile fun (c, _) => !isLineEnd c
        let lineEnd := body.drop content.length
        (blockLines? column more).map (Prod.map (.content (text content) (text lineEnd) :: ·) id)
      else if c = '\t' then none
      else some ([], body ++ more.flatten)

/-- The column of a block whose header does not tell it: the longest run of spaces in front of what
its first line with text holds, but no less than the given column. -/
def columnOf? (least : Nat) : List Source → Option Nat
  | [] => some least
  | line :: more =>
    let spaces := (line.takeWhile fun (c, _) => c = ' ').length
    match line.drop spaces with
    | [] => some (max least spaces)
    | (c, _) :: _ =>
      if isLineEnd c then columnOf? (max least spaces) more
      else if c = '\t' then none
      else some (max least spaces)

/-- Whether a character in the header of a block tells how line ends are kept. -/
def isChompingMark (c : Char) : Bool := c = '-' || c = '+'

/-- Whether a character in the header of a block tells its indentation. -/
def isIndentationMark (c : Char) : Bool := c.isDigit && c != '0'

def chompingOf (marks : List Char) : Chomping :=
  match marks.find? isChompingMark with
  | some '-' => .strip
  | some _ => .keep
  | none => .clip

/-- The column of a block by its header, given that of the collection it stands in. -/
def headerColumn? (outer : Nat) (marks : List Char) : Option Nat :=
  (marks.find? isIndentationMark).map fun c => outer + (c.toNat - '0'.toNat)

/-- Reads a block from behind the bar or angle bracket in front of it. -/
def block? (folds : Bool) (outer : Nat) (s : Source) : Option (String × Source) := do
  let marks := text (s.takeWhile fun (c, _) => isChompingMark c || isIndentationMark c)
  let body := lines (← restOfLine? (s.drop marks.length))
  if 1 < marks.countP isChompingMark || 1 < marks.countP isIndentationMark then none
  else
    let column ← (headerColumn? outer marks).or (columnOf? (outer + 1) body)
    let (ls, after) ← blockLines? column body
    return (.ofList (blockText folds (chompingOf marks) {} ls), after)

end FacetSearch.Yaml
