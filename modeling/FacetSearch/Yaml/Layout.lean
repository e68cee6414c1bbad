import FacetSearch.Yaml.Name
import FacetSearch.Yaml.Scalar.Block
import FacetSearch.Yaml.Scalar.Plain

/-!
The layout of a document: how indentation and marks turn its characters into tokens.

Blocks are opened and closed by the columns of their keys and dashes. A key in front of a colon is
known as one only at the colon, so the place where the last possible key started is kept.
-/
namespace FacetSearch.Yaml

/-- Where a key may have started: after how many tokens, and at which place. Where nothing but a key
can stand, its colon is required. -/
structure Candidate where
  index : Nat
  place : Place
  required : Bool

/-- A text read so far: its tokens with the latest first, the columns of the open blocks with the
innermost first, and the possible key inside the innermost brackets and inside each outer ones. -/
structure Layout where
  tokens : List Token := []
  columns : List Nat := []
  candidate : Option Candidate := none
  outer : List (Option Candidate) := []
  keyAllowed : Bool := true

namespace Layout

def inBrackets (l : Layout) : Bool := !l.outer.isEmpty

def push (l : Layout) (t : Token) : Layout := { l with tokens := t :: l.tokens }

def allowKey (l : Layout) (keyAllowed : Bool) : Layout := { l with keyAllowed }

/-- Puts a token behind as many of the first ones as the index says. -/
def insert (l : Layout) (index : Nat) (t : Token) : Layout :=
  { l with tokens := l.tokens.insertIdx (l.tokens.length - index) t }

/-- Opens a block at a column, unless one is open there. Brackets hold no blocks. -/
def openBlock (l : Layout) (column index : Nat) (t : Token) : Layout :=
  if !l.inBrackets && l.columns.head?.all (· < column) then
    { l with columns := column :: l.columns }.insert index t
  else l

/-- Closes the innermost blocks as long as their columns are such. -/
def closeBlocks (l : Layout) (closes : Nat → Bool) : Layout :=
  if l.inBrackets then l
  else
    { l with
      tokens := (l.columns.takeWhile closes).map (fun _ => .blockEnd) ++ l.tokens
      columns := l.columns.dropWhile closes }

/-- Gives the possible key up, which must not be required. -/
def dropCandidate? (l : Layout) : Option Layout :=
  if l.candidate.any (·.required) then none else some { l with candidate := none }

/-- Gives up the possible keys that the given place is too far from: a key stands on one line, and
is at most 1024 bytes long. -/
def dropStale? (l : Layout) (p : Place) : Option Layout :=
  let isStale (k : Candidate) : Bool :=
    k.place.line < p.line || k.place.bytes + 1024 < p.bytes
  if (l.candidate :: l.outer).any fun k => k.any fun k => isStale k && k.required then none
  else
    let fresh (k : Option Candidate) : Option Candidate := k.filter (!isStale ·)
    some { l with candidate := fresh l.candidate, outer := l.outer.map fresh }

/-- Notes that a key may start at a place. -/
def mayStartKey? (l : Layout) (p : Place) : Option Layout :=
  if !l.keyAllowed then some l
  else do
    let l ← l.dropCandidate?
    let required := !l.inBrackets && l.columns.head? = some p.column
    return { l with candidate := some ⟨l.tokens.length, p, required⟩ }

/-- Enters brackets, inside which anything may be a key. -/
def enter? (l : Layout) (p : Place) (t : Token) : Option Layout := do
  let l ← l.mayStartKey? p
  return { l with outer := l.candidate :: l.outer, candidate := none, keyAllowed := true }.push t

/-- Leaves the innermost brackets. -/
def leave? (l : Layout) (t : Token) : Option Layout := do
  let l ← l.dropCandidate?
  let l := match l.outer with
    | [] => l
    | k :: outer => { l with candidate := k, outer }
  return (l.allowKey false).push t

def comma? (l : Layout) : Option Layout := do
  return ((← l.dropCandidate?).allowKey true).push .comma

/-- A dash or question mark outside brackets stands where a key can, and opens a block. -/
def openItem? (l : Layout) (p : Place) (t : Token) : Option Layout :=
  if l.inBrackets then some l
  else if l.keyAllowed then some (l.openBlock p.column l.tokens.length t)
  else none

def dash? (l : Layout) (p : Place) : Option Layout := do
  let l ← l.openItem? p .blockSequence
  return ((← l.dropCandidate?).allowKey true).push .dash

def questionMark? (l : Layout) (p : Place) : Option Layout := do
  let l ← l.openItem? p .blockMapping
  return ((← l.dropCandidate?).allowKey !l.inBrackets).push .key

/-- A colon makes a key of what may be one. -/
def colon? (l : Layout) (p : Place) : Option Layout :=
  match l.candidate with
  | some k =>
    let l := (l.insert k.index .key).openBlock k.place.column k.index .blockMapping
    some ({ l with candidate := none, keyAllowed := false }.push .value)
  | none => do
    let l ← l.openItem? p .blockMapping
    return (l.allowKey !l.inBrackets).push .value

/-- A directive or the marker of a document closes all blocks. -/
def boundary? (l : Layout) (t : Token) : Option Layout := do
  let l ← (l.closeBlocks fun _ => true).dropCandidate?
  return (l.allowKey false).push t

/-- A token that may be a key or the start of one. -/
def leaf? (l : Layout) (p : Place) (t : Token) : Option Layout := do
  return ((← l.mayStartKey? p).allowKey false).push t

/-- The least column of the lines of a scalar in the innermost block. -/
def least (l : Layout) : Nat :=
  match l.columns with
  | [] => 0
  | column :: _ => column + 1

/-- Reads a scalar in quotes. -/
def quoted? (l : Layout) (p : Place) (read : Option (List Piece × Source)) :
    Option (Layout × Source) := do
  let (ps, after) ← read
  return (← l.leaf? p (.scalar .quoted (folded ps)), after)

/-- Reads a plain scalar; behind a line end a key can start again. -/
def plainScalar? (l : Layout) (p : Place) (s : Source) : Option (Layout × Source) := do
  let (ps, crossed, after) ← plain? l.inBrackets l.least [] s
  let l ← l.leaf? p (.scalar .plain (folded ps))
  return (l.allowKey crossed, after)

/-- Reads a scalar as a block of lines. -/
def blockScalar? (l : Layout) (style : Style) (s : Source) : Option (Layout × Source) := do
  let (text, after) ← block? (style = .folded) (l.columns.head?.getD 0) s
  return (((← l.dropCandidate?).allowKey true).push (.scalar style text), after)

/-- Reads the tag that starts here; between brackets a comma may follow it. -/
def tagged? (l : Layout) (p : Place) (s : Source) : Option (Layout × Source) := do
  let (t, after) ← tag? s
  if Source.atGap after || (l.inBrackets && after.head?.any (·.1 = ',')) then
    return (← l.leaf? p t, after)
  else none

/-- Reads the token that starts here. -/
def next? (l : Layout) : Source → Option (Layout × Source)
  | [] => none
  | (c, p) :: s =>
    let here := (c, p) :: s
    let go (l : Option Layout) : Option (Layout × Source) := l.map (·, s)
    let isMark := l.inBrackets || Source.atGap s
    if c = '%' && p.column = 0 then do
      let (t, after) ← directive? s
      return (← l.boundary? t, after)
    else if Source.atMarker '-' here then (l.boundary? .documentStart).map (·, s.drop 2)
    else if Source.atMarker '.' here then (l.boundary? .documentEnd).map (·, s.drop 2)
    else if c = '[' then go (l.enter? p .openBracket)
    else if c = '\x7b' then go (l.enter? p .openBrace)
    else if c = ']' then go (l.leave? .closeBracket)
    else if c = '\x7d' then go (l.leave? .closeBrace)
    else if c = ',' then go l.comma?
    else if c = '-' && Source.atGap s then go (l.dash? p)
    else if c = '?' && isMark then go (l.questionMark? p)
    else if c = ':' && isMark then go (l.colon? p)
    else if c = '*' then do
      let (name, after) ← anchorName? s
      return (← l.leaf? p (.link name), after)
    else if c = '&' then do
      let (name, after) ← anchorName? s
      return (← l.leaf? p (.anchor name), after)
    else if c = '!' then l.tagged? p s
    else if c = '|' && !l.inBrackets then l.blockScalar? .literal s
    else if c = '>' && !l.inBrackets then l.blockScalar? .folded s
    else if c = '\'' then l.quoted? p (singleQuoted? s)
    else if c = '"' then l.quoted? p (doubleQuoted? none s)
    else if startsPlain l.inBrackets here then l.plainScalar? p here
    else none

/-- Reads all tokens. Each one takes a character at least, which bounds the number of steps. -/
def run? : Nat → Layout → Source → Option Layout
  | 0, _, _ => none
  | steps + 1, l, s =>
    let (keyAllowed, s) := Source.toToken l.inBrackets l.keyAllowed false s
    let l := l.allowKey keyAllowed
    match s with
    | [] => (l.closeBlocks fun _ => true).dropCandidate?
    | (_, p) :: _ => do
      let l ← l.dropStale? p
      let (l, s) ← (l.closeBlocks (p.column < ·)).next? s
      l.run? steps s

end Layout

/-- The tokens of a text. -/
def Token.ofText? (text : String) : Option (List Token) := do
  let s ← Source.ofText? text.toList
  let l ← Layout.run? (s.length + 1) {} s
  return l.tokens.reverse

end FacetSearch.Yaml
