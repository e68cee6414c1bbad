import FacetSearch.Filter.Token.Basic

/-! Token lists as nested parentheses, read off in one pass. -/
namespace FacetSearch.Filter

/-- A list of tokens with its matched parentheses as pairs. A parenthesis without a partner is a
token like any other. -/
inductive Forest
  | nil
  | token (t : Token) (rest : Forest)
  | pair (inner rest : Forest)

namespace Forest

def append : Forest → Forest → Forest
  | nil, g => g
  | token t f, g => token t (f.append g)
  | pair i f, g => pair i (f.append g)

/-- The state of reading from the right: what was read since the leftmost closing parenthesis that
still lacks a partner, and, for each of these, what stands behind it. -/
abbrev Pending := Forest × List Forest

/-- Reads one more token on the left. -/
def consToken : Token → Pending → Pending
  | .closing, (f, behind) => (nil, f :: behind)
  | .opening, (f, rest :: behind) => (pair f rest, behind)
  | t, (f, behind) => (token t f, behind)

/-- Ends the reading: the closing parentheses that lack a partner stay as tokens. -/
def finish : Forest → List Forest → Forest
  | f, [] => f
  | f, rest :: behind => f.append (token .closing (finish rest behind))

def ofTokens (ts : List Token) : Forest :=
  let (f, behind) := ts.foldr consToken (nil, [])
  finish f behind

/-- Writes the tokens of a forest before others. -/
def tokensBefore : Forest → List Token → List Token
  | nil, ts => ts
  | token t f, ts => t :: f.tokensBefore ts
  | pair i f, ts => .opening :: i.tokensBefore (.closing :: f.tokensBefore ts)

def tokens (f : Forest) : List Token := f.tokensBefore []

/-- Whether a connective stands outside all pairs. -/
def hasConnective : Forest → Bool
  | nil => false
  | token t f => t.connective?.isSome || f.hasConnective
  | pair _ f => f.hasConnective

end Forest
end FacetSearch.Filter
