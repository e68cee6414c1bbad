import FacetSearch.Filter.Forest

/-! The statements of a filter: what stands between its connectives outside parentheses. -/
namespace FacetSearch.Filter

/-- The tokens of a single clause, or those between the parentheses of a group. -/
inductive Body
  | leaf (tokens : List Token)
  | group (inner : List Token)
  deriving DecidableEq

structure Statement where
  /-- The connective before the statement; the first statement has none. -/
  connective : Option Connective
  negated : Bool
  body : Body
  deriving DecidableEq

/-- Opens the parentheses around a whole text one by one, until a connective stands directly inside
them: then they enclose a group. -/
def Body.ofForest : Forest → Body
  | .pair inner .nil =>
    if inner.hasConnective then .group inner.tokens else ofForest inner
  | f => .leaf f.tokens

def Body.ofTokens (ts : List Token) : Body := ofForest (.ofTokens ts)

/-- The statement that a fragment between connectives makes; an empty one makes none. -/
def Statement.ofFragment? : Option Connective × List Token → Option Statement
  | (_, []) => none
  | (_, [.negation]) => none
  | (k, .negation :: ts) => some ⟨k, true, .ofTokens ts⟩
  | (k, ts) => some ⟨k, false, .ofTokens ts⟩

/-- The number of open parentheses behind a token; one that closes nothing changes none. -/
def Token.depthAfter : Token → Nat → Nat
  | opening, n => n + 1
  | closing, n => n - 1
  | _, n => n

/-- The tokens up to the first connective outside parentheses, and the fragments behind it, each
with the connective before it. The number counts the open parentheses. -/
def fragments : Nat → List Token → List Token × List (Option Connective × List Token)
  | _, [] => ([], [])
  | 0, .connective k :: ts =>
    let (first, more) := fragments 0 ts
    ([], (some k, first) :: more)
  | n, t :: ts =>
    let (first, more) := fragments (t.depthAfter n) ts
    (t :: first, more)

/-- The list with no connective on its first statement. -/
def Statement.leading : List Statement → List Statement
  | [] => []
  | s :: ss => { s with connective := none } :: ss

/-- The statements of a token list. Of several connectives in a row the last one counts. -/
def statements (ts : List Token) : List Statement :=
  let (first, more) := fragments 0 ts
  Statement.leading (((none, first) :: more).filterMap Statement.ofFragment?)

end FacetSearch.Filter
