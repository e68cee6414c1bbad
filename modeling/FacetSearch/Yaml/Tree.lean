import FacetSearch.Yaml.Token
import FacetSearch.Text.Utf8

/-!
The nodes of a document as they are written, read from its tokens.

Every reader takes a bound on the number of steps; a step enters a node or passes over a token, so a
small multiple of the number of tokens is enough.
-/
namespace FacetSearch.Yaml

structure Scalar where
  style : Style
  tag : Option String
  text : String
  deriving DecidableEq

/-- A node as it is written. An anchor is known by a number, and an alias stands for the node with
its number. -/
inductive Tree
  | scalar (anchor : Option Nat) (s : Scalar)
  | sequence (anchor : Option Nat) (items : List Tree)
  | mapping (anchor : Option Nat) (entries : List (Tree × Tree))
  | link (anchor : Nat)
  deriving Inhabited

namespace Tree

/-- What stands where a node is left out. -/
def missing : Tree := scalar none ⟨.plain, none, ""⟩

/-- Whether nothing at all stands in the place of a node, an anchor and a tag apart. -/
def isMissing : Tree → Bool
  | scalar _ s => s.style = .plain && s.text = ""
  | _ => false

mutual
/-- The number of parts of a tree: a collection has a part at either end. -/
def size : Tree → Nat
  | sequence _ items => 2 + sizeItems items
  | mapping _ entries => 2 + sizeEntries entries
  | scalar .. => 1
  | link _ => 1

def sizeItems : List Tree → Nat
  | [] => 0
  | v :: vs => v.size + sizeItems vs

def sizeEntries : List (Tree × Tree) → Nat
  | [] => 0
  | (key, v) :: entries => key.size + v.size + sizeEntries entries
end

mutual
/-- The nodes with an anchor, in the order in which they start. -/
def anchored : Tree → List (Nat × Tree)
  | scalar anchor s => anchor.toList.map (·, scalar anchor s)
  | sequence anchor items => anchor.toList.map (·, sequence anchor items) ++ anchoredItems items
  | mapping anchor entries =>
    anchor.toList.map (·, mapping anchor entries) ++ anchoredEntries entries
  | link _ => []

def anchoredItems : List Tree → List (Nat × Tree)
  | [] => []
  | v :: vs => v.anchored ++ anchoredItems vs

def anchoredEntries : List (Tree × Tree) → List (Nat × Tree)
  | [] => []
  | (key, v) :: entries => key.anchored ++ v.anchored ++ anchoredEntries entries
end

/-- What a reader has before it: the tokens to come, and the anchors so far with their numbers. -/
structure Rest where
  tokens : List Token
  anchors : List (String × Nat) := []

/-- Readers of tokens, which may fail. -/
abbrev Reading := StateT Rest Option

/-- Passes over a token if it comes next. -/
def accept (t : Token) : Reading Bool := fun r =>
  match r.tokens with
  | t' :: ts => if t' = t then some (true, { r with tokens := ts }) else some (false, r)
  | [] => some (false, r)

/-- Passes over a token that has to come next. -/
def expect (t : Token) : Reading Unit := do
  if !(← accept t) then failure

/-- Whether one of some tokens comes next. -/
def comes (ts : List Token) : Reading Bool := fun r => some (r.tokens.head?.any ts.contains, r)

/-- What stands in front of a node. -/
structure Properties where
  anchor : Option String := none
  tag : Option (String × List UInt8) := none

/-- Takes off an anchor and a tag, in either order. -/
def properties : List Token → Properties × List Token
  | .anchor a :: .tag handle suffix :: ts => (⟨a, (handle, suffix)⟩, ts)
  | .tag handle suffix :: .anchor a :: ts => (⟨a, (handle, suffix)⟩, ts)
  | .anchor a :: ts => (⟨a, none⟩, ts)
  | .tag handle suffix :: ts => (⟨none, (handle, suffix)⟩, ts)
  | ts => ({}, ts)

/-- What the handles of tags stand for. -/
abbrev Handles := List (String × List UInt8)

/-- The text of a tag, which is empty if its bytes are no text. -/
def tagText? (handles : Handles) (handle : String) (suffix : List UInt8) : Option String := do
  let start ← if handle = "" then some [] else handles.lookup handle
  return (Text.Utf8.strict? (start ++ suffix)).getD ""

/-- Gives an anchor its number, which is that of the anchors so far. A name that comes again is
counted once. -/
def number (anchors : List (String × Nat)) (name : String) : List (String × Nat) :=
  (name, anchors.length) :: anchors.filter (·.1 != name)

/-- Reads the properties of a node. -/
def readProperties (handles : Handles) : Reading (Option Nat × Option String) := fun r => do
  let (ps, tokens) := properties r.tokens
  let tag ← match ps.tag with
    | none => some none
    | some (handle, suffix) => (tagText? handles handle suffix).map some
  match ps.anchor with
  | none => return ((none, tag), { r with tokens })
  | some name => return ((some r.anchors.length, tag), ⟨tokens, number r.anchors name⟩)

/-- Reads an alias, if one comes next; its anchor has to be known. -/
def readAlias : Reading (Option Tree) := fun r =>
  match r.tokens with
  | .link name :: tokens =>
    (r.anchors.lookup name).map fun anchor => (some (link anchor), { r with tokens })
  | _ => some (none, r)

/-- Reads a scalar, if one comes next. -/
def readScalar : Reading (Option (Style × String)) := fun r =>
  match r.tokens with
  | .scalar style text :: tokens => some (some (style, text), { r with tokens })
  | _ => some (none, r)

/-- The tokens that end a value in a block. -/
def blockStops : List Token := [.key, .value, .blockEnd]

mutual
/-- Reads a node. A block can start only outside brackets, and behind a key or its colon a sequence
may go without a block of its own. -/
def node (handles : Handles) (inBlock ofKey : Bool) : Nat → Reading Tree
  | 0 => failure
  | steps + 1 => do
    if let some v ← readAlias then return v
    let (anchor, tag) ← readProperties handles
    if let some (style, text) ← readScalar then
      return scalar anchor ⟨style, tag.filter (· ≠ "!"), text⟩
    if ← accept .openBracket then
      return sequence anchor (← bracketItems handles true steps)
    if ← accept .openBrace then
      return mapping anchor (← bracketEntries handles true steps)
    if inBlock then
      if ofKey && (← comes [.dash]) then return sequence anchor (← keyItems handles steps)
      if ← accept .blockSequence then return sequence anchor (← blockItems handles steps)
      if ← accept .blockMapping then return mapping anchor (← blockEntries handles steps)
    if anchor.isNone && tag.isNone then failure
    return scalar anchor ⟨.plain, tag, ""⟩

/-- Reads the items of a block to its end. -/
def blockItems (handles : Handles) : Nat → Reading (List Tree)
  | 0 => failure
  | steps + 1 => do
    if ← accept .blockEnd then return []
    expect .dash
    let v ← if ← comes [.dash, .blockEnd] then pure missing else node handles true false steps
    return v :: (← blockItems handles steps)

/-- Reads the items of a sequence that stands in the column of its key. -/
def keyItems (handles : Handles) : Nat → Reading (List Tree)
  | 0 => failure
  | steps + 1 => do
    if !(← accept .dash) then return []
    let v ← if ← comes (.dash :: blockStops) then pure missing else node handles true false steps
    return v :: (← keyItems handles steps)

/-- Reads the entries of a block to its end; a key may lack its value. -/
def blockEntries (handles : Handles) : Nat → Reading (List (Tree × Tree))
  | 0 => failure
  | steps + 1 => do
    if ← accept .blockEnd then return []
    expect .key
    let key ← blockValue handles steps
    let v ← if ← accept .value then blockValue handles steps else pure missing
    return (key, v) :: (← blockEntries handles steps)

/-- Reads a key or a value in a block, which may be left out. -/
def blockValue (handles : Handles) : Nat → Reading Tree
  | 0 => failure
  | steps + 1 => do
    if ← comes blockStops then return missing
    node handles true true steps

/-- Reads the items between brackets to the closing one. A comma may follow the last item, and an
item may be a single entry of a mapping. -/
def bracketItems (handles : Handles) (first : Bool) : Nat → Reading (List Tree)
  | 0 => failure
  | steps + 1 => do
    if ← accept .closeBracket then return []
    if !first then
      expect .comma
      if ← accept .closeBracket then return []
    let v ←
      if ← accept .key then do
        let entry ← bracketEntry handles [.value, .comma, .closeBracket] [.comma, .closeBracket] true
          steps
        pure (mapping none [entry])
      else node handles false false steps
    return v :: (← bracketItems handles false steps)

/-- Reads the entries between braces to the closing one; an entry without a mark is a key. -/
def bracketEntries (handles : Handles) (first : Bool) : Nat → Reading (List (Tree × Tree))
  | 0 => failure
  | steps + 1 => do
    if ← accept .closeBrace then return []
    if !first then
      expect .comma
      if ← accept .closeBrace then return []
    let entry ←
      if ← accept .key then
        bracketEntry handles [.value, .comma, .closeBrace] [.comma, .closeBrace] false steps
      else do pure (← node handles false false steps, missing)
    return entry :: (← bracketEntries handles false steps)

/-- Reads a key and its value, either of which is left out where one of the given tokens comes. A key
left out of an entry that stands alone takes the next token with it. -/
def bracketEntry (handles : Handles) (keyStops valueStops : List Token) (alone : Bool) :
    Nat → Reading (Tree × Tree)
  | 0 => failure
  | steps + 1 => do
    let key ←
      if ← comes keyStops then do
        if alone then modify fun r => { r with tokens := r.tokens.drop 1 }
        pure missing
      else node handles false false steps
    if !(← accept .value) then return (key, missing)
    if ← comes valueStops then return (key, missing)
    return (key, ← node handles false false steps)
end

/-- Reads the directives in front of a document. The version has to be one of two and is told at
most once, as is each handle; two handles are known without being told. -/
def directives (version : Bool) (handles : Handles) : List Token → Option (Handles × List Token)
  | .version major minor :: ts =>
    if version || major ≠ 1 || (minor ≠ 1 && minor ≠ 2) then none else directives true handles ts
  | .handle name start :: ts =>
    if (handles.lookup name).isSome then none else directives version (handles ++ [(name, start)]) ts
  | ts =>
    let core : Handles := [("!", ['!'.toUInt8]), ("!!", Text.utf8Bytes "tag:yaml.org,2002:".toList)]
    some (handles ++ core, ts)

/-- Reads the one node of a document. With a marker in front of the document the node may be left
out, and any number of end markers may follow it; without tokens there is no node. -/
def ofTokens? (ts : List Token) : Option Tree := do
  if ts = [] then return missing
  let (handles, rest) ← directives false [] ts
  let steps := 4 * ts.length + 4
  let document : Reading Tree := do
    if ← accept .documentStart then
      if (← get).tokens = [] || (← comes [.documentEnd]) then return missing
    else if rest.length < ts.length then failure
    node handles true false steps
  let (v, r) ← document.run { tokens := rest }
  if r.tokens.all (· = .documentEnd) then some v else none

end Tree
end FacetSearch.Yaml
