import FacetSearch.Yaml.Scalar.Folding

/-! Scalars in single and in double quotes. -/
namespace FacetSearch.Yaml
open Source

/-- Reads single-quoted text from behind its opening quote; two quotes stand for one. -/
def singleQuoted? : Source → Option (List Piece × Source)
  | [] => none
  | ('\'', _) :: ('\'', _) :: s => (singleQuoted? s).map (Prod.map (.char '\'' :: ·) id)
  | ('\'', _) :: s => some ([], s)
  | (c, p) :: s =>
    if atBoundary ((c, p) :: s) then none
    else (singleQuoted? s).map (Prod.map (.ofChar c :: ·) id)

/-- What a backslash and one character stand for. -/
def simpleEscape? : Char → Option Char
  | '0' => some '\x00'
  | 'a' => some '\x07'
  | 'b' => some '\x08'
  | 't' => some '\t'
  | '\t' => some '\t'
  | 'n' => some '\n'
  | 'v' => some '\x0b'
  | 'f' => some '\x0c'
  | 'r' => some '\r'
  | 'e' => some '\x1b'
  | ' ' => some ' '
  | '"' => some '"'
  | '/' => some '/'
  | '\\' => some '\\'
  | 'N' => some '\u0085'
  | '_' => some '\u00A0'
  | 'L' => some '\u2028'
  | 'P' => some '\u2029'
  | _ => none

/-- How many hexadecimal digits follow a backslash and this letter. -/
def escapeLength? : Char → Option Nat
  | 'x' => some 2
  | 'u' => some 4
  | 'U' => some 8
  | _ => none

def hexDigit? (c : Char) : Option Nat :=
  if c.isDigit then some (c.toNat - '0'.toNat)
  else if 'a' ≤ c ∧ c ≤ 'f' then some (c.toNat - 'a'.toNat + 10)
  else if 'A' ≤ c ∧ c ≤ 'F' then some (c.toNat - 'A'.toNat + 10)
  else none

/-- The character whose number hexadecimal digits spell, if there is one. -/
def charOfHex? (digits : List Char) : Option Char := do
  let n := (← digits.mapM hexDigit?).foldl (fun n d => 16 * n + d) 0
  if h : n.isValidChar then some (Char.ofNatAux n h) else none

/-- Reads double-quoted text from behind its opening quote. The pending state holds the hexadecimal
digits of an escape read so far and how many are left to come. -/
def doubleQuoted? : Option (List Char × Nat) → Source → Option (List Piece × Source)
  | _, [] => none
  | some (digits, left), (c, _) :: s =>
    let digits := digits ++ [c]
    if left ≤ 1 then do
      let e ← charOfHex? digits
      (doubleQuoted? none s).map (Prod.map (.char e :: ·) id)
    else doubleQuoted? (some (digits, left - 1)) s
  | none, ('"', _) :: s => some ([], s)
  | none, ('\\', _) :: (c, _) :: s =>
    if isLineEnd c then (doubleQuoted? none s).map (Prod.map (.joint :: ·) id)
    else match simpleEscape? c, escapeLength? c with
      | some e, _ => (doubleQuoted? none s).map (Prod.map (.char e :: ·) id)
      | none, some n => doubleQuoted? (some ([], n)) s
      | none, none => none
  | none, (c, p) :: s =>
    if atBoundary ((c, p) :: s) then none
    else (doubleQuoted? none s).map (Prod.map (.ofChar c :: ·) id)

end FacetSearch.Yaml
