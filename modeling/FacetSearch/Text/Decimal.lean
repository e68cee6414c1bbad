/-!
Decimal numbers in text: an optional sign, digits with an optional point among or around them, and
an optional exponent.
-/
namespace FacetSearch.Text

/-- The magnitude `mantissa · 10 ^ exponent`. -/
structure Decimal where
  mantissa : Nat
  exponent : Int
  deriving DecidableEq

namespace Decimal

/-- The number that a run of decimal digits spells. -/
def ofDigits (digits : List Char) : Nat :=
  digits.foldl (fun n c => 10 * n + (c.toNat - '0'.toNat)) 0

@[simp] theorem ofDigits_nil : ofDigits [] = 0 := rfl

def dropSign : List Char → List Char
  | '+' :: rest => rest
  | '-' :: rest => rest
  | s => s

/-- The exponent that ends a number, zero where none is written. -/
def exponent? : List Char → Option Int
  | [] => some 0
  | mark :: rest =>
    let digits := dropSign rest
    if (mark = 'e' ∨ mark = 'E') ∧ digits ≠ [] ∧ digits.all Char.isDigit then
      some (if rest.head? = some '-' then -(ofDigits digits : Int) else ofDigits digits)
    else none

/-- The digits after a decimal point and what follows them. -/
def fraction : List Char → List Char × List Char
  | '.' :: rest => (rest.takeWhile Char.isDigit, rest.dropWhile Char.isDigit)
  | s => ([], s)

/-- Reads the magnitude of a number; the sign is passed over. -/
def ofText? (s : List Char) : Option Decimal :=
  let unsigned := dropSign s
  let whole := unsigned.takeWhile Char.isDigit
  let (part, rest) := fraction (unsigned.dropWhile Char.isDigit)
  if whole = [] ∧ part = [] then none
  else (exponent? rest).map fun e => ⟨ofDigits (whole ++ part), e - part.length⟩

/-- The least magnitude that double precision rounds to infinity. -/
def overflow : Nat := (Nat.pow 2 54 - 1) * Nat.pow 2 970

/-- Whether the magnitude rounds to a finite number in double precision. Only a number of the same
length as the bound is compared with it digit by digit. -/
def isFinite (d : Decimal) : Bool :=
  let length : Int := (Nat.toDigits 10 d.mantissa).length + d.exponent
  if d.mantissa = 0 ∨ length < 309 then true
  else if 309 < length then false
  else if 0 ≤ d.exponent then d.mantissa * Nat.pow 10 d.exponent.toNat < overflow
  else d.mantissa < overflow * Nat.pow 10 (-d.exponent).toNat

end Decimal

/-- Whether a text is a decimal number that double precision can hold. -/
def isFiniteDecimal (s : List Char) : Bool :=
  match Decimal.ofText? s with
  | some d => d.isFinite
  | none => false

end FacetSearch.Text
