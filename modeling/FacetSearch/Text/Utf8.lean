/-! UTF-8 read byte by byte, with each ill-formed part of it told apart. -/
namespace FacetSearch.Text

def utf8Bytes (s : List Char) : List UInt8 := s.flatMap String.utf8EncodeChar

namespace Utf8

/-- A character some of whose bytes are still to come: its number so far, how many bytes it needs,
and the bounds of the next one. -/
structure Pending where
  value : Nat
  needed : Nat
  low : Nat := 0x80
  high : Nat := 0xBF

/-- What the first byte of a character says: the character, that no character starts so, or what
has to follow. -/
inductive Lead
  | complete (c : Option Char)
  | pending (p : Pending)

def lead (byte : UInt8) : Lead :=
  let b := byte.toNat
  if b < 0x80 then .complete (some (Char.ofNat b))
  else if b < 0xC2 then .complete none
  else if b < 0xE0 then .pending { value := b - 0xC0, needed := 1 }
  else if b < 0xF0 then
    .pending { value := b - 0xE0, needed := 2, low := if b = 0xE0 then 0xA0 else 0x80,
               high := if b = 0xED then 0x9F else 0xBF }
  else if b < 0xF5 then
    .pending { value := b - 0xF0, needed := 3, low := if b = 0xF0 then 0x90 else 0x80,
               high := if b = 0xF4 then 0x8F else 0xBF }
  else .complete none

/-- The characters of a byte sequence, with nothing in the place of each ill-formed part: of the
longest start of a character that does not go on as it has to. -/
def decodeFrom : Option Pending → List UInt8 → List (Option Char)
  | none, [] => []
  | some _, [] => [none]
  | none, b :: bs =>
    match lead b with
    | .complete c => c :: decodeFrom none bs
    | .pending p => decodeFrom (some p) bs
  | some p, b :: bs =>
    if p.low ≤ b.toNat ∧ b.toNat ≤ p.high then
      let value := 64 * p.value + (b.toNat - 0x80)
      if p.needed ≤ 1 then some (Char.ofNat value) :: decodeFrom none bs
      else decodeFrom (some { value, needed := p.needed - 1 }) bs
    else
      match lead b with
      | .complete c => none :: c :: decodeFrom none bs
      | .pending p => none :: decodeFrom (some p) bs

def decode (bytes : List UInt8) : List (Option Char) := decodeFrom none bytes

/-- The text of a byte sequence that is well-formed throughout. -/
def strict? (bytes : List UInt8) : Option String := ((decode bytes).mapM id).map .ofList

/-- The text of a byte sequence with a replacement character for each ill-formed part. -/
def lossy (bytes : List UInt8) : String := .ofList ((decode bytes).map (·.getD '\uFFFD'))

end Utf8
end FacetSearch.Text
