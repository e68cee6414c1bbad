import FacetSearch.Unicode.Alphabetic
import FacetSearch.Unicode.Numbers
import FacetSearch.Unicode.Marks
import FacetSearch.Unicode.Hidden
import FacetSearch.Unicode.Recent

/-!
The classes of characters that filters, facets, sorts and messages are read and written with. They
are those of version 17 of Unicode, but for the characters of words, which are those of version 16.
-/
namespace FacetSearch.Unicode

/-- The Unicode property White_Space. -/
def isBlank (c : Char) : Bool :=
  c.toNat ∈ [0x09, 0x0A, 0x0B, 0x0C, 0x0D, 0x20, 0x85, 0xA0, 0x1680, 0x2000, 0x2001, 0x2002, 0x2003,
    0x2004, 0x2005, 0x2006, 0x2007, 0x2008, 0x2009, 0x200A, 0x2028, 0x2029, 0x202F, 0x205F, 0x3000]

/-- Letters and numbers of every script. -/
def isAlphanumeric (c : Char) : Bool :=
  alphabetic.has c.toNat || decimalDigits.has c.toNat || otherNumbers.has c.toNat

/-- General category Pc. -/
def connectors : Ranges := [
  (0x5F, 0x5F), (0x203F, 0x2040), (0x2054, 0x2054), (0xFE33, 0xFE34), (0xFE4D, 0xFE4F),
  (0xFF3F, 0xFF3F)]

/-- The Unicode property Join_Control. -/
def joiners : Ranges := [(0x200C, 0x200D)]

/-- Letters, marks, decimal digits, connectors and joiners: what a word of any script is made of. -/
def isWordChar (c : Char) : Bool :=
  (alphabetic.has c.toNat || marks.has c.toNat || decimalDigits.has c.toNat ||
    connectors.has c.toNat || joiners.has c.toNat) && !recent.has c.toNat

/-- Characters that show on their own when a text is quoted in a message. -/
def isPrintable (c : Char) : Bool :=
  !unprintable.has c.toNat && !extending.has c.toNat && !fillers.has c.toNat

end FacetSearch.Unicode
