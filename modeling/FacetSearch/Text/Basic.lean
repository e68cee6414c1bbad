import FacetSearch.Unicode.Classes

/-! Trimming, cutting and comparing text, all over lists of characters. -/
namespace FacetSearch.Text
open Unicode

theorem length_dropWhile_le (p : Char → Bool) (s : List Char) : (s.dropWhile p).length ≤ s.length :=
  (s.dropWhile_suffix p).length_le

/-- The text without the blanks at its ends. -/
def trim (s : List Char) : List Char :=
  ((s.dropWhile isBlank).reverse.dropWhile isBlank).reverse

@[simp] theorem trim_nil : trim [] = [] := rfl

/-- Cuts at the first separator, which belongs to neither part. -/
def cutFirst? (separator : Char) (s : List Char) : Option (List Char × List Char) :=
  match s.dropWhile (· != separator) with
  | [] => none
  | _ :: rest => some (s.takeWhile (· != separator), rest)

/-- Cuts at the last separator, which belongs to neither part. -/
def cutLast? (separator : Char) (s : List Char) : Option (List Char × List Char) :=
  (cutFirst? separator s.reverse).map fun (back, front) => (front.reverse, back.reverse)

/-- Equality up to the case of ASCII letters. -/
def equalsIgnoringCase (s t : List Char) : Bool :=
  s.map Char.toLower == t.map Char.toLower

@[simp] theorem equalsIgnoringCase_self (s : List Char) : equalsIgnoringCase s s = true := by
  simp [equalsIgnoringCase]

/-- The text with every occurrence of one character written twice. -/
def doubled (mark : Char) (s : List Char) : List Char :=
  s.flatMap fun c => if c = mark then [c, c] else [c]

@[simp] theorem doubled_nil (mark : Char) : doubled mark [] = [] := rfl

@[simp] theorem doubled_cons (mark c : Char) (s : List Char) :
    doubled mark (c :: s) = (if c = mark then [c, c] else [c]) ++ doubled mark s := rfl

end FacetSearch.Text
