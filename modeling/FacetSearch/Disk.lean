import FacetSearch.Text.Basic

/-!
A directory tree as a value, and how the texts of paths lead through it. Every name on the way has to
be that of a directory, also where two dots behind it lead back. Main statement: what was written to
a file is read from it.
-/
namespace FacetSearch
open Text

/-- The names on the way from the root to a place. -/
abbrev Path := List String

namespace Path

/-- The text of a path that goes on from a directory; one that starts at the root stays as it is. -/
def inside (directory name : String) : String :=
  if directory = "" ∨ name.toList.head? = some '/' then name
  else if directory.toList.getLast? = some '/' then directory ++ name
  else directory ++ "/" ++ name

/-- The text of the directory that the text of a path goes through last. -/
def directory (text : String) : String :=
  match cutLast? '/' text.toList with
  | some (front, _) => .ofList front
  | none => ""

/-- The names in the text of a path, which may be empty or dots. -/
def names (text : String) : List String := (text.toList.splitOn '/').map .ofList

end Path

inductive Entry
  | file (text : String)
  | directory
  deriving DecidableEq

/-- Why a path leads nowhere, or a directory cannot be made. -/
inductive DiskError
  | nul
  | tooLong
  | missing
  | notADirectory
  | taken
  deriving DecidableEq

def DiskError.message : DiskError → String
  | nul => "file name contained an unexpected NUL byte"
  | tooLong => "File name too long (os error 36)"
  | missing => "No such file or directory (os error 2)"
  | notADirectory => "Not a directory (os error 20)"
  | taken => "File exists (os error 17)"

/-- A directory tree. Paths start from its root or from the home directory, which is always there. -/
structure Disk where
  entries : List (Path × Entry) := []
  home : Path := []
  deriving DecidableEq

namespace Disk

/-- What stands at a place. -/
def lookup (d : Disk) (p : Path) : Option Entry :=
  if p.isPrefixOf d.home then some .directory else d.entries.lookup p

def isDirectory (d : Disk) (p : Path) : Bool := d.lookup p == some .directory

/-- Puts an entry at a place, whatever was there before. -/
def put (d : Disk) (p : Path) (e : Entry) : Disk :=
  { d with entries := (p, e) :: d.entries.filter fun (p', _) => p' != p }

/-- Goes on from a directory by one name, of at most 255 bytes. -/
def step (d : Disk) (p : Path) (name : String) : Except DiskError Path :=
  match d.lookup p with
  | none => .error .missing
  | some (.file _) => .error .notADirectory
  | some .directory =>
    if name = "" ∨ name = "." then .ok p
    else if name = ".." then .ok p.dropLast
    else if 255 < name.utf8ByteSize then .error .tooLong
    else .ok (p ++ [name])

/-- Where the text of a path starts from. -/
def start (d : Disk) (text : String) : Path :=
  if text.toList.head? = some '/' then [] else d.home

/-- What is wrong with the text of a path, whatever is on disk. It has at most 4095 bytes. -/
def problem? (text : String) : Option DiskError :=
  if '\x00' ∈ text.toList then some .nul
  else if 4095 < text.utf8ByteSize then some .tooLong
  else none

/-- The place that the text of a path leads to, where there may be nothing yet. -/
def resolve (d : Disk) (text : String) : Except DiskError Path :=
  match problem? text with
  | some e => .error e
  | none => if text = "" then .error .missing else (Path.names text).foldlM d.step (d.start text)

/-- What stands where a path leads to. -/
def entry? (d : Disk) (text : String) : Option Entry :=
  match d.resolve text with
  | .ok p => d.lookup p
  | .error _ => none

/-- The text of the file that a path leads to. -/
def read? (d : Disk) (text : String) : Option String :=
  match d.entry? text with
  | some (.file s) => some s
  | _ => none

/-- Writes the file that a path leads to, unless a directory is there. -/
def write? (d : Disk) (text content : String) : Option Disk :=
  match d.resolve text with
  | .ok p => if d.isDirectory p then none else some (d.put p (.file content))
  | .error _ => none

/-- Removes the file that a path leads to. -/
def remove? (d : Disk) (text : String) : Option Disk :=
  match d.resolve text with
  | .ok p =>
    match d.lookup p with
    | some (.file _) => some { d with entries := d.entries.filter fun (p', _) => p' != p }
    | _ => none
  | .error _ => none

/-- Makes a directory of a name, given the names on the way to it, which have to be there. -/
def makeLast (d : Disk) (start : Path) (front : List String) (last : String) :
    Except DiskError Disk := do
  let p ← d.step (← front.foldlM d.step start) last
  if last = ".." ∨ (d.lookup p).isSome then .error .taken else .ok (d.put p .directory)

/-- Whether some names lead to a directory. -/
def leadsToDirectory (d : Disk) (start : Path) (names : List String) : Bool :=
  match names.foldlM d.step start with
  | .ok p => d.isDirectory p
  | .error _ => false

/-- Makes the directory of some names, given with the last one first, and tells what went wrong. Those
on the way are made where they are missing, and stay even so. -/
def makeNames (d : Disk) (start : Path) : List String → Disk × Option DiskError
  | [] => (d, none)
  | last :: front =>
    let settle (d : Disk) : Disk × Option DiskError :=
      match d.makeLast start front.reverse last with
      | .ok d => (d, none)
      | .error e =>
        if d.leadsToDirectory start (front.reverse ++ [last]) then (d, none) else (d, some e)
    match d.makeLast start front.reverse last with
    | .error .missing =>
      match makeNames d start front with
      | (d, none) => settle d
      | failed => failed
    | _ => settle d

/-- Makes a directory and those on the way to it, where they are missing. -/
def makeDirectory (d : Disk) (text : String) : Disk × Option DiskError :=
  match problem? text with
  | some e => (d, some e)
  | none =>
    d.makeNames (d.start text) ((Path.names text).filter fun name => name ≠ "" ∧ name ≠ ".").reverse

theorem lookup_others {p q : Path} (h : q ≠ p) (es : List (Path × Entry)) :
    (es.filter fun (p', _) => p' != p).lookup q = es.lookup q := by
  induction es with
  | nil => rfl
  | cons e es ih =>
    obtain ⟨p', e⟩ := e
    by_cases hp : p' = p
    · subst hp
      rw [List.filter_cons_of_neg (by simp), ih, List.lookup_cons, beq_false_of_ne h]
    · rw [List.filter_cons_of_pos (by simpa using hp), List.lookup_cons, List.lookup_cons, ih]

theorem lookup_put (d : Disk) {p : Path} (e : Entry) (h : d.isDirectory p = false) (q : Path) :
    (d.put p e).lookup q = if q = p then some e else d.lookup q := by
  have hp : ¬p.isPrefixOf d.home := fun hp => by simp [isDirectory, lookup, hp] at h
  unfold lookup
  by_cases hq : q = p
  · subst hq
    rw [if_pos rfl]
    exact (if_neg hp).trans List.lookup_cons_self
  · rw [if_neg hq]
    have hl : (d.put p e).entries.lookup q = d.entries.lookup q := by
      rw [put, List.lookup_cons, beq_false_of_ne hq]
      exact lookup_others hq d.entries
    rw [hl]
    rfl

/-- Only directories are gone through, so what is put elsewhere leaves the way open. -/
theorem step_put {d : Disk} {p q r : Path} {e : Entry} {name : String}
    (h : d.isDirectory p = false) (hs : d.step q name = .ok r) :
    (d.put p e).step q name = .ok r := by
  have hq : d.lookup q = some .directory := by
    unfold step at hs
    split at hs
    · cases hs
    · cases hs
    · assumption
  have hne : q ≠ p := by
    rintro rfl
    simp [isDirectory, hq] at h
  have hl : (d.put p e).lookup q = some .directory := by rw [lookup_put d e h, if_neg hne, hq]
  unfold step at hs ⊢
  rw [hq] at hs
  rw [hl]
  exact hs

theorem foldlM_step_put {d : Disk} {p : Path} {e : Entry} (h : d.isDirectory p = false)
    (names : List String) {q r : Path} (hs : names.foldlM d.step q = .ok r) :
    names.foldlM (d.put p e).step q = .ok r := by
  induction names generalizing q with
  | nil => exact hs
  | cons name names ih =>
    rw [List.foldlM_cons] at hs ⊢
    cases hn : d.step q name with
    | error e' => rw [hn] at hs; cases hs
    | ok q' =>
      rw [hn] at hs
      rw [step_put h hn]
      exact ih hs

theorem resolve_put {d : Disk} {p q : Path} {e : Entry} {text : String}
    (h : d.isDirectory p = false) (hr : d.resolve text = .ok q) :
    (d.put p e).resolve text = .ok q := by
  unfold resolve at hr ⊢
  split at hr
  · cases hr
  · split at hr
    · cases hr
    · next ht =>
      rw [if_neg ht]
      exact foldlM_step_put h _ hr

theorem read?_write? {d d' : Disk} {text content : String} (h : d.write? text content = some d') :
    d'.read? text = some content := by
  unfold write? at h
  split at h
  · next p hr =>
    split at h
    · cases h
    · next hp =>
      have hp : d.isDirectory p = false := by simpa using hp
      cases h
      simp [read?, entry?, resolve_put hp hr, lookup_put d _ hp]
  · cases h

end Disk
end FacetSearch
