import FacetSearch.Disk
import FacetSearch.Proofs.Text.Trim
import Mathlib.Data.List.Basic
import Mathlib.Data.List.Induction

/-! Files in directories that are missing: where nothing is in the way, the directories are made and
the file is written. -/
namespace FacetSearch

namespace Path
open Text

/-- The names in the text of a path that lead somewhere else. -/
def steps (text : String) : List String := (names text).filter fun name => name ≠ "" ∧ name ≠ "."

lemma names_append (front back : String) :
    names (front ++ "/" ++ back) = names front ++ names back := by
  have htext : (front ++ "/" ++ back).toList = front.toList ++ '/' :: back.toList := by simp
  rw [names, htext, List.splitOn, List.splitOnP_append_cons _ _ (by simp), List.map_append]
  rfl

lemma names_of_not_mem {text : String} (h : '/' ∉ text.toList) : names text = [text] := by
  rw [names, List.splitOn_eq_singleton h, List.map_singleton, String.ofList_toList]

/-- The text of a path is a name, or that of a directory with a name in it. -/
lemma cases_directory (text : String) :
    (directory text = "" ∧ names text = [text]) ∨
    ∃ back, text = directory text ++ "/" ++ back ∧
      names text = names (directory text) ++ [back] := by
  by_cases h : '/' ∈ text.toList
  · obtain ⟨front, back, htext, hback⟩ := exists_last_of_mem h
    have hdirectory : directory text = .ofList front := by
      rw [directory, htext, cutLast?_append front hback]
    have hwhole : text = directory text ++ "/" ++ .ofList back := by
      rw [← String.toList_inj, hdirectory, htext]
      simp
    have hnames : names (.ofList back) = [.ofList back] := names_of_not_mem (by simpa using hback)
    refine .inr ⟨_, hwhole, ?_⟩
    rw [← hnames, ← names_append, ← hwhole]
  · refine .inl ⟨?_, names_of_not_mem h⟩
    rw [directory, cutLast?_of_not_mem h]

lemma problem?_directory {text : String} (h : Disk.problem? text = none) :
    Disk.problem? (directory text) = none := by
  obtain ⟨hdirectory, -⟩ | ⟨back, htext, -⟩ := cases_directory text
  · rw [hdirectory]
    decide
  · unfold Disk.problem? at h ⊢
    rw [htext] at h
    have hnul : '\x00' ∉ (directory text).toList := by
      intro hmem
      rw [if_pos (by simp [hmem])] at h
      cases h
    split at h
    · cases h
    · split at h
      · cases h
      · next hsize =>
        rw [String.utf8ByteSize_append, String.utf8ByteSize_append] at hsize
        rw [if_neg hnul, if_neg (by omega)]

lemma start_directory (d : Disk) {text : String} (h : steps (directory text) ≠ []) :
    d.start (directory text) = d.start text := by
  obtain ⟨hdirectory, -⟩ | ⟨back, htext, -⟩ := cases_directory text
  · rw [hdirectory] at h
    exact absurd (by decide) h
  · cases hfront : (directory text).toList with
    | nil =>
      rw [String.toList_eq_nil_iff.1 hfront] at h
      exact absurd (by decide) h
    | cons c front =>
      have hhead : text.toList.head? = some c := by
        rw [htext, String.toList_append, String.toList_append, hfront]
        rfl
      rw [Disk.start, Disk.start, hfront, hhead, List.head?_cons]

/-- The name of a file in a directory stands last in the text of its path. -/
lemma getLast?_names_inside (directory : String) {name : String} (h : '/' ∉ name.toList) :
    (names (inside directory name)).getLast? = some name := by
  have hname : names name = [name] := names_of_not_mem h
  unfold inside
  split_ifs with hwhole hslash
  · rw [hname]
    rfl
  · obtain ⟨front, hfront⟩ : ∃ front, directory = front ++ "/" := by
      obtain ⟨front, hfront⟩ := List.getLast?_eq_some_iff.1 hslash
      exact ⟨.ofList front, by rw [← String.toList_inj, hfront]; simp⟩
    rw [hfront, names_append, hname, List.getLast?_concat]
  · rw [names_append, hname, List.getLast?_concat]

/-- Whether a file or a directory can have a name. -/
def IsProper (name : String) : Prop :=
  name ≠ "" ∧ name ≠ "." ∧ name ≠ ".." ∧ name.utf8ByteSize ≤ 255

instance (name : String) : Decidable (IsProper name) := inferInstanceAs (Decidable (_ ∧ _))

/-- In front of the last name stands the directory. -/
lemma exists_names_eq {text last : String} (h : (names text).getLast? = some last) :
    ∃ front, names text = front ++ [last] ∧
      (front.filter fun name => name ≠ "" ∧ name ≠ ".") = steps (directory text) := by
  obtain ⟨hdirectory, hnames⟩ | ⟨back, -, hnames⟩ := cases_directory text
  · rw [hnames] at h ⊢
    cases h
    refine ⟨[], rfl, ?_⟩
    rw [hdirectory]
    decide
  · rw [hnames, List.getLast?_concat] at h
    cases h
    exact ⟨_, hnames, rfl⟩

lemma steps_eq_concat {text last : String} (h : (names text).getLast? = some last)
    (hlast : IsProper last) : steps text = steps (directory text) ++ [last] := by
  obtain ⟨front, hnames, hfront⟩ := exists_names_eq h
  rw [steps, hnames, List.filter_append, hfront,
    List.filter_cons_of_pos (by simp [hlast.1, hlast.2.1])]
  rfl

end Path

namespace Disk
open FacetSearch.Path (IsProper)

/-- Whether nothing stands on the way that some names lead from a directory. -/
def Vacant (d : Disk) (p : Path) (names : List String) : Prop :=
  ∀ front, front <+: names → front ≠ [] → d.lookup (p ++ front) = none

/-- Whether a path leads through directories that are there, and from the last of them on by names
that are free. -/
def Admits (d : Disk) (text : String) : Prop :=
  problem? text = none ∧ ∃ front rest p, Path.steps text = front ++ rest ∧ rest ≠ [] ∧
    (∀ name ∈ rest, IsProper name) ∧ front.foldlM d.step (d.start text) = .ok p ∧
    d.isDirectory p ∧ d.Vacant p rest

section Steps

variable {d : Disk} {p q : Path} {name : String} {names : List String}

lemma lookup_of_isDirectory (h : d.isDirectory p) : d.lookup p = some .directory := by
  simpa [isDirectory] using h

lemma isDirectory_eq_false (h : d.lookup p = none) : d.isDirectory p = false := by
  rw [isDirectory, h]
  rfl

lemma step_of_isProper (hp : d.isDirectory p) (h : IsProper name) :
    d.step p name = .ok (p ++ [name]) := by
  obtain ⟨hne, hdot, hdots, hsize⟩ := h
  rw [step, lookup_of_isDirectory hp]
  simp only [hne, hdot, hdots, or_self, if_false, if_neg (Nat.not_lt.2 hsize)]

lemma foldlM_step_concat (hs : names.foldlM d.step q = .ok p) (hp : d.isDirectory p)
    (hname : IsProper name) : (names ++ [name]).foldlM d.step q = .ok (p ++ [name]) := by
  rw [List.foldlM_append, hs]
  change [name].foldlM d.step p = _
  rw [List.foldlM_cons, step_of_isProper hp hname]
  rfl

lemma foldlM_step_of_lookup_eq_none (h : d.lookup p = none) (hne : names ≠ []) :
    names.foldlM d.step p = .error .missing := by
  cases names with
  | nil => exact absurd rfl hne
  | cons name names =>
    rw [List.foldlM_cons, step, h]
    rfl

/-- The first name that is free may only come last. -/
lemma foldlM_step_of_free (hs : names.foldlM d.step q = .ok p) (hp : d.isDirectory p)
    (hname : IsProper name) (hfree : d.lookup (p ++ [name]) = none) {rest : List String}
    (hne : rest ≠ []) : (names ++ name :: rest).foldlM d.step q = .error .missing := by
  rw [List.append_cons, List.foldlM_append, foldlM_step_concat hs hp hname]
  exact foldlM_step_of_lookup_eq_none hfree hne

/-- Names lead on from directories alone. -/
lemma isDirectory_of_foldlM_step_cons (h : (name :: names).foldlM d.step p = .ok q) :
    d.isDirectory p := by
  rw [List.foldlM_cons, step] at h
  split at h
  · cases h
  · cases h
  · next hp => simp [isDirectory, hp]

lemma isDirectory_of_foldlM_step (h : names.foldlM d.step p = .ok q) (hq : d.isDirectory q) :
    d.isDirectory p := by
  cases names with
  | nil =>
    cases h
    exact hq
  | cons name names => exact isDirectory_of_foldlM_step_cons h

/-- On the way to a directory, names that lead nowhere else make no difference. -/
lemma foldlM_step_filter_iff (hq : d.isDirectory q) :
    (names.filter fun name => name ≠ "" ∧ name ≠ ".").foldlM d.step p = .ok q ↔
      names.foldlM d.step p = .ok q := by
  induction names generalizing p with
  | nil => rfl
  | cons name names ih =>
    by_cases hname : name ≠ "" ∧ name ≠ "."
    · rw [List.filter_cons_of_pos (by simpa using hname), List.foldlM_cons, List.foldlM_cons]
      cases d.step p name with
      | error e => rfl
      | ok p' => exact ih
    · rw [List.filter_cons_of_neg (by simpa using hname)]
      by_cases hp : d.isDirectory p
      · have hstep : d.step p name = .ok p := by
          rw [step, lookup_of_isDirectory hp]
          exact if_pos (by tauto)
        rw [List.foldlM_cons, hstep]
        exact ih
      · exact iff_of_false (fun h => hp (isDirectory_of_foldlM_step h hq))
          fun h => hp (isDirectory_of_foldlM_step h hq)

end Steps

section Making

variable {d d₁ d₂ : Disk} {s p : Path} {last : String} {front : List String}

lemma makeLast_eq (d : Disk) (s : Path) (front : List String) (last : String) :
    d.makeLast s front last = (front ++ [last]).foldlM d.step s >>= fun p =>
      if last = ".." ∨ (d.lookup p).isSome then .error .taken else .ok (d.put p .directory) := by
  simp only [makeLast, List.foldlM_append, List.foldlM_cons, List.foldlM_nil, bind_pure, bind_assoc]

lemma makeLast_of_free (hfront : front.foldlM d.step s = .ok p) (hp : d.isDirectory p)
    (hlast : IsProper last) (hfree : d.lookup (p ++ [last]) = none) :
    d.makeLast s front last = .ok (d.put (p ++ [last]) .directory) := by
  have hdots : last ≠ ".." := hlast.2.2.1
  rw [makeLast_eq, foldlM_step_concat hfront hp hlast]
  exact if_neg (by simp [hdots, hfree])

lemma makeLast_of_missing (h : (front ++ [last]).foldlM d.step s = .error .missing) :
    d.makeLast s front last = .error .missing := by
  rw [makeLast_eq, h]
  rfl

lemma makeNames_of_makeLast (h : d.makeLast s front.reverse last = .ok d₁) :
    d.makeNames s (last :: front) = (d₁, none) := by
  simp only [makeNames, h]

lemma makeNames_of_missing (h : d.makeLast s front.reverse last = .error .missing)
    (hfront : d.makeNames s front = (d₁, none))
    (hlast : d₁.makeLast s front.reverse last = .ok d₂) :
    d.makeNames s (last :: front) = (d₂, none) := by
  simp only [makeNames, h, hfront, hlast]

/-- A directory that is there is left as it is. -/
lemma makeNames_of_isDirectory {names : List String} (h : names.reverse.foldlM d.step s = .ok p)
    (hp : d.isDirectory p) : d.makeNames s names = (d, none) := by
  cases names with
  | nil => rfl
  | cons last front =>
    rw [List.reverse_cons] at h
    have hthere : d.leadsToDirectory s (front.reverse ++ [last]) := by
      rw [leadsToDirectory, h]
      exact hp
    have htaken : d.makeLast s front.reverse last = .error .taken := by
      rw [makeLast_eq, h]
      exact if_pos (.inr (by rw [lookup_of_isDirectory hp]; rfl))
    simp only [makeNames, htaken, hthere, if_true]

/-- What making some directories has come to: they are there, and below them nothing is new. -/
structure Made (d d' : Disk) (s : Path) (front : List String) (p : Path) : Prop where
  leads : front.foldlM d'.step s = .ok p
  isDirectory : d'.isDirectory p
  lookup_below : ∀ more, more ≠ [] → d'.lookup (p ++ more) = d.lookup (p ++ more)
  home_eq : d'.home = d.home

lemma Made.refl (h : front.foldlM d.step s = .ok p) (hp : d.isDirectory p) : Made d d s front p :=
  ⟨h, hp, fun _ _ => rfl, rfl⟩

lemma Made.put (h : Made d d₁ s front p) (hlast : IsProper last)
    (hfree : d.lookup (p ++ [last]) = none) :
    Made d (d₁.put (p ++ [last]) .directory) s (front ++ [last]) (p ++ [last]) := by
  have hnot : d₁.isDirectory (p ++ [last]) = false :=
    isDirectory_eq_false (by rw [h.lookup_below [last] (List.cons_ne_nil last []), hfree])
  have hleads := foldlM_step_concat h.leads h.isDirectory hlast
  refine ⟨foldlM_step_put hnot _ hleads, ?_, fun more hmore => ?_, h.home_eq⟩
  · rw [Disk.isDirectory, lookup_put d₁ _ hnot, if_pos rfl]
    rfl
  · have hne : p ++ [last] ++ more ≠ p ++ [last] := by simpa using hmore
    rw [lookup_put d₁ _ hnot, if_neg hne, List.append_assoc]
    exact h.lookup_below _ (List.cons_ne_nil last more)

/-- Directories are made below one that is there, by induction from the last name back: each of them
is put into what making those in front of it has come to. -/
lemma exists_makeNames {rest : List String} (hfront : front.foldlM d.step s = .ok p)
    (hp : d.isDirectory p) (hrest : ∀ name ∈ rest, IsProper name) (hfree : d.Vacant p rest) :
    ∃ d', d.makeNames s (front ++ rest).reverse = (d', none) ∧
      Made d d' s (front ++ rest) (p ++ rest) := by
  induction rest using List.reverseRecOn with
  | nil =>
    rw [List.append_nil, List.append_nil]
    exact ⟨d, makeNames_of_isDirectory (by rwa [List.reverse_reverse]) hp, .refl hfront hp⟩
  | append_singleton rest last ih =>
    have hlast : IsProper last := hrest last (by simp)
    have hvacant : d.lookup (p ++ rest ++ [last]) = none := by
      rw [List.append_assoc]
      exact hfree _ (List.prefix_refl _) (by simp)
    obtain ⟨d₁, hd₁, hmade⟩ := ih (fun name hname => hrest name (by simp [hname]))
      fun start hstart => hfree start (hstart.trans (List.prefix_append rest [last]))
    have hmake : d₁.makeLast s (front ++ rest) last =
        .ok (d₁.put (p ++ rest ++ [last]) .directory) :=
      makeLast_of_free hmade.leads hmade.isDirectory hlast
        (by rw [hmade.lookup_below _ (by simp), hvacant])
    have hmade' := hmade.put hlast hvacant
    rw [← List.reverse_reverse (front ++ rest)] at hmake
    rw [← List.append_assoc, ← List.append_assoc, List.reverse_concat]
    cases rest with
    | nil =>
      have hd : d₁ = d := by
        rw [List.append_nil, makeNames_of_isDirectory (by rwa [List.reverse_reverse]) hp] at hd₁
        exact (Prod.mk.inj hd₁).1.symm
      subst hd
      exact ⟨_, makeNames_of_makeLast hmake, hmade'⟩
    | cons name rest =>
      have hname : d.lookup (p ++ [name]) = none := hfree [name] (by simp) (by simp)
      have hmissing : (front ++ name :: rest ++ [last]).foldlM d.step s = .error .missing := by
        rw [List.append_assoc]
        exact foldlM_step_of_free hfront hp (hrest name (by simp)) hname (by simp)
      rw [← List.reverse_reverse (front ++ name :: rest)] at hmissing
      exact ⟨_, makeNames_of_missing (makeLast_of_missing hmissing) hd₁ hmake, hmade'⟩

lemma makeDirectory_eq {text : String} {names : List String} (hproblem : problem? text = none)
    (hnames : Path.steps (Path.directory text) = names)
    (hmake : d.makeNames (d.start text) names.reverse = (d₁, none)) :
    d.makeDirectory (Path.directory text) = (d₁, none) := by
  rw [makeDirectory, Path.problem?_directory hproblem]
  change d.makeNames _ (Path.steps (Path.directory text)).reverse = _
  by_cases hnone : Path.steps (Path.directory text) = []
  · -- nothing is made, wherever it starts from
    rw [← hnames, hnone] at hmake
    rw [hnone]
    exact hmake
  · rw [Path.start_directory d hnone, hnames]
    exact hmake

end Making

/-- Where a path admits a file, making its directory and writing it succeed. -/
theorem Admits.exists_write? {d : Disk} {text last : String} (h : d.Admits text)
    (hlast : (Path.names text).getLast? = some last) (hproper : IsProper last) (content : String) :
    ∃ d₁ d₂, d.makeDirectory (Path.directory text) = (d₁, none) ∧
      d₁.write? text content = some d₂ := by
  obtain ⟨hproblem, front, rest, p, hsteps, hne, hrest, hfront, hp, hfree⟩ := h
  obtain rfl | ⟨rest, last', rfl⟩ := rest.eq_nil_or_concat'
  · exact absurd rfl hne
  rw [Path.steps_eq_concat hlast hproper, ← List.append_assoc] at hsteps
  obtain ⟨hdirectory, hlast'⟩ := List.append_inj' hsteps rfl
  cases hlast'
  obtain ⟨d₁, hmake, hmade⟩ := exists_makeNames hfront hp
    (fun name hname => hrest name (by simp [hname]))
    fun start hstart => hfree start (hstart.trans (List.prefix_append rest [last]))
  have hvacant : d₁.lookup (p ++ rest ++ [last]) = none := by
    rw [hmade.lookup_below [last] (by simp), List.append_assoc]
    exact hfree _ (List.prefix_refl _) (by simp)
  have hdone := makeDirectory_eq hproblem hdirectory hmake
  have hresolve : d₁.resolve text = .ok (p ++ rest ++ [last]) := by
    obtain ⟨names, hnames, hfilter⟩ := Path.exists_names_eq hlast
    have hstart : d₁.start text = d.start text := by rw [start, start, hmade.home_eq]
    have htext : text ≠ "" := by
      rintro rfl
      exact hproper.1 (Option.some.inj hlast).symm
    have hleads : names.foldlM d₁.step (d.start text) = .ok (p ++ rest) := by
      rw [← foldlM_step_filter_iff hmade.isDirectory, hfilter, hdirectory]
      exact hmade.leads
    rw [resolve, hproblem, hnames, hstart]
    change (if text = "" then _ else _) = _
    rw [if_neg htext, foldlM_step_concat hleads hmade.isDirectory hproper]
  refine ⟨d₁, d₁.put (p ++ rest ++ [last]) (.file content), hdone, ?_⟩
  rw [write?, hresolve]
  exact if_neg (Bool.eq_false_iff.1 (isDirectory_eq_false hvacant))

lemma resolve_of_read? {d : Disk} {text old : String} (h : d.read? text = some old) :
    ∃ q, d.resolve text = .ok q ∧ d.lookup q = some (.file old) := by
  rw [read?, entry?] at h
  cases hr : d.resolve text with
  | error e =>
    rw [hr] at h
    cases h
  | ok q =>
    rw [hr] at h
    refine ⟨q, rfl, ?_⟩
    split at h
    · next hlookup =>
      cases h
      exact hlookup
    · cases h

lemma foldlM_of_resolve {d : Disk} {text : String} {q : Path} (h : d.resolve text = .ok q) :
    problem? text = none ∧ (Path.names text).foldlM d.step (d.start text) = .ok q := by
  unfold resolve at h
  split at h
  · cases h
  · next hproblem =>
    split at h
    · cases h
    · exact ⟨hproblem, h⟩

/-- Where there is a file, its directory is there, and it can be written again. -/
theorem exists_write?_of_read? {d : Disk} {text last old : String} (h : d.read? text = some old)
    (hlast : (Path.names text).getLast? = some last) (content : String) :
    d.makeDirectory (Path.directory text) = (d, none) ∧ ∃ d', d.write? text content = some d' := by
  obtain ⟨q, hresolve, hfile⟩ := resolve_of_read? h
  obtain ⟨hproblem, hleads⟩ := foldlM_of_resolve hresolve
  obtain ⟨front, hnames, hfilter⟩ := Path.exists_names_eq hlast
  rw [hnames, List.foldlM_append] at hleads
  constructor
  · cases hfront : front.foldlM d.step (d.start text) with
    | error e =>
      rw [hfront] at hleads
      cases hleads
    | ok p =>
      rw [hfront] at hleads
      change [last].foldlM d.step p = .ok q at hleads
      have hp : d.isDirectory p := isDirectory_of_foldlM_step_cons hleads
      apply makeDirectory_eq hproblem hfilter.symm
      apply makeNames_of_isDirectory _ hp
      rw [List.reverse_reverse]
      exact (foldlM_step_filter_iff hp).2 hfront
  · refine ⟨d.put q (.file content), ?_⟩
    rw [write?, hresolve]
    exact if_neg (by simp [isDirectory, hfile])

end Disk
end FacetSearch
