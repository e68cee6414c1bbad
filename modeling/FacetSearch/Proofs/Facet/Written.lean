import FacetSearch.Facet.Groups
import FacetSearch.Proofs.AllowList.Grant
import FacetSearch.Proofs.Text.Trim
import Mathlib.Data.List.Basic

/-! Facets read back from a text in which they are written, whatever stands around their quotes. -/
namespace FacetSearch

namespace Facet
open Unicode

/-- A facet as it is meant to be written: a name, and a value with any number of dashes in front. -/
structure Written where
  name : String
  dashes : ℕ
  value : String
  name_ne : name ≠ ""
  isWordChar : ∀ c ∈ name.toList, isWordChar c
  isInside : ∀ c ∈ value.toList, isInside c
  head_ne : value.toList.head? ≠ some '-'

namespace Written

def text (w : Written) : String :=
  "\"" ++ w.name ++ ":" ++ .ofList (.replicate w.dashes '-') ++ w.value ++ "\""

/-- The facet that is asked for: one dash negates it as well as several. -/
def facet (w : Written) : Facet := ⟨w.name, w.value, 0 < w.dashes⟩

/-- Facets with other text around them: some in front, and some behind each facet. -/
def embedded (front : String) (items : List (Written × String)) : String :=
  front ++ String.join (items.map fun i => i.1.text ++ i.2)

end Written

section Scan

lemma ofText_dashes (n : ℕ) {v : List Char} (hv : v.head? ≠ some '-') :
    FacetValue.ofText (.replicate n '-' ++ v) = ⟨.ofList v, 0 < n⟩ := by
  have hdashes : ∀ c ∈ List.replicate n '-', c == '-' := by
    intro c hc
    exact beq_iff_eq.2 (List.eq_of_mem_replicate hc)
  have hvalue : v.dropWhile (· == '-') = v := by
    apply Text.dropWhile_eq_self
    rintro c hc hdash
    rw [beq_iff_eq.1 hdash] at hc
    exact hv hc
  have hsign : ((List.replicate n '-' ++ v).head? == some '-') = decide (0 < n) := by
    cases n with
    | zero => simpa using hv
    | succ n => simp [List.replicate_succ]
  rw [FacetValue.ofText, List.dropWhile_append_of_pos hdashes, hvalue, hsign]

/-- Behind its opening quote a facet is read up to the closing one. -/
lemma read?_written (w : Written) (r : List Char) :
    read? (w.name.toList ++ ':' :: (.replicate w.dashes '-' ++ w.value.toList ++ '"' :: r)) =
      some (w.facet, r) := by
  have hcolon (s : List Char) : ∀ c ∈ (':' :: s).head?, ¬isWordChar c := by
    rintro c ⟨⟩
    decide +kernel
  have hquote (s : List Char) : ∀ c ∈ ('"' :: s).head?, ¬isInside c := by
    rintro c ⟨⟩
    decide
  have hinside : ∀ c ∈ List.replicate w.dashes '-' ++ w.value.toList, isInside c := by
    rw [List.forall_mem_append]
    refine ⟨fun c hc => ?_, w.isInside⟩
    rw [List.eq_of_mem_replicate hc]
    rfl
  obtain ⟨c, s, hs⟩ := List.exists_cons_of_ne_nil (String.toList_eq_nil_iff.not.2 w.name_ne)
  rw [read?, Text.takeWhile_append_of_head? w.isWordChar (hcolon _),
    Text.dropWhile_append_of_head? w.isWordChar (hcolon _), hs]
  simp only [Text.takeWhile_append_of_head? hinside (hquote _),
    Text.dropWhile_append_of_head? hinside (hquote _), ofText_dashes w.dashes w.head_ne]
  rw [← hs, String.ofList_toList, String.ofList_toList]
  rfl

lemma scan_quote {s after : List Char} {f : Facet} (h : read? s = some (f, after)) :
    scan ('"' :: s) = f :: scan after := by
  rw [scan, if_pos rfl]
  split
  · next h' =>
    cases h.symm.trans h'
    rfl
  · next h' => cases h.symm.trans h'

lemma scan_text (w : Written) (r : List Char) :
    scan (w.text.toList ++ r) = w.facet :: scan r := by
  have htext : w.text.toList ++ r = '"' :: (w.name.toList ++
      ':' :: (.replicate w.dashes '-' ++ w.value.toList ++ '"' :: r)) := by
    simp [Written.text]
  rw [htext, scan_quote (read?_written w r)]

/-- What has no quote has no facet. -/
lemma scan_append {s : List Char} (hs : '"' ∉ s) (r : List Char) : scan (s ++ r) = scan r := by
  induction s with
  | nil => rfl
  | cons c s ih =>
    rw [List.mem_cons, not_or] at hs
    rw [List.cons_append, scan, if_neg (Ne.symm hs.1), ih hs.2]

/-- All facets of a text are found in it, and nothing else, where there are no other quotes. -/
lemma scan_embedded {front : String} {items : List (Written × String)} (hfront : '"' ∉ front.toList)
    (hgaps : ∀ i ∈ items, '"' ∉ i.2.toList) :
    scan (Written.embedded front items).toList = items.map (·.1.facet) := by
  rw [Written.embedded, String.toList_append, scan_append hfront]
  induction items with
  | nil => exact scan_nil
  | cons i items ih =>
    rw [List.forall_mem_cons] at hgaps
    rw [List.map_cons, String.join_cons, String.toList_append, String.toList_append,
      List.append_assoc, scan_text, scan_append hgaps.1, ih hgaps.2, List.map_cons]

end Scan
end Facet

namespace FacetGroups

lemma ofText_eq_of_forall {g : Guard} {input : String}
    (h : ∀ f ∈ Facet.scan input.toList, g.policy.isFilterable f.name) :
    ofText g input = .ok (ofFacets (Facet.scan input.toList)) := by
  have hkeep : (Facet.scan input.toList).filter (fun f => g.policy.isFilterable f.name) =
      Facet.scan input.toList := List.filter_eq_self.2 h
  rw [ofText, Guard.filter_eq_grant, Guard.grant_of_forall _ (List.forall_mem_map.2 h), hkeep]
  rfl

/-- The facets in a text are grouped by their attributes as these are first seen, and nothing is lost
of what is written for each of them. -/
theorem ofText_embedded (g : Guard) (front : String) (items : List (Facet.Written × String))
    (hfront : '"' ∉ front.toList) (hgaps : ∀ i ∈ items, '"' ∉ i.2.toList)
    (hg : ∀ i ∈ items, g.policy.isFilterable i.1.name) :
    ∃ groups, ofText g (Facet.Written.embedded front items) = .ok groups ∧
      groups.map Prod.fst = (items.map (·.1.name)).eraseDups ∧
      ∀ a ∈ items.map (·.1.name), groups.lookup a =
        some ((items.filter (·.1.name == a)).map fun i => ⟨i.1.value, 0 < i.1.dashes⟩) := by
  have hscan := Facet.scan_embedded hfront hgaps
  have hnames : ((items.map (·.1.facet)).map (·.name)) = items.map (·.1.name) := List.map_map
  refine ⟨ofFacets (items.map (·.1.facet)), ?_, ?_, fun a ha => ?_⟩
  · rw [ofText_eq_of_forall, hscan]
    rw [hscan]
    exact List.forall_mem_map.2 hg
  · rw [ofFacets, hnames, List.map_map]
    exact List.map_id _
  · rw [ofFacets, hnames, List.lookup_graph _ (List.mem_eraseDups.2 ha), List.filter_map,
      List.map_map]
    rfl

/-- Values may hold colons, brackets and commas, and the values of an attribute need not stand
together. -/
theorem ofText_embedded_interleaved :
    ∃ groups,
      ofText ⟨{ isFilterable := fun a => ["make", "model"].contains a }, .strict⟩
        "[[\"make:Nissan\", \"model:--a:[b], -c\"], \"make:-Kia\", \"make:Nissan\"]" = .ok groups ∧
      groups.map Prod.fst = ["make", "model"] ∧
      groups.lookup "make" = some [⟨"Nissan", false⟩, ⟨"Kia", true⟩, ⟨"Nissan", false⟩] ∧
      groups.lookup "model" = some [⟨"a:[b], -c", true⟩] := by
  have hword (a : String) (h : a.toList.all Unicode.isWordChar) :
      ∀ c ∈ a.toList, Unicode.isWordChar c := List.all_eq_true.1 h
  have hinside (v : String) (h : v.toList.all Facet.isInside) :
      ∀ c ∈ v.toList, Facet.isInside c := List.all_eq_true.1 h
  have hmake := hword "make" (by decide +kernel)
  have hmodel := hword "model" (by decide +kernel)
  have hnissan := hinside "Nissan" (by decide)
  obtain ⟨groups, hgroups, hnames, hvalues⟩ := ofText_embedded
    ⟨{ isFilterable := fun a => ["make", "model"].contains a }, .strict⟩ "[["
    [(⟨"make", 0, "Nissan", by decide, hmake, hnissan, by decide⟩, ", "),
      (⟨"model", 2, "a:[b], -c", by decide, hmodel, hinside _ (by decide), by decide⟩, "], "),
      (⟨"make", 1, "Kia", by decide, hmake, hinside _ (by decide), by decide⟩, ", "),
      (⟨"make", 0, "Nissan", by decide, hmake, hnissan, by decide⟩, "]")]
    (by decide) (by simp) (by simp)
  refine ⟨groups, hgroups, ?_, ?_, ?_⟩
  · rw [hnames]
    rfl
  · rw [hvalues "make" (by simp)]
    rfl
  · rw [hvalues "model" (by simp)]
    rfl

end FacetGroups
end FacetSearch
