import FacetSearch.Proofs.Facet.Written
import FacetSearch.Proofs.Filter.Reading
import FacetSearch.Proofs.Query.WellFormed
import FacetSearch.Proofs.Sort.Written

/-! The names that facets, filters and sort expressions recognise: attribute names, but for keywords in
filters and for the characters that facets do not count among those of words. -/
namespace FacetSearch
open Unicode

namespace SortTerm

/-- Whether a name with a direction behind it is a term on the column of that name. -/
def Recognizes (g : Guard) (a : String) : Prop :=
  ∃ t, compile g (a ++ ",asc") = .ok [t] ∧ t.column = a

lemma scan_direction {a : String} (ha : isAttributeName a) :
    scan (a ++ ",asc").toList = [{ column := a, direction := .asc, condition := none }] := by
  have hscan := scan_parts [.term ⟨a, none, .asc, "asc", ha, by decide⟩]
  simpa [Part.text, Part.written?, Written.text, Written.body, Written.bare] using hscan

lemma recognizes_iff {g : Guard} (hg : ∀ a, g.policy.isFilterable a) (a : String) :
    Recognizes g a ↔ isAttributeName a := by
  rw [Recognizes, compile_eq_grant, Guard.grant_of_forall _ fun a _ => hg a]
  constructor
  · rintro ⟨t, hcompile, rfl⟩
    have ht : t ∈ admitted g.policy (t.column ++ ",asc") := by
      rw [Except.ok.inj hcompile]
      exact List.mem_singleton_self t
    exact (wellFormed_of_mem_admitted t ht).isAttributeName
  · intro ha
    refine ⟨marked g.policy { column := a, direction := .asc, condition := none }, ?_, rfl⟩
    rw [admitted, scan_direction ha]
    simp [hg]

end SortTerm

namespace Filter

/-- Whether a name with a quoted value behind it is a predicate on the attribute of that name. -/
def Recognizes (g : Guard) (a v : String) : Prop :=
  ∃ p, compile g (a ++ ":\"" ++ v ++ "\"") = .ok [p] ∧ p.attribute? = some a

lemma isAttributeName_of_mem_admitted {p : Policy} {input : String} :
    ∀ q ∈ admitted p input, ∀ a, q.attribute? = some a → isAttributeName a := by
  rw [admitted, admittedSequence]
  apply Predicate.forall_mem_headed
  · exact fun q hq => by rwa [Predicate.attribute?_withConnective]
  · intro q hq a ha
    obtain ⟨s, -, hs⟩ := List.mem_filterMap.1 hq
    obtain ⟨ts, c, -, hc, rfl⟩ | ⟨ts, -, -, rfl⟩ := cases_of_admittedStatement? hs
    · cases ha
      exact (Clause.spelled_of_ofTokens? hc).isAttributeName
    · cases ha

/-- No keyword is read as a name. -/
lemma admitted_of_keyword {p : Policy} {input v : String} {t : Token}
    (ht : t = .negation ∨ ∃ k, t = .connective k) (hscan : scan input = [t, .colon, .quoted v]) :
    admitted p input = [] := by
  rw [admitted, hscan]
  obtain rfl | ⟨k, rfl⟩ := ht
  · rfl
  · rfl

lemma ofWord_of_keyword {k : String} (hk : k ∈ ["and", "or", "not"]) {w : List Char}
    (hw : Text.equalsIgnoringCase w k.toList) :
    Token.ofWord w = .negation ∨ ∃ k, Token.ofWord w = .connective k := by
  simp only [List.mem_cons, List.not_mem_nil, or_false] at hk
  unfold Token.ofWord
  split_ifs with hand hor hnot
  · exact .inr ⟨.and, rfl⟩
  · exact .inr ⟨.or, rfl⟩
  · exact .inl rfl
  · rcases hk with rfl | rfl | rfl
    · exact absurd hw hand
    · exact absurd hw hor
    · exact absurd hw hnot

section Letters

variable {a v : String} (hv : ∀ c ∈ v.toList, c.isAlpha)
include hv

lemma quoted_of_isAlpha : Written.quoted v = "\"" ++ v ++ "\"" := by
  have hescaped : Written.escaped v.toList = v.toList := by
    have hsingle : ∀ c ∈ v.toList, (if c = '"' ∨ c = '\\' then ['\\', c] else [c]) = [c] := by
      intro c hc
      apply if_neg
      rintro (rfl | rfl)
      · exact absurd (hv _ hc) (by decide)
      · exact absurd (hv _ hc) (by decide)
    rw [Written.escaped, List.flatMap_def, List.map_congr_left hsingle, ← List.flatMap_def,
      List.flatMap_singleton']
  rw [Written.quoted, hescaped, String.ofList_toList]

lemma scan_value (ha : isAttributeName a) :
    scan (a ++ ":\"" ++ v ++ "\"") = [.ofWord a.toList, .colon, .quoted v] := by
  obtain ⟨hne, hchars⟩ := isAttributeName_iff.1 ha
  have htext : (a ++ ":\"" ++ v ++ "\"").toList =
      a.toList ++ ':' :: ((Written.quoted v).toList ++ []) := by
    simp [quoted_of_isAlpha hv]
  rw [scan, htext, scanAfter_plainWord (String.toList_eq_nil_iff.not.2 hne)
    (fun c hc => .of_isNameChar (hchars c hc)) rfl, scanAfter_mark (by decide) rfl,
    Written.scanAfter_quoted, scanAfter_nil]

lemma recognizes_iff {g : Guard} (hg : ∀ a, g.policy.isFilterable a) :
    Recognizes g a v ↔ isAttributeName a ∧
      ∀ k ∈ ["and", "or", "not"], Text.equalsIgnoringCase a.toList k.toList = false := by
  rw [Recognizes, compile_eq_grant, Guard.grant_of_forall _ fun a _ => hg a]
  constructor
  · rintro ⟨p, hcompile, hp⟩
    have hadmitted := Except.ok.inj hcompile
    have ha : isAttributeName a :=
      isAttributeName_of_mem_admitted p (hadmitted ▸ List.mem_singleton_self p) a hp
    refine ⟨ha, fun k hk => Bool.eq_false_iff.2 fun hkeyword => ?_⟩
    rw [admitted_of_keyword (ofWord_of_keyword hk hkeyword) (scan_value hv ha)] at hadmitted
    cases hadmitted
  · rintro ⟨ha, hkeyword⟩
    let c : Written.Clause := .value ⟨a, ha, hkeyword⟩ v
    have hscan : scan (a ++ ":\"" ++ v ++ "\"") = c.tokens := by
      rw [scan_value hv ha, Token.ofWord_eq_word hkeyword, String.ofList_toList]
      rfl
    have hadmitted := Written.admittedSequence_listTokens (p := g.policy) Written.phrase_clause
      (Written.admittedStatement?_clause hg (admittedChildren g.policy)) (fun _ _ => rfl)
      [⟨.and, false, c⟩]
    refine ⟨c.predicate none false, ?_, rfl⟩
    rw [admitted, hscan, (Written.settled_clause c).tidy_eq]
    exact congrArg Except.ok hadmitted

end Letters
end Filter

namespace FacetGroups

/-- Whether a quoted name and value are a predicate on the attribute of that name. -/
def Recognizes (g : Guard) (a v : String) : Prop :=
  ∃ p, compile g ("\"" ++ a ++ ":" ++ v ++ "\"") = .ok [p] ∧ p.attribute? = some a

lemma name_of_read? {s after : List Char} {f : Facet} (h : Facet.read? s = some (f, after)) :
    f.name ≠ "" ∧ ∀ c ∈ f.name.toList, isWordChar c := by
  unfold Facet.read? at h
  split at h
  · next c name rest hname hrest =>
    split at h
    · cases h
      refine ⟨by simp, ?_⟩
      rw [String.toList_ofList, ← hname]
      exact fun d hd => List.mem_takeWhile_imp hd
    · cases h
  · cases h

lemma name_of_mem_scan {s : List Char} :
    ∀ f ∈ Facet.scan s, f.name ≠ "" ∧ ∀ c ∈ f.name.toList, isWordChar c := by
  fun_induction Facet.scan s with
  | case1 => simp
  | case2 s f after h ih =>
    rw [List.forall_mem_cons]
    exact ⟨name_of_read? h, ih⟩
  | case3 s h ih => exact ih
  | case4 c s hc ih => exact ih

lemma exists_of_mem_admitted {p : Policy} {input : String} :
    ∀ q ∈ admitted p input, ∀ a, q.attribute? = some a → ∃ f ∈ Facet.scan input.toList, f.name = a := by
  rw [admitted, predicates]
  apply Predicate.forall_mem_headed
  · exact fun q hq => by rwa [Predicate.attribute?_withConnective]
  · intro q hq a ha
    obtain ⟨⟨b, vs⟩, hb, hq⟩ := List.mem_flatMap.1 hq
    obtain ⟨t, -, rfl⟩ := List.mem_map.1 hq
    cases ha
    obtain ⟨b', hb', hpair⟩ := List.mem_map.1 hb
    cases hpair
    obtain ⟨f, hf, rfl⟩ := List.mem_map.1 (List.mem_eraseDups.1 hb')
    exact ⟨f, (List.mem_filter.1 hf).1, rfl⟩

variable {a v : String} (hv : ∀ c ∈ v.toList, c.isAlpha)
include hv

lemma scan_token (hne : a ≠ "") (ha : ∀ c ∈ a.toList, isWordChar c) :
    Facet.scan ("\"" ++ a ++ ":" ++ v ++ "\"").toList = [⟨a, ⟨v, false⟩⟩] := by
  have hinside : ∀ c ∈ v.toList, Facet.isInside c := by
    intro c hc
    have hletter := hv c hc
    simp only [Facet.isInside, Bool.and_eq_true, bne_iff_ne]
    constructor
    · rintro rfl
      exact absurd hletter (by decide)
    · rintro rfl
      exact absurd hletter (by decide)
  have hhead : v.toList.head? ≠ some '-' :=
    fun h => absurd (hv '-' (List.mem_of_mem_head? h)) (by decide)
  let w : Facet.Written := ⟨a, 0, v, hne, ha, hinside, hhead⟩
  have htext : ("\"" ++ a ++ ":" ++ v ++ "\"").toList = w.text.toList ++ [] := by
    simp [w, Facet.Written.text]
  rw [htext, Facet.scan_text, Facet.scan_nil]
  rfl

lemma recognizes_iff {g : Guard} (hg : ∀ a, g.policy.isFilterable a) :
    Recognizes g a v ↔ a ≠ "" ∧ ∀ c ∈ a.toList, isWordChar c := by
  rw [Recognizes, compile_eq_grant, Guard.grant_of_forall _ fun a _ => hg a]
  constructor
  · rintro ⟨p, hcompile, hp⟩
    have hadmitted := Except.ok.inj hcompile
    obtain ⟨f, hf, rfl⟩ :=
      exists_of_mem_admitted p (hadmitted ▸ List.mem_singleton_self p) a hp
    exact name_of_mem_scan f hf
  · rintro ⟨hne, ha⟩
    obtain ⟨t, ht⟩ : ∃ t, inclusion (g.policy.isArray a) [v] = [t] := by
      cases g.policy.isArray a with
      | false => exact ⟨.comparison .eq (.text v) false, rfl⟩
      | true => exact ⟨.arrayContains [v], rfl⟩
    have hkeep : [(⟨a, ⟨v, false⟩⟩ : Facet)].filter (fun f => g.policy.isFilterable f.name) =
        [⟨a, ⟨v, false⟩⟩] := List.filter_eq_self.2 fun f _ => hg f.name
    have hgroups : ofFacets [⟨a, ⟨v, false⟩⟩] = [(a, [⟨v, false⟩])] := by
      simp [ofFacets, List.eraseDups_cons]
    have hvalues : valuesOf true [⟨v, false⟩] = [] ∧ valuesOf false [⟨v, false⟩] = [v] := by
      simp [valuesOf, List.eraseDups_cons]
    refine ⟨.leaf none a t, ?_, rfl⟩
    rw [admitted, scan_token hv hne ha, hkeep, hgroups, predicates, List.flatMap_singleton]
    simp only [hvalues, ht]
    rfl

end FacetGroups

/-- Sort expressions recognise exactly the attribute names, and filters all of them but the keywords.
Facets recognise them too, but for texts that are made of the characters of words and not of those of
names, or the other way round. -/
theorem recognizes_attribute_names (g : Guard) (hg : ∀ a, g.policy.isFilterable a) (a v : String)
    (hv : ∀ c ∈ v.toList, c.isAlpha) :
    (SortTerm.Recognizes g a ↔ isAttributeName a) ∧
      (Filter.Recognizes g a v ↔ isAttributeName a ∧
        ∀ k ∈ ["and", "or", "not"], Text.equalsIgnoringCase a.toList k.toList = false) ∧
      (((∀ c ∈ a.toList, isWordChar c) ↔ ∀ c ∈ a.toList, isNameChar c) →
        (FacetGroups.Recognizes g a v ↔ isAttributeName a)) := by
  refine ⟨SortTerm.recognizes_iff hg a, Filter.recognizes_iff hv hg, fun hagree => ?_⟩
  rw [FacetGroups.recognizes_iff hv hg, hagree, isAttributeName_iff]

/-- A name of another script, and a text that is no name. -/
theorem recognizes_attribute_names_letters :
    (SortTerm.Recognizes ⟨{ isFilterable := fun _ => true }, .strict⟩ "цвет_2" ∧
      Filter.Recognizes ⟨{ isFilterable := fun _ => true }, .strict⟩ "цвет_2" "Red" ∧
      FacetGroups.Recognizes ⟨{ isFilterable := fun _ => true }, .strict⟩ "цвет_2" "Red") ∧
    ¬SortTerm.Recognizes ⟨{ isFilterable := fun _ => true }, .strict⟩ "a-b" ∧
      ¬Filter.Recognizes ⟨{ isFilterable := fun _ => true }, .strict⟩ "a-b" "Red" ∧
      ¬FacetGroups.Recognizes ⟨{ isFilterable := fun _ => true }, .strict⟩ "a-b" "Red" := by
  have hred : "Red".toList.all Char.isAlpha := by decide
  have hnames (a : String) := recognizes_attribute_names
    ⟨{ isFilterable := fun _ => true }, .strict⟩ (fun _ => rfl) a "Red" (List.all_eq_true.1 hred)
  constructor
  · have hname : isAttributeName "цвет_2" := by decide +kernel
    have hword : ∀ c ∈ "цвет_2".toList, isWordChar c := List.all_eq_true.1 (by decide +kernel)
    obtain ⟨hsort, hfilter, hfacets⟩ := hnames "цвет_2"
    exact ⟨hsort.2 hname, hfilter.2 ⟨hname, by decide +kernel⟩,
      (hfacets (iff_of_true hword (isAttributeName_iff.1 hname).2)).2 hname⟩
  · have hname : ¬isAttributeName "a-b" := by decide +kernel
    have hdash : ¬isWordChar '-' ∧ ¬isNameChar '-' := by decide +kernel
    have hmem : '-' ∈ "a-b".toList := by decide
    obtain ⟨hsort, hfilter, hfacets⟩ := hnames "a-b"
    have hagree : (∀ c ∈ "a-b".toList, isWordChar c) ↔ ∀ c ∈ "a-b".toList, isNameChar c :=
      iff_of_false (fun h => hdash.1 (h '-' hmem)) (fun h => hdash.2 (h '-' hmem))
    exact ⟨hsort.not.2 hname, fun h => hname (hfilter.1 h).1, (hfacets hagree).not.2 hname⟩

/-- The three do not recognise the same names: filters take `and` for a keyword, and a raised two is a
number of names that is not one of words. -/
theorem recognizes_differently :
    (isAttributeName "and" ∧
      SortTerm.Recognizes ⟨{ isFilterable := fun _ => true }, .strict⟩ "and" ∧
      FacetGroups.Recognizes ⟨{ isFilterable := fun _ => true }, .strict⟩ "and" "x" ∧
      ¬Filter.Recognizes ⟨{ isFilterable := fun _ => true }, .strict⟩ "and" "x") ∧
    (isAttributeName "²" ∧
      SortTerm.Recognizes ⟨{ isFilterable := fun _ => true }, .strict⟩ "²" ∧
      Filter.Recognizes ⟨{ isFilterable := fun _ => true }, .strict⟩ "²" "x" ∧
      ¬FacetGroups.Recognizes ⟨{ isFilterable := fun _ => true }, .strict⟩ "²" "x") := by
  have hx : ∀ c ∈ "x".toList, c.isAlpha := List.all_eq_true.1 (by decide)
  have hand : isAttributeName "and" := by decide +kernel
  have htwo : isAttributeName "²" := by decide +kernel
  have hword : ∀ c ∈ "and".toList, isWordChar c := List.all_eq_true.1 (by decide +kernel)
  have hnoword : ¬∀ c ∈ "²".toList, isWordChar c :=
    fun h => absurd (h '²' (by decide)) (by decide +kernel)
  rw [SortTerm.recognizes_iff fun _ => rfl, SortTerm.recognizes_iff fun _ => rfl,
    FacetGroups.recognizes_iff hx fun _ => rfl, FacetGroups.recognizes_iff hx fun _ => rfl,
    Filter.recognizes_iff hx fun _ => rfl, Filter.recognizes_iff hx fun _ => rfl]
  refine ⟨⟨hand, hand, ⟨by decide, hword⟩, fun h => ?_⟩,
    htwo, htwo, ⟨htwo, by decide +kernel⟩, fun h => hnoword h.2⟩
  exact absurd (h.2 "and" (by decide)) (by decide)

end FacetSearch
