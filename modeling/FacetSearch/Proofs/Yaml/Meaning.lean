import FacetSearch.Yaml.Format
import Mathlib.Data.List.Forall2
import Mathlib.Tactic.Common

/-! The value that a node without aliases stands for, and what the readers make of it. No reader
follows an alias on the way, so that each of them leaves its state as it is. -/
namespace FacetSearch.Yaml

def trueWords : List String := ["true", "True", "TRUE"]

def falseWords : List String := ["false", "False", "FALSE"]

/-- The value of a scalar without a tag: a plain word may be null or a boolean, all else is text. -/
def Scalar.value? : Scalar → Option Value
  | ⟨.plain, none, s⟩ =>
    if Node.isNullText s then some .null
    else if trueWords.contains s then some (.bool true)
    else if falseWords.contains s then some (.bool false)
    else some (.string s)
  | ⟨_, none, s⟩ => some (.string s)
  | ⟨_, some _, _⟩ => none

namespace Tree

/-- The text that a key stands for. -/
def name? : Tree → Option String
  | scalar _ s =>
    match s.value? with
    | some (.string name) => some name
    | _ => none
  | _ => none

mutual
/-- The value of a tree without aliases, whose keys are texts. -/
def value? : Tree → Option Value
  | scalar _ s => s.value?
  | sequence _ items => (itemValues? items).map .sequence
  | mapping _ entries => (entryValues? entries).map .mapping
  | link _ => none

def itemValues? : List Tree → Option (List Value)
  | [] => some []
  | v :: vs => do return (← v.value?) :: (← itemValues? vs)

def entryValues? : List (Tree × Tree) → Option (List (String × Value))
  | [] => some []
  | (key, v) :: entries => do return (← key.name?, ← v.value?) :: (← entryValues? entries)
end

lemma value?_of_name? {key : Tree} {name : String} (h : key.name? = some name) :
    key.value? = some (.string name) := by
  unfold name? at h
  split at h
  · split at h
    · next hs =>
      cases h
      exact hs
    · cases h
  · cases h

end Tree

namespace Scalar

variable {s : Scalar}

/-- How the scalar of a value is written. -/
lemma cases_of_value? {v : Value} (h : s.value? = some v) :
    (v = .string s.text ∧ s.tag = none ∧ (s.style = .plain → Node.isNullText s.text = false)) ∨
    (s.style = .plain ∧ s.tag = none ∧
      ((v = .null ∧ Node.isNullText s.text) ∨ (v = .bool true ∧ trueWords.contains s.text) ∨
        (v = .bool false ∧ trueWords.contains s.text = false ∧ falseWords.contains s.text))) := by
  unfold value? at h
  split at h
  · next text =>
    split_ifs at h with hnull htrue hfalse
    · exact .inr ⟨rfl, rfl, .inl ⟨(Option.some.inj h).symm, hnull⟩⟩
    · exact .inr ⟨rfl, rfl, .inr (.inl ⟨(Option.some.inj h).symm, htrue⟩)⟩
    · have hv := (Option.some.inj h).symm
      exact .inr ⟨rfl, rfl, .inr (.inr ⟨hv, Bool.eq_false_iff.2 htrue, hfalse⟩)⟩
    · exact .inl ⟨(Option.some.inj h).symm, rfl, fun _ => Bool.eq_false_iff.2 hnull⟩
  · next style text hstyle =>
    exact .inl ⟨(Option.some.inj h).symm, rfl, fun hplain => absurd hplain hstyle⟩
  · cases h

end Scalar

namespace Node

/-- Whether a node stands for a value. -/
def Means (n : Node) (v : Value) : Prop := n.tree.value? = some v

section Readers

variable {n : Node}

/-- A node that stands for a value is no alias. -/
lemma target_eq {v : Value} (h : n.Means v) : n.target = pure n.tree := by
  obtain ⟨tree, anchored⟩ := n
  cases tree with
  | link a => cases h
  | _ => rfl

/-- How the node of a value is written. -/
lemma cases_of_means {v : Value} (h : n.Means v) :
    (∃ a s, n.tree = .scalar a s ∧ s.value? = some v) ∨
    (∃ a items vs, n.tree = .sequence a items ∧ Tree.itemValues? items = some vs ∧
      v = .sequence vs) ∨
    ∃ a entries es, n.tree = .mapping a entries ∧ Tree.entryValues? entries = some es ∧
      v = .mapping es := by
  obtain ⟨tree, anchored⟩ := n
  cases tree with
  | scalar a s => exact .inl ⟨a, s, rfl, h⟩
  | sequence a items =>
    obtain ⟨vs, hvs, rfl⟩ := Option.map_eq_some_iff.1 h
    exact .inr (.inl ⟨a, items, vs, rfl, hvs, rfl⟩)
  | mapping a entries =>
    obtain ⟨es, hes, rfl⟩ := Option.map_eq_some_iff.1 h
    exact .inr (.inr ⟨a, entries, es, rfl, hes, rfl⟩)
  | link a => cases h

lemma exists_scalar_of_string {s : String} (h : n.Means (.string s)) :
    ∃ a style, n.tree = .scalar a ⟨style, none, s⟩ ∧
      (style = .plain → isNullText s = false) := by
  obtain ⟨a, ⟨style, tag, s'⟩, ht, hs⟩ | ⟨_, _, _, -, -, ⟨⟩⟩ | ⟨_, _, _, -, -, ⟨⟩⟩ :=
    cases_of_means h
  obtain ⟨⟨⟩, rfl, hnull⟩ | ⟨-, -, ⟨⟨⟩, -⟩ | ⟨⟨⟩, -⟩ | ⟨⟨⟩, -⟩⟩ := Scalar.cases_of_value? hs
  exact ⟨a, style, ht, hnull⟩

lemma exists_scalar_of_null (h : n.Means .null) :
    ∃ a s, n.tree = .scalar a ⟨.plain, none, s⟩ ∧ isNullText s := by
  obtain ⟨a, ⟨style, tag, s⟩, ht, hs⟩ | ⟨_, _, _, -, -, ⟨⟩⟩ | ⟨_, _, _, -, -, ⟨⟩⟩ :=
    cases_of_means h
  obtain ⟨⟨⟩, -⟩ | ⟨rfl, rfl, ⟨-, hnull⟩ | ⟨⟨⟩, -⟩ | ⟨⟨⟩, -⟩⟩ := Scalar.cases_of_value? hs
  exact ⟨a, s, ht, hnull⟩

lemma exists_scalar_of_bool {b : Bool} (h : n.Means (.bool b)) :
    ∃ a s, n.tree = .scalar a ⟨.plain, none, s⟩ ∧ trueWords.contains s = b ∧
      (b = false → falseWords.contains s) := by
  obtain ⟨a, ⟨style, tag, s⟩, ht, hs⟩ | ⟨_, _, _, -, -, ⟨⟩⟩ | ⟨_, _, _, -, -, ⟨⟩⟩ :=
    cases_of_means h
  obtain ⟨⟨⟩, -⟩ | ⟨rfl, rfl, ⟨⟨⟩, -⟩ | ⟨⟨⟩, htrue⟩ | ⟨⟨⟩, htrue, hfalse⟩⟩ :=
    Scalar.cases_of_value? hs
  · exact ⟨a, s, ht, htrue, fun hb => nomatch hb⟩
  · exact ⟨a, s, ht, htrue, fun _ => hfalse⟩

lemma exists_sequence {vs : List Value} (h : n.Means (.sequence vs)) :
    ∃ a items, n.tree = .sequence a items ∧ Tree.itemValues? items = some vs := by
  obtain ⟨a, s, -, hs⟩ | ⟨a, items, _, ht, hvs, ⟨⟩⟩ | ⟨_, _, _, -, -, ⟨⟩⟩ := cases_of_means h
  · obtain ⟨⟨⟩, -⟩ | ⟨-, -, ⟨⟨⟩, -⟩ | ⟨⟨⟩, -⟩ | ⟨⟨⟩, -⟩⟩ := Scalar.cases_of_value? hs
  · exact ⟨a, items, ht, hvs⟩

lemma exists_mapping {es : List (String × Value)} (h : n.Means (.mapping es)) :
    ∃ a entries, n.tree = .mapping a entries ∧ Tree.entryValues? entries = some es := by
  obtain ⟨a, s, -, hs⟩ | ⟨_, _, _, -, -, ⟨⟩⟩ | ⟨a, entries, _, ht, hes, ⟨⟩⟩ := cases_of_means h
  · obtain ⟨⟨⟩, -⟩ | ⟨-, -, ⟨⟨⟩, -⟩ | ⟨⟨⟩, -⟩ | ⟨⟨⟩, -⟩⟩ := Scalar.cases_of_value? hs
  · exact ⟨a, entries, ht, hes⟩

/-- A text is read as it is, whatever it is written like. -/
lemma text_eq {s : String} (h : n.Means (.string s)) : n.text = pure s := by
  obtain ⟨a, style, ht, -⟩ := exists_scalar_of_string h
  rw [text, scalar, target_eq h, pure_bind, ht, pure_bind]

lemma choice_eq {s : String} (h : n.Means (.string s)) : n.choice = pure s := by
  obtain ⟨a, style, ht, -⟩ := exists_scalar_of_string h
  rw [choice, scalar, target_eq h, pure_bind, ht, pure_bind]
  rfl

lemma bool_eq {b : Bool} (h : n.Means (.bool b)) : n.bool = pure b := by
  obtain ⟨a, s, ht, htrue, hfalse⟩ := exists_scalar_of_bool h
  rw [bool, scalar, target_eq h, pure_bind, ht, pure_bind]
  cases b with
  | true => exact if_pos htrue
  | false => exact (if_neg (Bool.eq_false_iff.1 htrue)).trans (if_pos (hfalse rfl))

lemma optional_null_eq {α : Type} (read : Node → Reader α) (h : n.Means .null) :
    n.optional read = pure none := by
  obtain ⟨a, s, ht, hnull⟩ := exists_scalar_of_null h
  rw [optional, target_eq h, pure_bind, ht]
  exact if_pos hnull

/-- A text is present even where it is a word for null, for then it has quotes. -/
lemma optional_text_eq {s : String} (h : n.Means (.string s)) :
    n.optional text = pure (some s) := by
  obtain ⟨a, style, ht, hplain⟩ := exists_scalar_of_string h
  rw [optional, target_eq h, pure_bind, ht]
  cases style with
  | plain => exact if_neg (Bool.eq_false_iff.1 (hplain rfl))
  | _ => rfl

end Readers

section Collections

lemma forall₂_items (anchored : List (Nat × Tree)) (items : List Tree) {vs : List Value}
    (h : Tree.itemValues? items = some vs) :
    List.Forall₂ Means (items.map fun tree => ⟨tree, anchored⟩) vs := by
  induction items generalizing vs with
  | nil =>
    cases h
    exact .nil
  | cons item items ih =>
    obtain ⟨v, hv, h⟩ := Option.bind_eq_some_iff.1 h
    obtain ⟨vs, hvs, h⟩ := Option.bind_eq_some_iff.1 h
    cases h
    exact .cons hv (ih hvs)

lemma forall₂_entries (anchored : List (Nat × Tree)) (entries : List (Tree × Tree))
    {es : List (String × Value)} (h : Tree.entryValues? entries = some es) :
    List.Forall₂ (fun (f : Node × Node) e => f.1.Means (.string e.1) ∧ f.2.Means e.2)
      (entries.map fun (key, tree) => (⟨key, anchored⟩, ⟨tree, anchored⟩)) es := by
  induction entries generalizing es with
  | nil =>
    cases h
    exact .nil
  | cons entry entries ih =>
    obtain ⟨key, tree⟩ := entry
    obtain ⟨name, hname, h⟩ := Option.bind_eq_some_iff.1 h
    obtain ⟨v, hv, h⟩ := Option.bind_eq_some_iff.1 h
    obtain ⟨es, hes, h⟩ := Option.bind_eq_some_iff.1 h
    cases h
    exact .cons ⟨Tree.value?_of_name? hname, hv⟩ (ih hes)

variable {n : Node}

/-- The items of a sequence stand for its values, in order. -/
lemma exists_items {vs : List Value} (h : n.Means (.sequence vs)) :
    ∃ ns, n.items = pure ns ∧ List.Forall₂ Means ns vs := by
  obtain ⟨a, trees, ht, hvs⟩ := exists_sequence h
  refine ⟨_, ?_, forall₂_items n.anchored trees hvs⟩
  rw [items, target_eq h, pure_bind, ht]

/-- The entries of a mapping stand for its keys and values, in order. -/
lemma exists_entries {es : List (String × Value)} (h : n.Means (.mapping es)) :
    ∃ fs, n.entries = pure fs ∧
      List.Forall₂ (fun (f : Node × Node) e => f.1.Means (.string e.1) ∧ f.2.Means e.2) fs es := by
  obtain ⟨a, trees, ht, hes⟩ := exists_mapping h
  refine ⟨_, ?_, forall₂_entries n.anchored trees hes⟩
  rw [entries, target_eq h, pure_bind, ht]

end Collections
end Node

/-- A list is read item by item. -/
lemma exists_mapM {α β γ : Type} {R : α → γ → Prop} {S : β → γ → Prop} {read : α → Reader β}
    (hread : ∀ x c, R x c → ∃ b, read x = pure b ∧ S b c) {xs : List α} {cs : List γ}
    (h : List.Forall₂ R xs cs) : ∃ bs, xs.mapM read = pure bs ∧ List.Forall₂ S bs cs := by
  induction h with
  | nil => exact ⟨[], rfl, .nil⟩
  | @cons x c xs cs hx hxs ih =>
    obtain ⟨b, hb, hbc⟩ := hread x c hx
    obtain ⟨bs, hbs, hbcs⟩ := ih
    refine ⟨b :: bs, ?_, .cons hbc hbcs⟩
    rw [List.mapM_cons, hb, pure_bind, hbs, pure_bind]

/-- A list is read as the list that both are written as, item by item. -/
lemma mapM_eq {α β γ : Type} {R : α → γ → Prop} {S : β → γ → Prop} {read : α → Reader β}
    (hread : ∀ x b c, R x c → S b c → read x = pure b) {xs : List α} {bs : List β} {cs : List γ}
    (hxs : List.Forall₂ R xs cs) (hbs : List.Forall₂ S bs cs) : xs.mapM read = pure bs := by
  induction hxs generalizing bs with
  | nil =>
    cases hbs
    rfl
  | cons hx _ ih =>
    cases hbs with
    | cons hb hbs => rw [List.mapM_cons, hread _ _ _ hx hb, pure_bind, ih hbs, pure_bind]

namespace Fields

/-- Whether fields have the names and the values of some entries. -/
def Mean (fields : Fields) (es : List (String × Value)) : Prop :=
  List.Forall₂ (fun f e => f.1 = e.1 ∧ f.2.Means e.2) fields es

lemma Mean.map_fst {fields : Fields} {es : List (String × Value)} (h : fields.Mean es) :
    fields.map (·.1) = es.map (·.1) := by
  induction h with
  | nil => rfl
  | cons hfield _ ih => rw [List.map_cons, List.map_cons, hfield.1, ih]

/-- A field is read where there is an entry of its name. -/
lemma get_eq {α : Type} {fields : Fields} {es : List (String × Value)} {name : String} {v : Value}
    {default a : α} {read : Node → Reader α} (h : fields.Mean es) (hv : es.lookup name = some v)
    (hread : ∀ n : Node, n.Means v → read n = pure a) : fields.get name default read = pure a := by
  have hfield : ∃ n : Node, List.lookup name fields = some n ∧ n.Means v := by
    induction h with
    | nil => cases hv
    | @cons f e fields es hfield _ ih =>
      rw [List.lookup_cons] at hv ⊢
      rw [hfield.1]
      split at hv
      · cases hv
        exact ⟨f.2, rfl, hfield.2⟩
      · exact ih hv
  obtain ⟨n, hn, hmeans⟩ := hfield
  rw [Fields.get, hn]
  exact hread n hmeans

end Fields

/-- The fields of a mapping are read if no key comes twice. -/
lemma Node.exists_fields {n : Node} {es : List (String × Value)} (h : n.Means (.mapping es))
    (hes : (es.map (·.1)).Nodup) :
    ∃ fields, (∀ known, n.fields known = pure fields) ∧ fields.Mean es := by
  obtain ⟨fs, hfs, hmeans⟩ := exists_entries h
  have hread (f : Node × Node) (e : String × Value)
      (hf : f.1.Means (.string e.1) ∧ f.2.Means e.2) :
      ∃ field : String × Node, (do return (← f.1.text, f.2)) = (pure field : Reader _) ∧
        field.1 = e.1 ∧ field.2.Means e.2 :=
    ⟨(e.1, f.2), by rw [text_eq hf.1, pure_bind], rfl, hf.2⟩
  obtain ⟨fields, hfields, hmean⟩ := exists_mapM hread hmeans
  have hkeys : fields.map (·.1) = es.map (·.1) := Fields.Mean.map_fst hmean
  refine ⟨fields, fun known => ?_, hmean⟩
  rw [Node.fields, hfs, pure_bind, hfields, pure_bind]
  have hknown : known.all fun key => (es.map (·.1)).count key ≤ 1 := by
    simpa using fun key _ => List.nodup_iff_count.1 hes key
  simp only [hkeys]
  exact if_pos hknown

/-- Whether a format reads a value back that it has written. -/
def Format.ReadsBack (f : Format) (v : Value) : Prop :=
  (f.read? (f.write v)).bind (·.tree.value?) = some v

end FacetSearch.Yaml
