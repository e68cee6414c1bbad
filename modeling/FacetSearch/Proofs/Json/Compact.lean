import FacetSearch.Proofs.Json.Quote
import FacetSearch.Proofs.Text.Numeral

/-! The shortest text of a JSON value is that of no other value. -/
namespace FacetSearch.Json

/-- What the first character of a text tells about the value. -/
inductive Shape
  | null
  | bool
  | number
  | string
  | array
  | object
  deriving DecidableEq

def Shape.ofChar? (c : Char) : Option Shape :=
  if c = '-' ∨ c.isDigit then some number
  else if c = 'n' then some null
  else if c = 't' ∨ c = 'f' then some bool
  else if c = '"' then some string
  else if c = '[' then some array
  else if c = '\x7b' then some object
  else none

def shape : Json → Shape
  | null => .null
  | bool _ => .bool
  | integer _ => .number
  | decimal .. => .number
  | string _ => .string
  | array _ => .array
  | object _ => .object

/-- A field of an object in its text. -/
def entry (field : String × Json) : String := quote field.1 ++ ":" ++ field.2.compact

lemma compactItems_eq_map (vs : List Json) : compactItems vs = vs.map compact := by
  induction vs with
  | nil => rfl
  | cons v vs ih => rw [compactItems, ih, List.map_cons]

lemma compactFields_eq_map (fields : List (String × Json)) :
    compactFields fields = fields.map entry := by
  induction fields with
  | nil => rfl
  | cons field fields ih => rw [compactFields, ih, List.map_cons, entry]

lemma toList_decimal (m e : Int) :
    (decimal m e).compact.toList = (toString m).toList ++ 'e' :: (toString e).toList := by
  rw [compact, scientific, String.toList_append, String.toList_append, List.append_assoc]
  rfl

lemma toList_array (vs : List Json) :
    (array vs).compact.toList = '[' :: ((",".intercalate (vs.map compact)).toList ++ [']']) := by
  rw [compact, compactItems_eq_map, String.toList_append, String.toList_append]
  rfl

lemma toList_object (fields : List (String × Json)) :
    (object fields).compact.toList =
      '\x7b' :: ((",".intercalate (fields.map entry)).toList ++ ['\x7d']) := by
  rw [compact, compactFields_eq_map, String.toList_append, String.toList_append]
  rfl

lemma toList_entry (field : String × Json) :
    (entry field).toList = (quote field.1).toList ++ ':' :: field.2.compact.toList := by
  rw [entry, String.toList_append, String.toList_append, List.append_assoc]
  rfl

lemma shape_toString (n : Int) :
    ∃ c t, (toString n).toList = c :: t ∧ Shape.ofChar? c = some .number := by
  rw [Text.toList_toString_int]
  split
  · obtain ⟨c, t, h⟩ := List.exists_cons_of_ne_nil (Nat.toDigits_ne_nil (n := n.toNat) (b := 10))
    have hc : c.isDigit := Text.isDigit_of_mem_toDigits (n := n.toNat) (h ▸ List.mem_cons_self)
    exact ⟨c, t, h, by simp [Shape.ofChar?, hc]⟩
  · exact ⟨'-', _, rfl, rfl⟩

/-- The text of a value starts with a character of its shape. -/
lemma shape_compact (v : Json) :
    ∃ c t, v.compact.toList = c :: t ∧ Shape.ofChar? c = some v.shape := by
  cases v with
  | null => exact ⟨'n', _, rfl, rfl⟩
  | bool b => cases b <;> exact ⟨_, _, rfl, rfl⟩
  | integer n => exact shape_toString n
  | decimal m e =>
    obtain ⟨c, t, h, hc⟩ := shape_toString m
    exact ⟨c, _, by rw [toList_decimal, h, List.cons_append], hc⟩
  | string s => exact ⟨'"', _, toList_quote s, rfl⟩
  | array vs => exact ⟨'[', _, toList_array vs, rfl⟩
  | object fields => exact ⟨'\x7b', _, toList_object fields, rfl⟩

lemma cons_ne_compact_append {c : Char} (hc : Shape.ofChar? c = none) (v : Json) (r s : List Char) :
    c :: r ≠ v.compact.toList ++ s := by
  obtain ⟨d, t, hv, hd⟩ := shape_compact v
  rw [hv]
  intro h
  rw [(List.cons.inj h).1, hd] at hc
  cases hc

lemma shape_eq_of_append_eq {v w : Json} {r s : List Char}
    (h : v.compact.toList ++ r = w.compact.toList ++ s) : v.shape = w.shape := by
  obtain ⟨c, t, hv, hc⟩ := shape_compact v
  obtain ⟨d, u, hw, hd⟩ := shape_compact w
  rw [hv, hw] at h
  obtain ⟨rfl, -⟩ := List.cons.inj h
  exact Option.some.inj (hc.symm.trans hd)

/-- What may stand behind a value: nothing, a comma or a closing bracket. -/
def Stops (r : List Char) : Prop := ∀ c ∈ r.head?, c ∈ [',', ']', '\x7d']

lemma stops_cons {c : Char} (hc : c ∈ [',', ']', '\x7d']) (r : List Char) : Stops (c :: r) := by
  rintro d ⟨⟩
  exact hc

lemma Stops.not_isDigit {r : List Char} (hr : Stops r) : ∀ c ∈ r.head?, c.isDigit = false := by
  intro c hc
  have hall : [',', ']', '\x7d'].all (!·.isDigit) := by decide
  simpa using List.all_eq_true.1 hall c (hr c hc)

lemma Stops.ne_exponent {r : List Char} (hr : Stops r) (t : List Char) : r ≠ 'e' :: t := by
  rintro rfl
  exact absurd (hr 'e' rfl) (by decide)

/-- Whether a value can be told from the front of a text. -/
def Cancels (v : Json) : Prop :=
  ∀ (w : Json) (r s : List Char), Stops r → Stops s →
    v.compact.toList ++ r = w.compact.toList ++ s → v = w ∧ r = s

lemma null_cancels : Cancels null := by
  intro w r s _ _ h
  have hshape := shape_eq_of_append_eq h
  cases w with
  | null => exact ⟨rfl, List.append_cancel_left h⟩
  | _ => cases hshape

lemma bool_cancels (b : Bool) : Cancels (bool b) := by
  intro w r s _ _ h
  have hshape := shape_eq_of_append_eq h
  cases w with
  | bool b' =>
    cases b <;> cases b'
    · exact ⟨rfl, List.append_cancel_left h⟩
    · cases (List.cons.inj h).1
    · cases (List.cons.inj h).1
    · exact ⟨rfl, List.append_cancel_left h⟩
  | _ => cases hshape

section Numbers

variable {m n e : Int} {r s : List Char}

lemma not_isDigit_exponent (e : Int) (r : List Char) :
    ∀ c ∈ ('e' :: ((toString e).toList ++ r)).head?, c.isDigit = false := by
  rintro c ⟨⟩
  decide

/-- Behind the digits of an integer there is no exponent. -/
lemma integer_append_ne_decimal (hr : Stops r) :
    (integer n).compact.toList ++ r ≠ (decimal m e).compact.toList ++ s := by
  intro h
  rw [toList_decimal, List.append_assoc, List.cons_append] at h
  exact hr.ne_exponent _
    (Text.toString_int_append_inj hr.not_isDigit (not_isDigit_exponent e s) h).2

lemma integer_cancels (n : Int) : Cancels (integer n) := by
  intro w r s hr hs h
  have hshape := shape_eq_of_append_eq h
  cases w with
  | integer m =>
    obtain ⟨rfl, hrs⟩ := Text.toString_int_append_inj hr.not_isDigit hs.not_isDigit h
    exact ⟨rfl, hrs⟩
  | decimal m e => exact absurd h (integer_append_ne_decimal hr)
  | _ => cases hshape

lemma decimal_cancels (m e : Int) : Cancels (decimal m e) := by
  intro w r s hr hs h
  have hshape := shape_eq_of_append_eq h
  cases w with
  | integer n => exact absurd h.symm (integer_append_ne_decimal hs)
  | decimal m' e' =>
    rw [toList_decimal, toList_decimal, List.append_assoc, List.append_assoc, List.cons_append,
      List.cons_append] at h
    obtain ⟨rfl, hrest⟩ :=
      Text.toString_int_append_inj (not_isDigit_exponent e r) (not_isDigit_exponent e' s) h
    obtain ⟨rfl, hrs⟩ :=
      Text.toString_int_append_inj hr.not_isDigit hs.not_isDigit (List.cons.inj hrest).2
    exact ⟨rfl, hrs⟩
  | _ => cases hshape

end Numbers

lemma string_cancels (a : String) : Cancels (string a) := by
  intro w r s _ _ h
  have hshape := shape_eq_of_append_eq h
  cases w with
  | string b =>
    obtain ⟨rfl, hrs⟩ := quote_append_inj h
    exact ⟨rfl, hrs⟩
  | _ => cases hshape

/-- A list of parts between commas is told from the front of a text if each of them is. -/
lemma list_cancels {α : Type} {f : α → String} {closing : Char} {xs ys : List α} {r s : List Char}
    (hclosing : closing ∈ [']', '\x7d'])
    (hparts : ∀ x ∈ xs, ∀ y r s, Stops r → Stops s →
      (f x).toList ++ r = (f y).toList ++ s → x = y ∧ r = s)
    (hfirst : ∀ x r s, closing :: r ≠ (f x).toList ++ s)
    (h : (",".intercalate (xs.map f)).toList ++ closing :: r =
      (",".intercalate (ys.map f)).toList ++ closing :: s) : xs = ys ∧ r = s := by
  have hend (t : List Char) (ht : t.head? = some closing) : ∃ u, t = closing :: u :=
    List.head?_eq_some_iff.1 ht
  have hstop : closing ∈ [',', ']', '\x7d'] := List.mem_cons_of_mem _ hclosing
  have hcomma : closing ≠ ',' := by
    rintro rfl
    exact absurd hclosing (by decide)
  obtain ⟨hxy, hrs⟩ := Text.intercalate_append_inj "," f id Stops (·.head? = some closing)
    (fun x hx y _ => hparts x hx y) (fun t => stops_cons (by decide) t)
    (fun t ht => by
      obtain ⟨u, rfl⟩ := hend t ht
      exact ⟨stops_cons hstop u, fun v hv => hcomma (List.cons.inj hv).1⟩)
    (fun t ht x v => by
      obtain ⟨u, rfl⟩ := hend t ht
      exact hfirst x u v)
    rfl rfl h
  exact ⟨by simpa using hxy, (List.cons.inj hrs).2⟩

lemma array_cancels {vs : List Json} (hvs : ∀ v ∈ vs, Cancels v) : Cancels (array vs) := by
  intro w r s _ _ h
  have hshape := shape_eq_of_append_eq h
  cases w with
  | array ws =>
    rw [toList_array, toList_array, List.cons_append, List.cons_append, List.append_assoc,
      List.append_assoc] at h
    obtain ⟨rfl, hrs⟩ := list_cancels (by decide) (fun v hv => hvs v hv)
      (cons_ne_compact_append (by decide)) (List.cons.inj h).2
    exact ⟨rfl, hrs⟩
  | _ => cases hshape

lemma object_cancels {fields : List (String × Json)} (hfields : ∀ field ∈ fields, Cancels field.2) :
    Cancels (object fields) := by
  intro w r s _ _ h
  have hshape := shape_eq_of_append_eq h
  have hentry : ∀ field ∈ fields, ∀ field' r s, Stops r → Stops s →
      (entry field).toList ++ r = (entry field').toList ++ s → field = field' ∧ r = s := by
    intro field hfield field' r s hr hs h
    rw [toList_entry, toList_entry, List.append_assoc, List.append_assoc, List.cons_append,
      List.cons_append] at h
    obtain ⟨hname, hrest⟩ := quote_append_inj h
    obtain ⟨hvalue, hrs⟩ := hfields field hfield _ r s hr hs (List.cons.inj hrest).2
    exact ⟨Prod.ext hname hvalue, hrs⟩
  cases w with
  | object fields' =>
    rw [toList_object, toList_object, List.cons_append, List.cons_append, List.append_assoc,
      List.append_assoc] at h
    obtain ⟨rfl, hrs⟩ := list_cancels (by decide) hentry (fun field r s h => by
      rw [toList_entry, toList_quote] at h
      cases (List.cons.inj h).1) (List.cons.inj h).2
    exact ⟨rfl, hrs⟩
  | _ => cases hshape

mutual
lemma cancels (v : Json) : Cancels v := by
  match v with
  | null => exact null_cancels
  | bool b => exact bool_cancels b
  | integer n => exact integer_cancels n
  | decimal m e => exact decimal_cancels m e
  | string s => exact string_cancels s
  | array vs => exact array_cancels (forall_mem_cancels vs)
  | object fields => exact object_cancels (forall_mem_cancels_snd fields)

lemma forall_mem_cancels (vs : List Json) : ∀ v ∈ vs, Cancels v := by
  match vs with
  | [] => simp
  | v :: vs =>
    rw [List.forall_mem_cons]
    exact ⟨cancels v, forall_mem_cancels vs⟩

lemma forall_mem_cancels_snd (fields : List (String × Json)) :
    ∀ field ∈ fields, Cancels field.2 := by
  match fields with
  | [] => simp
  | (_, v) :: fields =>
    rw [List.forall_mem_cons]
    exact ⟨cancels v, forall_mem_cancels_snd fields⟩
end

theorem compact_injective : Function.Injective compact := by
  intro v w h
  have hnil : Stops [] := by simp [Stops]
  have htext : v.compact.toList ++ [] = w.compact.toList ++ [] := by rw [h]
  exact (cancels v w [] [] hnil hnil htext).1

end FacetSearch.Json
