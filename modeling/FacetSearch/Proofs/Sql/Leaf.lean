import FacetSearch.Proofs.Json.Compact
import FacetSearch.Proofs.Sql.Region
import FacetSearch.Proofs.Text.Numeral

/-! The text of a test says which attribute is tested and how, and where the test ends. -/
namespace FacetSearch

/-- A test without the flag that its text does not show. -/
def Test.shown : Test → Test
  | .comparison op v _ => .comparison op v false
  | t => t

namespace Sql

/-- What may follow a part of a statement: nothing, a blank, a comma or a closing parenthesis. -/
def Stops (r : List Char) : Prop := ∀ c ∈ r.head?, c = ' ' ∨ c = ',' ∨ c = ')'

lemma stops_cons {c : Char} {r : List Char} (h : c = ' ' ∨ c = ',' ∨ c = ')') :
    Stops (c :: r) := by
  simpa [Stops] using h

lemma Stops.ne_char {r : List Char} (h : Stops r) (m : Mark) (s : List Char) : r ≠ m.char :: s := by
  rintro rfl
  cases m <;> simp [Stops, Mark.char] at h

lemma Stops.not_digit {r : List Char} (h : Stops r) : ∀ c ∈ r.head?, c.isDigit = false := by
  intro c hc
  rcases h c hc with rfl | rfl | rfl <;> rfl

lemma doubled_append_inj (m : Mark) {s t u v : List Char} (hu : ∀ w, u ≠ m.char :: w)
    (hv : ∀ w, v ≠ m.char :: w)
    (h : Text.doubled m.char s ++ m.char :: u = Text.doubled m.char t ++ m.char :: v) :
    s = t ∧ u = v := by
  induction s generalizing t with
  | nil =>
    cases t with
    | nil => simpa using h
    | cons d t =>
      by_cases hd : d = m.char
      · simp only [Text.doubled_nil, Text.doubled_cons, hd, if_true, List.nil_append,
          List.cons_append, List.cons.injEq, true_and] at h
        exact absurd h (hu _)
      · simp only [Text.doubled_nil, Text.doubled_cons, hd, if_false, List.nil_append,
          List.cons_append, List.cons.injEq] at h
        exact absurd h.1.symm hd
  | cons c s ih =>
    cases t with
    | nil =>
      by_cases hc : c = m.char
      · simp only [Text.doubled_nil, Text.doubled_cons, hc, if_true, List.nil_append,
          List.cons_append, List.cons.injEq, true_and] at h
        exact absurd h.symm (hv _)
      · simp only [Text.doubled_nil, Text.doubled_cons, hc, if_false, List.nil_append,
          List.cons_append, List.cons.injEq] at h
        exact h.1.elim
    | cons d t =>
      by_cases hc : c = m.char <;> by_cases hd : d = m.char <;>
        simp only [Text.doubled_cons, hc, hd, if_true, if_false, List.nil_append, List.cons_append,
          List.cons.injEq, true_and] at h
      · obtain ⟨rfl, huv⟩ := ih h
        exact ⟨by rw [hc, hd], huv⟩
      · exact absurd h.1.symm hd
      · exact h.1.elim
      · obtain ⟨rfl, hrest⟩ := h
        obtain ⟨rfl, huv⟩ := ih hrest
        exact ⟨rfl, huv⟩

lemma toList_enclosed (m : Mark) (s : String) :
    (enclosed m.char s).toList = m.char :: (Text.doubled m.char s.toList ++ [m.char]) := by
  simp [enclosed]

/-- An enclosed text is read back if what follows does not go on with its mark. -/
lemma enclosed_append_inj (m : Mark) {a b : String} {r s : List Char} (hr : Stops r) (hs : Stops s)
    (h : (enclosed m.char a).toList ++ r = (enclosed m.char b).toList ++ s) : a = b ∧ r = s := by
  simp only [toList_enclosed, List.cons_append, List.append_assoc, List.cons.injEq, true_and,
    List.nil_append] at h
  obtain ⟨hab, hrs⟩ := doubled_append_inj m (hr.ne_char m) (hs.ne_char m) h
  exact ⟨String.toList_inj.1 hab, hrs⟩

lemma identifier_append_inj {a b : String} {r s : List Char} (hr : Stops r) (hs : Stops s)
    (h : (identifier a).toList ++ r = (identifier b).toList ++ s) : a = b ∧ r = s :=
  enclosed_append_inj .name hr hs h

lemma string_append_inj {a b : String} {r s : List Char} (hr : Stops r) (hs : Stops s)
    (h : (string a).toList ++ r = (string b).toList ++ s) : a = b ∧ r = s :=
  enclosed_append_inj .text hr hs h

lemma toList_identifier (a : String) :
    (identifier a).toList = '"' :: (Text.doubled '"' a.toList ++ ['"']) := toList_enclosed .name a

lemma toList_string (a : String) :
    (string a).toList = '\'' :: (Text.doubled '\'' a.toList ++ ['\'']) := toList_enclosed .text a

lemma toString_int_ne_quote (n : Int) (r s : List Char) : (toString n).toList ++ r ≠ '\'' :: s := by
  rw [Text.toList_toString_int]
  split
  · exact Text.run_append_ne_cons (fun c hc => Text.isDigit_of_mem_toDigits hc)
      Nat.toDigits_ne_nil (by decide) r s
  · intro h
    exact absurd (List.cons.inj h).1 (by decide)

lemma int64_append_inj {m n : Int64} {r s : List Char} (hr : Stops r) (hs : Stops s)
    (h : (toString m.toInt).toList ++ r = (toString n.toInt).toList ++ s) : m = n ∧ r = s := by
  obtain ⟨hmn, hrs⟩ := Text.toString_int_append_inj hr.not_digit hs.not_digit h
  exact ⟨Int64.toInt_inj.1 hmn, hrs⟩

lemma value_append_inj {v w : Value} {r s : List Char} (hr : Stops r) (hs : Stops s)
    (h : (value v).toList ++ r = (value w).toList ++ s) : v = w ∧ r = s := by
  cases v with
  | integer m =>
    cases w with
    | integer n =>
      obtain ⟨rfl, hrs⟩ := int64_append_inj hr hs h
      exact ⟨rfl, hrs⟩
    | text b =>
      simp only [value, toList_string, List.cons_append] at h
      exact absurd h (toString_int_ne_quote _ _ _)
  | text a =>
    cases w with
    | integer n =>
      simp only [value, toList_string, List.cons_append] at h
      exact absurd h.symm (toString_int_ne_quote _ _ _)
    | text b =>
      obtain ⟨rfl, hrs⟩ := string_append_inj hr hs h
      exact ⟨rfl, hrs⟩

/-- Operators that start others are told from them by the next character. -/
lemma symbol_append_inj {op op' : Operator} {r s : List Char} (hr : ∀ t, r ≠ '=' :: t)
    (hs : ∀ t, s ≠ '=' :: t) (h : op.symbol.toList ++ r = op'.symbol.toList ++ s) :
    op = op' ∧ r = s := by
  have hr' (t : List Char) : '=' :: t ≠ r := (hr t).symm
  have hs' (t : List Char) : '=' :: t ≠ s := (hs t).symm
  cases op <;> cases op' <;> simp_all [Operator.symbol]

/-- What a test shows behind its attribute. -/
def question : Test → String
  | .comparison op v _ => " " ++ op.symbol ++ " " ++ value v
  | .range low high negated =>
    " " ++ not negated ++ "between " ++ toString low.toInt ++ " and " ++ toString high.toInt
  | .inList vs negated => " " ++ not negated ++ "in (" ++ ", ".intercalate (vs.map string) ++ ")"
  | .isNull negated => " is " ++ not negated ++ "null"
  | .arrayContains vs => " @> " ++ string (Json.array (vs.map .string)).compact

lemma test_eq (a : String) (t : Test) : test a t = identifier a ++ question t := by
  cases t <;> simp only [test, question, String.append_assoc]

lemma stops_question (t : Test) (r : List Char) : Stops ((question t).toList ++ r) := by
  cases t <;> simp [question, Stops]

lemma strings_append_inj {vs ws : List String} {r s : List Char}
    (h : (", ".intercalate (vs.map string)).toList ++ ')' :: r =
      (", ".intercalate (ws.map string)).toList ++ ')' :: s) : vs = ws ∧ r = s := by
  have hinj := Text.intercalate_append_inj ", " string id Stops (fun r => ∃ t, r = ')' :: t)
    (fun _ _ _ _ _ _ hr hs hab => string_append_inj hr hs hab) (fun t => by simp [Stops])
    (by rintro _ ⟨t, rfl⟩; exact ⟨by simp [Stops], by simp⟩)
    (by rintro _ ⟨t, rfl⟩ x u hx; simp [toList_string] at hx) ⟨r, rfl⟩ ⟨s, rfl⟩ h
  exact ⟨by simpa using hinj.1, (List.cons.inj hinj.2).2⟩

/-- The kind of a test, read off what its text shows behind the attribute. -/
def kind : List Char → ℕ
  | ' ' :: 'b' :: _ => 1
  | ' ' :: 'n' :: 'o' :: 't' :: ' ' :: 'b' :: _ => 1
  | ' ' :: 'i' :: 'n' :: _ => 2
  | ' ' :: 'n' :: 'o' :: 't' :: ' ' :: 'i' :: _ => 2
  | ' ' :: 'i' :: 's' :: _ => 3
  | ' ' :: '@' :: _ => 4
  | _ => 0

lemma kind_question (t : Test) (r : List Char) : kind ((question t).toList ++ r) = t.ctorIdx := by
  cases t with
  | comparison op v negated => cases op <;> simp [question, Operator.symbol, kind, Test.ctorIdx]
  | range low high negated => cases negated <;> simp [question, not, kind, Test.ctorIdx]
  | inList vs negated => cases negated <;> simp [question, not, kind, Test.ctorIdx]
  | isNull negated => cases negated <;> simp [question, not, kind, Test.ctorIdx]
  | arrayContains vs => simp [question, kind, Test.ctorIdx]

lemma comparison_append_inj {op op' : Operator} {v w : Value} {b b' : Bool} {r s : List Char}
    (hr : Stops r) (hs : Stops s)
    (h : (question (.comparison op v b)).toList ++ r =
      (question (.comparison op' w b')).toList ++ s) : op = op' ∧ v = w ∧ r = s := by
  simp only [question, String.toList_append, List.append_assoc] at h
  obtain ⟨rfl, hvalue⟩ := symbol_append_inj (by simp) (by simp) (List.append_cancel_left h)
  obtain ⟨rfl, hrs⟩ := value_append_inj hr hs (List.append_cancel_left hvalue)
  exact ⟨rfl, rfl, hrs⟩

/-- The word `not` is told from what else may stand in its place by its first letter. -/
lemma not_append_inj {b b' : Bool} {r s : List Char} (hr : ∀ t, r ≠ 'n' :: t)
    (hs : ∀ t, s ≠ 'n' :: t) (h : (not b).toList ++ r = (not b').toList ++ s) : b = b' ∧ r = s := by
  have hr' (t : List Char) : 'n' :: t ≠ r := (hr t).symm
  have hs' (t : List Char) : 'n' :: t ≠ s := (hs t).symm
  cases b <;> cases b' <;> simp_all [not]

lemma range_append_inj {low high low' high' : Int64} {b b' : Bool} {r s : List Char}
    (hr : Stops r) (hs : Stops s)
    (h : (question (.range low high b)).toList ++ r =
      (question (.range low' high' b')).toList ++ s) :
    low = low' ∧ high = high' ∧ b = b' ∧ r = s := by
  simp only [question, String.toList_append, List.append_assoc] at h
  obtain ⟨rfl, hbetween⟩ := not_append_inj (by simp) (by simp) (List.append_cancel_left h)
  obtain ⟨rfl, hand⟩ := int64_append_inj (by simp [Stops]) (by simp [Stops])
    (List.append_cancel_left hbetween)
  obtain ⟨rfl, hrs⟩ := int64_append_inj hr hs (List.append_cancel_left hand)
  exact ⟨rfl, rfl, rfl, hrs⟩

lemma inList_append_inj {vs ws : List String} {b b' : Bool} {r s : List Char}
    (h : (question (.inList vs b)).toList ++ r = (question (.inList ws b')).toList ++ s) :
    vs = ws ∧ b = b' ∧ r = s := by
  simp only [question, String.toList_append, List.append_assoc] at h
  obtain ⟨rfl, hin⟩ := not_append_inj (by simp) (by simp) (List.append_cancel_left h)
  obtain ⟨rfl, hrs⟩ := strings_append_inj (List.append_cancel_left hin)
  exact ⟨rfl, rfl, hrs⟩

lemma isNull_append_inj {b b' : Bool} {r s : List Char}
    (h : (question (.isNull b)).toList ++ r = (question (.isNull b')).toList ++ s) :
    b = b' ∧ r = s := by
  simp only [question, String.toList_append, List.append_assoc] at h
  cases b <;> cases b' <;> simp_all [not]

lemma arrayContains_append_inj {vs ws : List String} {r s : List Char} (hr : Stops r)
    (hs : Stops s)
    (h : (question (.arrayContains vs)).toList ++ r = (question (.arrayContains ws)).toList ++ s) :
    vs = ws ∧ r = s := by
  simp only [question, String.toList_append, List.append_assoc] at h
  obtain ⟨harray, hrs⟩ := string_append_inj hr hs (List.append_cancel_left h)
  have hitems := Json.array.inj (Json.compact_injective harray)
  exact ⟨(List.map_inj_right fun _ _ => Json.string.inj).1 hitems, hrs⟩

lemma question_append_inj {t u : Test} {r s : List Char} (hr : Stops r) (hs : Stops s)
    (h : (question t).toList ++ r = (question u).toList ++ s) : t.shown = u.shown ∧ r = s := by
  have hkind : t.ctorIdx = u.ctorIdx := by rw [← kind_question t r, h, kind_question]
  cases t with
  | comparison op v negated =>
    cases u with
    | comparison op' w negated' =>
      obtain ⟨rfl, rfl, hrs⟩ := comparison_append_inj hr hs h
      exact ⟨rfl, hrs⟩
    | _ => cases hkind
  | range low high negated =>
    cases u with
    | range low' high' negated' =>
      obtain ⟨rfl, rfl, rfl, hrs⟩ := range_append_inj hr hs h
      exact ⟨rfl, hrs⟩
    | _ => cases hkind
  | inList vs negated =>
    cases u with
    | inList ws negated' =>
      obtain ⟨rfl, rfl, hrs⟩ := inList_append_inj h
      exact ⟨rfl, hrs⟩
    | _ => cases hkind
  | isNull negated =>
    cases u with
    | isNull negated' =>
      obtain ⟨rfl, hrs⟩ := isNull_append_inj h
      exact ⟨rfl, hrs⟩
    | _ => cases hkind
  | arrayContains vs =>
    cases u with
    | arrayContains ws =>
      obtain ⟨rfl, hrs⟩ := arrayContains_append_inj hr hs h
      exact ⟨rfl, hrs⟩
    | _ => cases hkind

lemma test_append_inj {a b : String} {t u : Test} {r s : List Char} (hr : Stops r) (hs : Stops s)
    (h : (test a t).toList ++ r = (test b u).toList ++ s) :
    a = b ∧ t.shown = u.shown ∧ r = s := by
  rw [test_eq, test_eq, String.toList_append, String.toList_append, List.append_assoc,
    List.append_assoc] at h
  obtain ⟨hab, hquestion⟩ := identifier_append_inj (stops_question t r) (stops_question u s) h
  exact ⟨hab, question_append_inj hr hs hquestion⟩

/-- What a test does not show does not change its text. -/
lemma test_shown (a : String) (t : Test) : test a t.shown = test a t := by
  cases t <;> rfl

end Sql
end FacetSearch
