import FacetSearch.Json.Basic
import Mathlib.Tactic.Common

/-! The text of a JSON string says which string it is, whatever follows. -/
namespace FacetSearch.Json

/-- The characters that have an escape of their own, each with the letter behind the backslash. -/
def shortEscapes : List (Char × Char) := [
  ('"', '"'), ('\\', '\\'), ('\x08', 'b'), ('\x0c', 'f'), ('\n', 'n'), ('\r', 'r'), ('\t', 't')]

lemma escaped_cases (c : Char) :
    (∃ e, (c, e) ∈ shortEscapes ∧ escaped c = ['\\', e]) ∨
    (c.toNat < 0x20 ∧ escaped c = '\\' :: 'u' :: hexQuad c.toNat) ∨
    (c ≠ '"' ∧ c ≠ '\\' ∧ escaped c = [c]) := by
  unfold escaped
  split
  · exact .inl ⟨'"', by decide, rfl⟩
  · exact .inl ⟨'\\', by decide, rfl⟩
  · exact .inl ⟨'b', by decide, rfl⟩
  · exact .inl ⟨'f', by decide, rfl⟩
  · exact .inl ⟨'n', by decide, rfl⟩
  · exact .inl ⟨'r', by decide, rfl⟩
  · exact .inl ⟨'t', by decide, rfl⟩
  · next hquote hbackslash _ _ _ _ _ =>
    split
    · next hc => exact .inr (.inl ⟨hc, rfl⟩)
    · exact .inr (.inr ⟨hquote, hbackslash, rfl⟩)

lemma shortEscapes_inj : ∀ x ∈ shortEscapes, ∀ y ∈ shortEscapes, x.2 = y.2 → x.1 = y.1 := by
  decide

lemma shortEscapes_ne : ∀ x ∈ shortEscapes, x.2 ≠ 'u' := by
  decide

lemma length_hexQuad : ∀ n < 0x20, (hexQuad n).length = 4 := by
  decide

lemma hexQuad_inj : ∀ m < 0x20, ∀ n < 0x20, hexQuad m = hexQuad n → m = n := by
  decide +kernel

lemma escaped_append_inj {c d : Char} {r s : List Char} (h : escaped c ++ r = escaped d ++ s) :
    c = d ∧ r = s := by
  rcases escaped_cases c with ⟨e, he, hc⟩ | ⟨hlow, hc⟩ | ⟨-, hbackslash, hc⟩ <;>
    rcases escaped_cases d with ⟨e', he', hd⟩ | ⟨hlow', hd⟩ | ⟨-, hbackslash', hd⟩ <;>
    rw [hc, hd] at h <;> simp only [List.cons_append, List.nil_append, List.cons.injEq] at h
  · obtain ⟨-, rfl, hrs⟩ := h
    exact ⟨shortEscapes_inj _ he _ he' rfl, hrs⟩
  · exact absurd h.2.1 (shortEscapes_ne _ he)
  · exact absurd h.1.symm hbackslash'
  · exact absurd h.2.1.symm (shortEscapes_ne _ he')
  · have hlength : (hexQuad c.toNat).length = (hexQuad d.toNat).length := by
      rw [length_hexQuad _ hlow, length_hexQuad _ hlow']
    obtain ⟨hquad, hrs⟩ := List.append_inj h.2.2 hlength
    exact ⟨Char.toNat_inj.1 (hexQuad_inj _ hlow _ hlow' hquad), hrs⟩
  · exact absurd h.1.symm hbackslash'
  · exact absurd h.1 hbackslash
  · exact absurd h.1 hbackslash
  · exact h

/-- No character is escaped to something that starts like the closing quote. -/
lemma escaped_append_ne (c : Char) (r s : List Char) : escaped c ++ r ≠ '"' :: s := by
  intro h
  rcases escaped_cases c with ⟨e, -, hc⟩ | ⟨-, hc⟩ | ⟨hquote, -, hc⟩ <;> rw [hc] at h <;>
    simp_all

lemma escapes_append_inj {cs ds r s : List Char}
    (h : cs.flatMap escaped ++ '"' :: r = ds.flatMap escaped ++ '"' :: s) : cs = ds ∧ r = s := by
  induction cs generalizing ds with
  | nil =>
    cases ds with
    | nil => simpa using h
    | cons d ds =>
      rw [List.flatMap_cons, List.append_assoc] at h
      exact absurd h.symm (escaped_append_ne d _ _)
  | cons c cs ih =>
    cases ds with
    | nil =>
      rw [List.flatMap_cons, List.append_assoc] at h
      exact absurd h (escaped_append_ne c _ _)
    | cons d ds =>
      simp only [List.flatMap_cons, List.append_assoc] at h
      obtain ⟨rfl, hrest⟩ := escaped_append_inj h
      obtain ⟨rfl, hrs⟩ := ih hrest
      exact ⟨rfl, hrs⟩

lemma toList_quote (s : String) : (quote s).toList = '"' :: (s.toList.flatMap escaped ++ ['"']) := by
  simp [quote]

lemma quote_append_inj {a b : String} {r s : List Char}
    (h : (quote a).toList ++ r = (quote b).toList ++ s) : a = b ∧ r = s := by
  simp only [toList_quote, List.cons_append, List.append_assoc, List.cons.injEq, true_and,
    List.nil_append] at h
  obtain ⟨hab, hrs⟩ := escapes_append_inj h
  exact ⟨String.toList_inj.1 hab, hrs⟩

end FacetSearch.Json
