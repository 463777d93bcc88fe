import Yuml.Proofs.Cutting

/-!
# Exposed characters: what no backslash protects

A text is read from the left with a backslash taking the character behind it along. What is left are
the EXPOSED characters (`exposed`): a protected character is none of them, and neither is the
backslash that protects it, so an exposed backslash is the last character of its text and has nothing
to protect (`eq_concat_of_backslash_mem_exposed`).

Reading goes on behind a text without an exposed backslash as if it began there (`exposed_append`).
Trimming exposes nothing but, perhaps, a backslash that had protected white space
(`mem_exposed_of_mem_exposed_trim`).
-/

namespace Yuml.Text

/-- The characters that no backslash protects, read from the left. -/
def exposed : Text → Text
  | [] => []
  | [c] => [c]
  | c :: d :: r => if c = '\\' then exposed r else c :: exposed (d :: r)

/-! ## 1. One character and two -/

theorem exposed_cons_of_ne {c : Char} (h : c ≠ '\\') (r : Text) :
    exposed (c :: r) = c :: exposed r := by
  cases r with
  | nil => rfl
  | cons d r => exact if_neg h

theorem exposed_escape (c : Char) (r : Text) : exposed ('\\' :: c :: r) = exposed r := if_pos rfl

theorem mem_of_mem_exposed {s : Text} {c : Char} (h : c ∈ exposed s) : c ∈ s := by
  fun_induction exposed s with
  | case1 => exact h
  | case2 d => exact h
  | case3 d r ih => exact List.mem_cons_of_mem _ (List.mem_cons_of_mem d (ih h))
  | case4 d e r hd ih =>
    rcases List.mem_cons.mp h with rfl | h
    · exact List.mem_cons_self
    · exact List.mem_cons_of_mem d (ih h)

/-- An exposed backslash is the last character, and no other one is exposed. -/
theorem eq_concat_of_backslash_mem_exposed {s : Text} (h : '\\' ∈ exposed s) :
    ∃ front, s = front ++ ['\\'] ∧ '\\' ∉ exposed front := by
  fun_induction exposed s with
  | case1 => exact absurd h List.not_mem_nil
  | case2 d =>
    obtain rfl := List.mem_singleton.mp h
    exact ⟨[], rfl, List.not_mem_nil⟩
  | case3 d r ih =>
    obtain ⟨front, rfl, hfront⟩ := ih h
    exact ⟨'\\' :: d :: front, rfl, (exposed_escape d front).symm ▸ hfront⟩
  | case4 d e r hd ih =>
    rcases List.mem_cons.mp h with h | h
    · exact absurd h.symm hd
    · obtain ⟨front, hr, hfront⟩ := ih h
      refine ⟨d :: front, by rw [hr]; rfl, ?_⟩
      rw [exposed_cons_of_ne hd]
      exact List.not_mem_cons_of_ne_of_not_mem (Ne.symm hd) hfront

/-! ## 2. A text behind another -/

/-- **Behind a text in which every backslash protects something, reading begins anew.** -/
theorem exposed_append {a : Text} (h : '\\' ∉ exposed a) (b : Text) :
    exposed (a ++ b) = exposed a ++ exposed b := by
  fun_induction exposed a with
  | case1 => rfl
  | case2 d => exact exposed_cons_of_ne (fun e => h (e ▸ List.mem_cons_self)) b
  | case3 d r ih => rw [List.cons_append, List.cons_append, exposed_escape, ih h]
  | case4 d e r hd ih =>
    rw [List.cons_append, exposed_cons_of_ne hd, ih fun hm => h (List.mem_cons_of_mem d hm)]
    rfl

/-- A character that ends a text unexposed stands behind a backslash. -/
theorem eq_concat_of_not_mem_exposed {s : Text} {c : Char} (h : c ∉ exposed (s ++ [c])) :
    ∃ front, s = front ++ ['\\'] := by
  by_cases hs : '\\' ∈ exposed s
  · obtain ⟨front, hfront, -⟩ := eq_concat_of_backslash_mem_exposed hs
    exact ⟨front, hfront⟩
  · rw [exposed_append hs] at h
    exact absurd (List.mem_append_right _ List.mem_cons_self) h

theorem exposed_escape_append {a : Text} (h : '\\' ∉ exposed a) (c : Char) :
    exposed (a ++ ['\\', c]) = exposed a := by
  rw [exposed_append h, exposed_escape]
  exact List.append_nil _

/-! ## 3. Parts of a text -/

/-- What is exposed in a text is exposed with more text behind it, unless it is a backslash. -/
theorem mem_exposed_append {a : Text} {c : Char} (h : c ∈ exposed a) (hc : c ≠ '\\') (b : Text) :
    c ∈ exposed (a ++ b) := by
  fun_induction exposed a with
  | case1 => exact absurd h List.not_mem_nil
  | case2 d =>
    obtain rfl := List.mem_singleton.mp h
    rw [List.singleton_append, exposed_cons_of_ne hc]
    exact List.mem_cons_self
  | case3 d r ih =>
    rw [List.cons_append, List.cons_append, exposed_escape]
    exact ih h
  | case4 d e r hd ih =>
    rw [List.cons_append, exposed_cons_of_ne hd]
    rcases List.mem_cons.mp h with rfl | h
    · exact List.mem_cons_self
    · exact List.mem_cons_of_mem d (ih h)

theorem mem_exposed_of_mem_exposed_dropWhile {p : Char → Bool} (hp : p '\\' = false) {s : Text}
    {c : Char} (h : c ∈ exposed (s.dropWhile p)) : c ∈ exposed s := by
  induction s with
  | nil => exact h
  | cons d r ih =>
    rw [List.dropWhile_cons] at h
    split at h
    · rename_i hd
      have hne : d ≠ '\\' := by
        rintro rfl
        rw [hp] at hd
        cases hd
      rw [exposed_cons_of_ne hne]
      exact List.mem_cons_of_mem d (ih h)
    · exact h

theorem mem_exposed_of_mem_exposed_trimEnd {s : Text} {c : Char} (h : c ∈ exposed (trimEnd s))
    (hc : c ≠ '\\') : c ∈ exposed s := by
  obtain ⟨back, hback⟩ := List.rdropWhile_prefix isBlank s
  have hs : trimEnd s ++ back = s := hback
  rw [← hs]
  exact mem_exposed_append h hc back

/-- **What is exposed in a trimmed text was exposed before**, unless it is a backslash. -/
theorem mem_exposed_of_mem_exposed_trim {s : Text} {c : Char} (h : c ∈ exposed (trim s))
    (hc : c ≠ '\\') : c ∈ exposed s :=
  mem_exposed_of_mem_exposed_dropWhile (p := isBlank) (by decide)
    (mem_exposed_of_mem_exposed_trimEnd h hc)

end Yuml.Text
