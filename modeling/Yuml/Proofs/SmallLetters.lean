import Mathlib
import Yuml.Text.LetterCase
import Yuml.Proofs.Cutting

/-!
# Small letters: what putting a text in small letters leaves as it is

Colours, message patterns and tags are compared in small letters (`Text.toLower`). Only letters change:

* what is no small letter is the small letter of itself only (`eq_of_lowerChar_eq`);
* a small letter is its own small letter (`toLower_toLower`);
* white space stays where it is, so a text may be trimmed before or after (`trim_toLower`).
-/

namespace Yuml.Text

/-- What is no small letter is the small letter of itself only. -/
theorem eq_of_lowerChar_eq {c d : Char} (hd : d.isLower = false) (h : lowerChar c = d) : c = d := by
  unfold lowerChar at h
  split at h
  · subst h
    cases hd
  · by_cases hc : c.isUpper = true
    · have hlower : c.toLower.isLower = true := by
        rw [Char.isLower_toLower_eq_isAlpha, Char.isAlpha, hc, Bool.true_or]
      rw [h, hd] at hlower
      cases hlower
    · rw [← h, Char.toLower_eq_of_not_isUpper hc]

theorem not_mem_toLower {s : Text} {d : Char} (hd : d.isLower = false) (h : d ∉ s) :
    d ∉ toLower s := by
  intro hm
  obtain ⟨c, hc, he⟩ := List.mem_map.mp hm
  obtain rfl := eq_of_lowerChar_eq hd he
  exact h hc

theorem lowerChar_lowerChar (c : Char) : lowerChar (lowerChar c) = lowerChar c := by
  by_cases hk : c = '\u212a'
  · subst hk
    decide
  · have hc : lowerChar c = c.toLower := if_neg hk
    have hne : c.toLower ≠ '\u212a' := fun e => hk (eq_of_lowerChar_eq (by decide) (hc.trans e))
    rw [hc, lowerChar, if_neg hne, Char.toLower_toLower_eq_toLower]

@[simp] theorem toLower_toLower (s : Text) : toLower (toLower s) = toLower s := by
  unfold toLower
  rw [List.map_map]
  exact List.map_congr_left fun c _ => lowerChar_lowerChar c

/-- No letter and no digit is white space. -/
theorem isBlank_of_isAlphanum {c : Char} (h : c.isAlphanum = true) : isBlank c = false := by
  have hrange : 48 ≤ c.toNat ∧ c.toNat ≤ 122 := by
    simp only [Char.isAlphanum, Char.isAlpha, Char.isUpper, Char.isLower, Char.isDigit,
      Bool.or_eq_true, Bool.and_eq_true, decide_eq_true_eq, ge_iff_le, UInt32.le_iff_toNat_le] at h
    simp at h
    omega
  exact any_range_eq_false (by decide) hrange.1 hrange.2

theorem isBlank_lowerChar (c : Char) : isBlank (lowerChar c) = isBlank c := by
  by_cases hc : (lowerChar c).isLower = true
  · -- A small letter belongs to a letter, and neither is white space.
    have hlower : isBlank (lowerChar c) = false :=
      isBlank_of_isAlphanum (by simp [Char.isAlphanum, Char.isAlpha, hc])
    by_cases hk : c = '\u212a'
    · subst hk
      decide
    · have hletter : c.isAlpha = true := by
        rw [← Char.isLower_toLower_eq_isAlpha, ← hc, lowerChar, if_neg hk]
      rw [hlower, isBlank_of_isAlphanum (by simp [Char.isAlphanum, hletter])]
  · rw [← eq_of_lowerChar_eq (Bool.eq_false_iff.mpr hc) rfl]

/-- **A text may be trimmed before it is put in small letters or after.** -/
theorem trim_toLower (s : Text) : trim (toLower s) = toLower (trim s) := by
  have hblank : isBlank ∘ lowerChar = isBlank := funext isBlank_lowerChar
  have hstart : ∀ t, trimStart (toLower t) = toLower (trimStart t) := by
    intro t
    rw [trimStart, toLower, List.dropWhile_map, hblank]
    rfl
  have hend : ∀ t, trimEnd (toLower t) = toLower (trimEnd t) := by
    intro t
    rw [trimEnd, toLower, ← List.map_reverse, List.dropWhile_map, hblank, ← List.map_reverse]
    rfl
  rw [trim, hstart, hend]
  rfl

end Yuml.Text
