import Yuml.Proofs.Naming

/-!
# Numbers in texts

A whole number is written with digits and perhaps a minus sign, and what is written tells the number
(`Text.ofInt_injective`). A binary number is written with digits, a sign, a point, an exponent or one of
two words: whatever the number, no character of its text is outside `isNumeral` (`numeral_general`), so a
quote or a blank behind a number is never a part of it.
-/

namespace Yuml

/-! ## 1. Whole numbers -/

namespace Text

theorem ofInt_injective {m n : Int} (h : ofInt m = ofInt n) : m = n := by
  have hminus (m n : Nat) : '-' :: ofNat m ≠ ofNat n := by
    intro e
    exact not_mem_ofNat (by decide) n (e ▸ List.mem_cons_self)
  cases m with
  | ofNat m =>
    cases n with
    | ofNat n => exact congrArg Int.ofNat (ofNat_injective h)
    | negSucc n => exact absurd h.symm (hminus (n + 1) m)
  | negSucc m =>
    cases n with
    | ofNat n => exact absurd h (hminus (m + 1) n)
    | negSucc n =>
      have hsucc : m + 1 = n + 1 := ofNat_injective (List.cons.inj h).2
      exact congrArg Int.negSucc (Nat.succ.inj hsucc)

/-! ## 2. The characters of numbers -/

/-- Whether a number can be written with a character: a digit, a sign, a point, the marker of an
    exponent or a letter of `inf` and `nan`. -/
def isNumeral (c : Char) : Bool := c.isDigit || "+-.einfa".toList.contains c

/-- Whether all characters of a text are those of numbers. -/
def Numeral (s : Text) : Prop := ∀ c ∈ s, isNumeral c = true

theorem Numeral.not_mem {s : Text} (h : Numeral s) {c : Char} (hc : isNumeral c = false) : c ∉ s := by
  intro hm
  rw [h c hm] at hc
  cases hc

theorem Numeral.append {s t : Text} (hs : Numeral s) (ht : Numeral t) : Numeral (s ++ t) :=
  List.forall_mem_append.mpr ⟨hs, ht⟩

theorem Numeral.cons {c : Char} {s : Text} (hc : isNumeral c = true) (hs : Numeral s) :
    Numeral (c :: s) := List.forall_mem_cons.mpr ⟨hc, hs⟩

theorem Numeral.mono {s t : Text} (h : Numeral t) (hs : s ⊆ t) : Numeral s :=
  fun c hc => h c (hs hc)

theorem numeral_toDigits (n : Nat) : Numeral (Nat.toDigits 10 n) := by
  intro c hc
  have hdigit : c.isDigit = true := isDigit_of_mem_ofNat hc
  simp [isNumeral, hdigit]

theorem numeral_zeros (n : Nat) : Numeral (List.replicate n '0') := by
  intro c hc
  rw [List.eq_of_mem_replicate hc]
  decide

theorem numeral_ofInt (n : Int) : Numeral (ofInt n) := by
  cases n with
  | ofNat n => exact numeral_toDigits n
  | negSucc n => exact (numeral_toDigits (n + 1)).cons (by decide)

end Text

/-! ## 3. Binary numbers -/

namespace Binary64

open Text (Numeral numeral_toDigits numeral_zeros)

theorem numeral_stripped {d : Decimal} (h : Numeral d.digits) : Numeral d.stripped.digits := by
  have hkept : (d.digits.reverse.dropWhile (· == '0')).reverse ⊆ d.digits := by
    intro c hc
    have hc := (List.dropWhile_suffix _).subset (List.mem_reverse.mp hc)
    exact List.mem_reverse.mp hc
  unfold Decimal.stripped
  split
  · exact numeral_zeros 1
  · exact h.mono hkept

theorem numeral_exponentText (power : Int) : Numeral (exponentText power) := by
  have hdigits := numeral_toDigits power.natAbs
  have hpadded := (numeral_zeros (2 - (Nat.toDigits 10 power.natAbs).length)).append hdigits
  unfold exponentText
  split
  · exact hpadded.cons (by decide)
  · exact hpadded.cons (by decide)

theorem numeral_positional (layout : Layout) {whole part : Text} (hwhole : Numeral whole)
    (hpart : Numeral part) : Numeral (positional layout whole part) := by
  unfold positional
  split
  · refine hwhole.append ?_
    split
    · exact Text.forall_of_all (by decide)
    · exact List.forall_mem_nil _
  · exact hwhole.append (hpart.cons (by decide))

theorem numeral_decimal (layout : Layout) {d : Decimal} (h : Numeral d.digits) :
    Numeral (d.render layout) := by
  unfold Decimal.render
  split
  · split
    · exact numeral_positional layout (numeral_zeros 1) ((numeral_zeros _).append h)
    · have hwhole := h.mono (List.take_subset (d.power.natAbs + 1) d.digits)
      have hpart := h.mono (List.drop_subset (d.power.natAbs + 1) d.digits)
      exact numeral_positional layout (hwhole.append (numeral_zeros _)) hpart
  · refine .append ?_ ((numeral_exponentText d.power).cons (by decide))
    split <;> rename_i hd <;> rw [hd] at h
    · exact h
    · exact h
    · obtain ⟨hc, hr⟩ := List.forall_mem_cons.mp h
      exact .cons hc (.cons (by decide) hr)

theorem numeral_signed (negative : Bool) {s : Text} (h : Numeral s) : Numeral (signed negative s) := by
  unfold signed
  split
  · exact h.cons (by decide)
  · exact h

/-- A number is written with the characters of numbers, however its digits are chosen. -/
theorem numeral_render (layout : Layout) {digits : Nat → Int → Decimal}
    (h : ∀ mantissa exponent, Numeral (digits mantissa exponent).digits) (x : Binary64) :
    Numeral (render layout digits x) := by
  unfold render
  split
  · exact Text.forall_of_all (by decide)
  · exact numeral_signed _ (Text.forall_of_all (by decide))
  · exact numeral_signed _ (numeral_decimal layout (numeral_zeros 1))
  · exact numeral_signed _ (numeral_decimal layout (numeral_stripped (h _ _)))

theorem numeral_toPrecision (count num den : Nat) : Numeral (toPrecision count num den).digits := by
  unfold toPrecision
  simp only
  split <;> exact numeral_toDigits _

/-- **A height or a width is written with the characters of numbers.** -/
theorem numeral_general (x : Binary64) : Numeral x.general :=
  numeral_render _ (fun _ _ => numeral_toPrecision _ _ _) x

end Binary64

end Yuml
