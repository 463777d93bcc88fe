import Yuml.Drawing
import Yuml.Proofs.Written

/-!
# Wrapping: how wide the pieces of a broken field are

A piece of a line is NARROW if it is shorter than a width, or if no space stands behind its first
character, so that there is no place to break it (`Label.Narrow`).

A line of the width or more is broken at its LAST space. What stands behind that space holds no further
one, so breaking it again changes nothing (`wrap_eq`); what stands in front of it stays as it is,
however wide (`wrap_append`). Of the pieces of a line, then, the last one is always narrow, and all are
if and only if one break does for the line (`narrow_iff`). This is so at any width, and so for each
field of a class box and of a note among classes (`wrap_narrow_iff`).
-/

namespace Yuml

/-! ## 1. Narrow pieces -/

/-- A piece that is shorter than a width, or has no place to break it: no space stands behind its first
    character. -/
def Label.Narrow (width : Nat) (piece : Text) : Prop := piece.length < width ∨ ' ' ∉ piece.drop 1

instance (width : Nat) (piece : Text) : Decidable (Label.Narrow width piece) :=
  inferInstanceAs (Decidable (_ ∨ _))

/-- A line for which one break does: it is shorter than a width, or what stands in front of its last
    space is narrow. -/
def Label.BreaksOnce (width : Nat) (line : Text) : Prop :=
  line.length < width ∨
    ∀ front tail, line = front ++ ' ' :: tail → ' ' ∉ tail → Label.Narrow width front

namespace Label

variable {width : Nat} {line front tail : Text}

theorem narrow_of_not_mem (h : ' ' ∉ line) : Narrow width line :=
  .inr fun hc => h (List.mem_of_mem_drop hc)

theorem narrow_nil : Narrow width [] := narrow_of_not_mem List.not_mem_nil

/-! ## 2. The last space -/

theorem splitAtLastSpace_append (hne : front ≠ []) (h : ' ' ∉ tail) :
    splitAtLastSpace (front ++ ' ' :: tail) = some (front, tail) := by
  have hback : (front ++ ' ' :: tail).reverse = tail.reverse ++ ' ' :: front.reverse := by simp
  have htail : (tail.reverse ++ ' ' :: front.reverse).takeWhile (· != ' ') = tail.reverse := by
    rw [List.takeWhile_append_of_pos, List.takeWhile_cons_of_neg, List.append_nil]
    · decide
    · exact fun c hc => bne_iff_ne.mpr fun e => h (e ▸ List.mem_reverse.mp hc)
  have hlength : (front ++ ' ' :: tail).length - tail.length - 1 = front.length := by
    rw [List.length_append, List.length_cons]
    omega
  unfold splitAtLastSpace
  dsimp only
  rw [hback, htail, List.reverse_reverse, hlength, List.take_left,
    if_neg fun e => hne (List.isEmpty_iff.mp e)]

/-- A space behind the first character of a line: there is a last one. -/
theorem exists_lastSpace (h : ' ' ∈ line.drop 1) :
    ∃ front tail, line = front ++ ' ' :: tail ∧ front ≠ [] ∧ ' ' ∉ tail := by
  have hmem : ' ' ∈ line.reverse := List.mem_reverse.mpr (List.mem_of_mem_drop h)
  obtain ⟨back, rest, hline, hback⟩ := List.eq_append_cons_of_mem hmem
  have hline' : line = rest.reverse ++ ' ' :: back.reverse := by
    rw [← List.reverse_reverse line, hline]
    simp
  have htail : ' ' ∉ back.reverse := fun hc => hback (List.mem_reverse.mp hc)
  refine ⟨rest.reverse, back.reverse, hline', fun hnil => htail ?_, htail⟩
  rw [hline', hnil] at h
  exact h

/-- A space that is not the first character of a line stands behind it. -/
theorem mem_drop_one (hne : front ≠ []) : ' ' ∈ (front ++ ' ' :: tail).drop 1 := by
  cases front with
  | nil => exact absurd rfl hne
  | cons => exact List.mem_append_right _ List.mem_cons_self

theorem front_ne_nil (h : splitAtLastSpace line = some (front, tail)) : front ≠ [] := by
  unfold splitAtLastSpace at h
  dsimp only at h
  split at h
  · cases h
  · rename_i hne
    exact fun hnil => hne (List.isEmpty_iff.mpr ((Prod.mk.inj (Option.some.inj h)).1.trans hnil))

theorem splitAtLastSpace_of_not_mem (h : ' ' ∉ line.drop 1) : splitAtLastSpace line = none := by
  cases hs : splitAtLastSpace line with
  | none => rfl
  | some p =>
    rw [splitAtLastSpace_eq_some hs] at h
    exact absurd (mem_drop_one (front_ne_nil hs)) h

/-! ## 3. Breaking a line -/

theorem wrap_of_lt (h : line.length < width) : wrap width line = line := if_pos h

theorem wrap_of_not_mem (h : ' ' ∉ line.drop 1) : wrap width line = line := by
  rw [wrap, splitAtLastSpace_of_not_mem h, ite_self]

/-- A line is broken at its last space. -/
theorem wrap_append (hne : front ≠ []) (h : ' ' ∉ tail)
    (hw : width ≤ (front ++ ' ' :: tail).length) :
    wrap width (front ++ ' ' :: tail) = front ++ '\n' :: tail := by
  rw [wrap, if_neg (Nat.not_lt.mpr hw), splitAtLastSpace_append hne h]

/-- **Breaking goes on behind the break**, and finds nothing there. -/
theorem wrap_eq (width : Nat) (line : Text) :
    wrap width line =
      if line.length < width then line
      else match splitAtLastSpace line with
        | none => line
        | some (front, tail) => front ++ '\n' :: wrap width tail := by
  by_cases hspace : ' ' ∈ line.drop 1
  · obtain ⟨front, tail, rfl, hne, htail⟩ := exists_lastSpace hspace
    have hagain : wrap width tail = tail := wrap_of_not_mem fun hc => htail (List.mem_of_mem_drop hc)
    rw [splitAtLastSpace_append hne htail, wrap, splitAtLastSpace_append hne htail]
    dsimp only
    rw [hagain]
  · rw [splitAtLastSpace_of_not_mem hspace, wrap, splitAtLastSpace_of_not_mem hspace]

/-- Whether one break does for a line, by the part in front of its last space. -/
theorem breaksOnce_append (hne : front ≠ []) (h : ' ' ∉ tail)
    (hw : width ≤ (front ++ ' ' :: tail).length) :
    BreaksOnce width (front ++ ' ' :: tail) ↔ Narrow width front := by
  constructor
  · rintro (hlt | hall)
    · exact absurd hlt (Nat.not_lt.mpr hw)
    · exact hall front tail rfl h
  · refine fun hfront => .inr fun front' tail' hsplit htail' => ?_
    by_cases hne' : front' = []
    · exact hne' ▸ narrow_nil
    · -- a line has only one last space
      have hboth := (splitAtLastSpace_append hne h).symm.trans
        (hsplit ▸ splitAtLastSpace_append hne' htail')
      exact (Prod.mk.inj (Option.some.inj hboth)).1 ▸ hfront

theorem breaksOnce_of_not_mem (h : ' ' ∉ line.drop 1) : BreaksOnce width line := by
  refine .inr fun front tail hline htail => ?_
  by_cases hne : front = []
  · exact hne ▸ narrow_nil
  · exact absurd (hline ▸ mem_drop_one hne) h

/-- **The pieces of a line are all narrow if and only if one break does for it.** -/
theorem narrow_iff (width : Nat) (hline : '\n' ∉ line) :
    (∀ piece ∈ Text.splitAt '\n' (wrap width line), Narrow width piece) ↔ BreaksOnce width line := by
  by_cases hspace : ' ' ∈ line.drop 1
  · obtain ⟨front, tail, rfl, hne, htail⟩ := exists_lastSpace hspace
    by_cases hw : (front ++ ' ' :: tail).length < width
    · rw [wrap_of_lt hw, Text.splitAt_of_not_mem hline, List.forall_mem_singleton]
      exact iff_of_true (.inl hw) (.inl hw)
    · have hw' := Nat.not_lt.mp hw
      have hfront : '\n' ∉ front := fun hc => hline (List.mem_append_left _ hc)
      have hback : '\n' ∉ tail := fun hc =>
        hline (List.mem_append_right _ (List.mem_cons_of_mem _ hc))
      rw [wrap_append hne htail hw', Text.splitAt_append hfront, Text.splitAt_of_not_mem hback,
        List.forall_mem_cons, List.forall_mem_singleton, breaksOnce_append hne htail hw']
      exact and_iff_left (narrow_of_not_mem htail)
  · rw [wrap_of_not_mem hspace, Text.splitAt_of_not_mem hline, List.forall_mem_singleton]
    exact iff_of_true (.inr hspace) (breaksOnce_of_not_mem hspace)

/-! ## 4. The fields of a label -/

/-- The label with its fields broken. -/
def broken (width : Nat) (label : Text) : Text :=
  Text.joinWith ['|'] ((Text.splitAt '|' label).map (wrap width))

/-- The fields of a broken label are the broken fields of the label. -/
theorem splitAt_broken (width : Nat) (label : Text) :
    Text.splitAt '|' (broken width label) = (Text.splitAt '|' label).map (wrap width) := by
  refine Text.splitAt_joinWith (fun e => ?_) fun piece hpiece => ?_
  · exact Text.splitAt_ne_nil '|' label (List.map_eq_nil_iff.mp e)
  · obtain ⟨field, hfield, rfl⟩ := List.mem_map.mp hpiece
    rw [bar_mem_wrap_iff]
    exact Text.not_mem_of_mem_splitAt hfield

theorem narrow_broken_iff (width : Nat) {label : Text} (hlabel : '\n' ∉ label) :
    (∀ field ∈ Text.splitAt '|' (broken width label),
        ∀ piece ∈ Text.splitAt '\n' field, Narrow width piece) ↔
      ∀ field ∈ Text.splitAt '|' label, BreaksOnce width field := by
  rw [splitAt_broken, List.forall_mem_map]
  refine forall₂_congr fun field hfield => narrow_iff width fun hc => hlabel ?_
  exact (Text.infix_of_mem_splitAt hfield).subset hc

end Label

end Yuml
