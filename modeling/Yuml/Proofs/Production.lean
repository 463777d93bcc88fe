import Yuml.Element.Reading
import Yuml.Proofs.Scan

/-!
# Productions: which texts a grammar reads

The reading of a token tries one pattern after the other. This file says what the patterns amount
to: `Production g t` gives the texts that a grammar has a production for by their shape alone, and
`ofText_cases` says that a trimmed text is read if and only if it has one. Every other text is a
fault that names the text, with the reason `complaint` gives.
-/

namespace Yuml

/-! ## 1. Shapes of texts -/

/-- The texts that a grammar has a production for. A connection has exactly two sides: its line
    occurs once, as occurrences are found from the left. -/
inductive Production : Grammar → Text → Prop where
  | round (inner : Text) : Production .activity ('(' :: (inner ++ [')']))
  | angle (inner : Text) : Production .activity ('<' :: (inner ++ ['>']))
  | pipe (inner : Text) : Production .activity ('|' :: (inner ++ ['|']))
  | flow (label : Text) : Production .activity (label ++ "->".toList)
  | line : Production .activity ['-']
  | square (inner : Text) : Production .classes ('[' :: (inner ++ [']']))
  | inheritance : Production .classes ['^']
  | dashed (left right : Text) (hl : ¬ "-.-".toList <:+: left ++ "-.".toList)
      (hr : ¬ "-.-".toList <:+: right) : Production .classes (left ++ ("-.-".toList ++ right))
  | solid (left right : Text) (hl : '-' ∉ left) (hr : '-' ∉ right) :
      Production .classes (left ++ '-' :: right)

/-- The reason given for a text without a production. -/
def complaint (g : Grammar) (text : Text) : Text :=
  if g = .classes ∧ '-' ∈ text then notOneConnector else invalidExpression

namespace Text

theorem isEnclosed_iff {o c : Char} {s : Text} (h : s.getLast? ≠ some '\n') :
    isEnclosed o c s = true ↔ ∃ inner, s = o :: (inner ++ [c]) := by
  cases s with
  | nil => simp [isEnclosed]
  | cons d r =>
    have hr : r.getLast? ≠ some '\n' := by
      intro e
      obtain ⟨l, rfl⟩ := List.getLast?_eq_some_iff.mp e
      exact h (List.getLast?_eq_some_iff.mpr ⟨d :: l, rfl⟩)
    simp only [isEnclosed, beforeFinalNewline_eq_self hr, Bool.or_self, Bool.and_eq_true,
      beq_iff_eq, List.getLast?_eq_some_iff, List.cons.injEq]
    constructor
    · rintro ⟨hd, inner, hi⟩
      exact ⟨inner, hd, hi⟩
    · rintro ⟨inner, hd, hi⟩
      exact ⟨hd, inner, hi⟩

end Text

theorem beforeArrow?_eq_some {s label : Text} (h : s.getLast? ≠ some '\n')
    (he : beforeArrow? s = some label) : s = label ++ "->".toList := by
  unfold beforeArrow? at he
  rw [Text.beforeFinalNewline_eq_self h] at he
  simp only [Option.ite_none_right_eq_some, Option.some.injEq] at he
  obtain ⟨hs, rfl⟩ := he
  obtain ⟨t, rfl⟩ := List.isSuffixOf_iff_suffix.mp hs
  simp [arrowMark]

theorem beforeArrow?_append (label : Text) : beforeArrow? (label ++ "->".toList) = some label := by
  have h : (label ++ "->".toList).getLast? ≠ some '\n' := by simp
  have hs : Text.endsWith arrowMark (label ++ "->".toList) = true :=
    List.isSuffixOf_iff_suffix.mpr (List.suffix_append label arrowMark)
  unfold beforeArrow?
  simp only [Text.beforeFinalNewline_eq_self h]
  rw [if_pos hs]
  simp [arrowMark]

/-- A text with a single `-` holds no dashed line. -/
theorem dashedLine_absent {left right : Text} (hl : '-' ∉ left) (hr : '-' ∉ right) :
    ¬ dashedLine <:+: left ++ '-' :: right := by
  intro h
  have hc := h.sublist.count_le '-'
  rw [List.count_append, List.count_cons_self, List.count_eq_zero.mpr hl,
    List.count_eq_zero.mpr hr] at hc
  exact absurd hc (by decide)

/-! ## 2. What is read -/

theorem ofActivityText_cases {t : Text} (h : t.getLast? ≠ some '\n') (d : Direction) :
    (Production .activity t ∧ ∃ e, Element.ofActivityText t d = .ok e) ∨
      (¬ Production .activity t ∧
        Element.ofActivityText t d = .error (.expression t invalidExpression)) := by
  by_cases h₁ : Text.isEnclosed '(' ')' t = true
  · obtain ⟨inner, rfl⟩ := (Text.isEnclosed_iff h).mp h₁
    exact .inl ⟨.round inner, _, if_pos h₁⟩
  by_cases h₂ : Text.isEnclosed '<' '>' t = true
  · obtain ⟨inner, rfl⟩ := (Text.isEnclosed_iff h).mp h₂
    rw [Element.ofActivityText, if_neg h₁, if_pos h₂]
    exact .inl ⟨.angle inner, _, rfl⟩
  by_cases h₃ : Text.isEnclosed '|' '|' t = true
  · obtain ⟨inner, rfl⟩ := (Text.isEnclosed_iff h).mp h₃
    rw [Element.ofActivityText, if_neg h₁, if_neg h₂, if_pos h₃]
    exact .inl ⟨.pipe inner, _, rfl⟩
  rw [Element.ofActivityText, if_neg h₁, if_neg h₂, if_neg h₃]
  cases h₄ : beforeArrow? t with
  | some label =>
    obtain rfl := beforeArrow?_eq_some h h₄
    exact .inl ⟨.flow label, _, rfl⟩
  | none =>
    by_cases h₅ : t = ['-']
    · subst h₅
      exact .inl ⟨.line, _, rfl⟩
    · refine .inr ⟨fun hp => ?_, if_neg h₅⟩
      cases hp with
      | round inner => exact h₁ ((Text.isEnclosed_iff h).mpr ⟨inner, rfl⟩)
      | angle inner => exact h₂ ((Text.isEnclosed_iff h).mpr ⟨inner, rfl⟩)
      | pipe inner => exact h₃ ((Text.isEnclosed_iff h).mpr ⟨inner, rfl⟩)
      | flow label => rw [beforeArrow?_append] at h₄; cases h₄
      | line => exact h₅ rfl

/-- The sides of a connection, as its line cuts them. -/
theorem connection_production {t left right : Text}
    (h : (if Text.occursIn dashedLine t = true then Text.splitOnText dashedLine t
      else Text.splitAt '-' t) = [left, right]) : Production .classes t := by
  split at h
  · obtain ⟨rfl, hl, hr⟩ := (Text.splitOnText_eq_pair_iff (by decide)).mp h
    exact .dashed left right hl hr
  · obtain ⟨rfl, hl, hr⟩ := Text.splitAt_eq_pair_iff.mp h
    exact .solid left right hl hr

theorem ofClassText_cases {t : Text} (h : t.getLast? ≠ some '\n') :
    (Production .classes t ∧ ∃ e, Element.ofClassText t = .ok e) ∨
      (¬ Production .classes t ∧
        Element.ofClassText t = .error (.expression t (complaint .classes t))) := by
  by_cases h₁ : Text.isEnclosed '[' ']' t = true
  · obtain ⟨inner, rfl⟩ := (Text.isEnclosed_iff h).mp h₁
    exact .inl ⟨.square inner, _, if_pos h₁⟩
  by_cases h₂ : t = ['^']
  · subst h₂
    exact .inl ⟨.inheritance, _, rfl⟩
  by_cases h₃ : '-' ∈ t
  · rw [Element.ofClassText, if_neg h₁, if_neg h₂, if_pos h₃]
    dsimp only
    split
    · rename_i left right hs
      exact .inl ⟨connection_production hs, _, rfl⟩
    · rename_i hs
      refine .inr ⟨fun hp => ?_, by rw [complaint, if_pos ⟨rfl, h₃⟩]⟩
      cases hp with
      | square inner => exact h₁ ((Text.isEnclosed_iff h).mpr ⟨inner, rfl⟩)
      | inheritance => exact h₂ rfl
      | dashed left right hl hr =>
        refine hs left right ?_
        rw [if_pos (Text.occursIn_iff.mpr ⟨left, right, by simp [dashedLine]⟩)]
        exact (Text.splitOnText_eq_pair_iff (by decide)).mpr ⟨rfl, hl, hr⟩
      | solid left right hl hr =>
        refine hs left right ?_
        rw [if_neg fun ho => dashedLine_absent hl hr (Text.occursIn_iff.mp ho)]
        exact Text.splitAt_eq_pair_iff.mpr ⟨rfl, hl, hr⟩
  · refine .inr ⟨fun hp => ?_, ?_⟩
    · cases hp with
      | square inner => exact h₁ ((Text.isEnclosed_iff h).mpr ⟨inner, rfl⟩)
      | inheritance => exact h₂ rfl
      | dashed left right => exact h₃ (by simp)
      | solid left right => exact h₃ (by simp)
    · rw [Element.ofClassText, if_neg h₁, if_neg h₂, if_neg h₃, complaint, if_neg fun e => h₃ e.2]

/-- **A trimmed text is read if and only if its grammar has a production for it**; any other is a
    fault that names it. -/
theorem ofText_cases {t : Text} (h : t.getLast? ≠ some '\n') (g : Grammar) (d : Direction) :
    (Production g t ∧ ∃ e, Element.ofText g d t = .ok e) ∨
      (¬ Production g t ∧ Element.ofText g d t = .error (.expression t (complaint g t))) := by
  cases g with
  | activity => exact ofActivityText_cases h d
  | classes => exact ofClassText_cases h

theorem Token.Trimmed.getLast?_ne {t : Token} (h : t.Trimmed) : t.text.getLast? ≠ some '\n' := by
  intro e
  obtain ⟨⟨piece, hp⟩, -⟩ := h
  rw [hp] at e
  have hb := Text.getLast?_trim e
  revert hb
  decide

end Yuml
