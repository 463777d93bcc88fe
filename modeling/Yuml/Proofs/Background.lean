import Yuml.Label.Paint
import Yuml.Proofs.Cutting

/-!
# Backgrounds: labels that end in a colour attribute

`LabelParts.ofText` reads the text between two brackets from its last opening brace. This file says
which texts have a background, and which label is left then, by their shape alone:

* `Colored part front color`: behind `front` stands a brace, `bg`, a colon, a colour and a closing brace,
  with spaces at will between them, and this is all;
* `splitBackground?_eq_some_iff`: a text in one line has a background if and only if it has this shape,
  and there is only one way to read it so;
* `ofText_colored` and `ofText_plain`: what the label is, with such an attribute and without.
-/

namespace Yuml.LabelParts

/-! ## 1. Colours -/

/-- A character that a colour can be written with. -/
def isColorChar (c : Char) : Bool :=
  isAsciiLetter c || Text.isDecimalDigit c || (Color.hexValue? c).isSome || c == '#'

theorem isColorChar_of_mem {color : Text} (h : isColorText color = true) {c : Char}
    (hc : c ∈ color) : isColorChar c = true := by
  unfold isColorText at h
  unfold isColorChar
  split at h
  · rename_i r
    rcases List.mem_cons.mp hc with rfl | hc
    · simp
    · have hhex := List.all_eq_true.mp (Bool.and_eq_true_iff.mp h).2 c hc
      simp [hhex]
  · rw [← List.takeWhile_append_dropWhile (p := isAsciiLetter) (l := color)] at hc
    rcases List.mem_append.mp hc with hc | hc
    · have hletter := List.mem_takeWhile_imp hc
      simp [hletter]
    · have hdigit := List.all_eq_true.mp (Bool.and_eq_true_iff.mp h).2 c hc
      simp [hdigit]

/-- What a colour cannot be written with is in none. -/
theorem not_mem_of_isColorText {color : Text} (h : isColorText color = true) {c : Char}
    (hc : isColorChar c = false) : c ∉ color := fun hmem => by
  rw [isColorChar_of_mem h hmem] at hc
  cases hc

/-! ## 2. Spaces -/

/-- A run of spaces. -/
def spaces (n : Nat) : Text := List.replicate n ' '

theorem dropSpaces_append (n : Nat) {s : Text} (h : s.head? ≠ some ' ') :
    dropSpaces (spaces n ++ s) = s := by
  induction n with
  | zero =>
    cases s with
    | nil => rfl
    | cons c r =>
      refine List.dropWhile_cons_of_neg fun hc => h ?_
      rw [eq_of_beq hc]
      rfl
  | succ n ih => exact ih

theorem exists_spaces (s : Text) : ∃ n, s = spaces n ++ dropSpaces s := by
  induction s with
  | nil => exact ⟨0, rfl⟩
  | cons c r ih =>
    by_cases hc : c = ' '
    · obtain ⟨n, hn⟩ := ih
      subst hc
      exact ⟨n + 1, congrArg (' ' :: ·) hn⟩
    · refine ⟨0, (List.dropWhile_cons_of_neg (p := (· == ' ')) ?_).symm⟩
      exact fun h => hc (eq_of_beq h)

/-! ## 3. The attribute -/

/-- What stands behind the brace of a colour attribute. -/
def attributeText (a b c d : Nat) (color : Text) : Text :=
  spaces a ++ ("bg".toList ++ (spaces b ++ (":".toList ++
    (spaces c ++ (color ++ (spaces d ++ ['}']))))))

/-- A text that ends in a colour attribute, with what stands before it. -/
def Colored (part front color : Text) : Prop :=
  isColorText color = true ∧ ∃ a b c d, part = front ++ '{' :: attributeText a b c d color

theorem after?_eq_some_iff {part s r : Text} : after? part s = some r ↔ s = part ++ r := by
  unfold after? Text.startsWith
  constructor
  · intro h
    split at h
    · rename_i hp
      obtain ⟨t, rfl⟩ := List.isPrefixOf_iff_prefix.mp hp
      rw [List.drop_left] at h
      rw [Option.some.inj h]
    · cases h
  · rintro rfl
    rw [if_pos (List.isPrefixOf_iff_prefix.mpr (List.prefix_append part r)), List.drop_left]

/-- The colour of an attribute ends at the first space or closing brace. -/
theorem takeWhile_color {color : Text} (h : isColorText color = true) (d : Nat) :
    (color ++ (spaces d ++ ['}'])).takeWhile (fun c => c != ' ' && c != '}') = color := by
  have hkept : ∀ c ∈ color, (c != ' ' && c != '}') = true := fun c hc => by
    refine Bool.and_eq_true_iff.mpr ⟨bne_iff_ne.mpr ?_, bne_iff_ne.mpr ?_⟩
    · rintro rfl
      exact not_mem_of_isColorText h (by decide) hc
    · rintro rfl
      exact not_mem_of_isColorText h (by decide) hc
  rw [List.takeWhile_append_of_pos hkept]
  cases d <;> exact List.append_nil _

theorem head?_ne_space_of_isColorText {color : Text} (h : isColorText color = true) (r : Text) :
    (color ++ r).head? ≠ some ' ' := by
  cases color with
  | nil => cases h
  | cons c color =>
    intro e
    obtain rfl := Option.some.inj e
    exact not_mem_of_isColorText h (by decide) List.mem_cons_self

theorem attributeColor?_attributeText {color : Text} (h : isColorText color = true)
    (a b c d : Nat) : attributeColor? (attributeText a b c d color) = some color := by
  have hbg : after? "bg".toList (dropSpaces (attributeText a b c d color)) = some _ :=
    after?_eq_some_iff.mpr (dropSpaces_append a (by simp))
  have hcolon : after? ":".toList (dropSpaces (spaces b ++ (":".toList ++
      (spaces c ++ (color ++ (spaces d ++ ['}'])))))) = some _ :=
    after?_eq_some_iff.mpr (dropSpaces_append b (by simp))
  have hclosing : dropSpaces (spaces d ++ ['}']) = ['}'] := dropSpaces_append d (by simp)
  simp only [attributeColor?, Option.bind_eq_bind, hbg, Option.bind_some, hcolon,
    dropSpaces_append c (head?_ne_space_of_isColorText h _)]
  rw [takeWhile_color h, List.drop_left, hclosing, h]
  rfl

/-- **What is read as the rest of an attribute is one.** -/
theorem attributeColor?_eq_some_iff {s color : Text} :
    attributeColor? s = some color ↔
      isColorText color = true ∧ ∃ a b c d, s = attributeText a b c d color := by
  constructor
  · intro h
    simp only [attributeColor?, Option.bind_eq_bind, Option.bind_eq_some_iff,
      Option.ite_none_right_eq_some, Bool.and_eq_true, beq_iff_eq, Option.some.injEq,
      after?_eq_some_iff] at h
    obtain ⟨r₁, h₁, r₂, h₂, ⟨hcolor, hclosing⟩, htake⟩ := h
    obtain ⟨a, ha⟩ := exists_spaces s
    obtain ⟨b, hb⟩ := exists_spaces r₁
    obtain ⟨c, hc⟩ := exists_spaces r₂
    rw [htake] at hcolor hclosing
    obtain ⟨rest, hrest⟩ := List.takeWhile_prefix (l := dropSpaces r₂)
      (fun c => c != ' ' && c != '}')
    rw [htake] at hrest
    rw [← hrest, List.drop_left] at hclosing
    obtain ⟨d, hd⟩ := exists_spaces rest
    rw [hclosing] at hd
    refine ⟨hcolor, a, b, c, d, ?_⟩
    rw [ha, h₁, hb, h₂, hc, ← hrest, hd]
    rfl
  · rintro ⟨h, a, b, c, d, rfl⟩
    exact attributeColor?_attributeText h a b c d

/-! ## 4. The last brace -/

/-- **A text is cut at its last opening brace.** -/
theorem splitAtLastBrace_eq_some_iff {s front body : Text} :
    splitAtLastBrace s = some (front, body) ↔ s = front ++ '{' :: body ∧ '{' ∉ body := by
  unfold splitAtLastBrace
  constructor
  · intro h
    have hs := List.takeWhile_append_dropWhile (p := (· != '{')) (l := s.reverse)
    have hlast := List.head?_dropWhile_not (· != '{') s.reverse
    split at h
    · cases h
    · rename_i c back hback
      obtain ⟨rfl, rfl⟩ := Prod.mk.inj (Option.some.inj h)
      rw [hback] at hs hlast
      have hc : c = '{' := by simpa using hlast
      refine ⟨?_, fun hmem => ?_⟩
      · have hrev := congrArg List.reverse hs
        rw [List.reverse_reverse, List.reverse_append, List.reverse_cons, hc] at hrev
        exact hrev.symm.trans (List.append_assoc _ _ _)
      · have hp := List.mem_takeWhile_imp (List.mem_reverse.mp hmem)
        exact absurd rfl (bne_iff_ne.mp hp)
  · rintro ⟨rfl, hbody⟩
    have hkept : ∀ c ∈ body.reverse, (c != '{') = true := fun c hc =>
      bne_iff_ne.mpr fun e => hbody (e ▸ List.mem_reverse.mp hc)
    have hrev : (front ++ '{' :: body).reverse = body.reverse ++ '{' :: front.reverse := by simp
    have hdrop : (front ++ '{' :: body).reverse.dropWhile (· != '{') = '{' :: front.reverse := by
      rw [hrev, List.dropWhile_append_of_pos hkept]
      rfl
    have htake : (front ++ '{' :: body).reverse.takeWhile (· != '{') = body.reverse := by
      rw [hrev, List.takeWhile_append_of_pos hkept]
      exact List.append_nil _
    rw [hdrop, htake, List.reverse_reverse]
    dsimp only
    rw [List.reverse_reverse]

/-- What neither a colour nor the rest of an attribute is written with is in no attribute. -/
theorem not_mem_attributeText {color : Text} (h : isColorText color = true) {x : Char}
    (hx : isColorChar x = false) (hframe : x ∉ " bg:\x7d".toList) (a b c d : Nat) :
    x ∉ attributeText a b c d color := by
  have hspaces : ∀ n, x ∉ spaces n := fun n hmem =>
    hframe (List.eq_of_mem_replicate hmem ▸ List.mem_cons_self)
  have hcolor : x ∉ color := not_mem_of_isColorText h hx
  simp only [String.reduceToList, List.mem_cons, List.not_mem_nil, or_false, not_or] at hframe
  simp [attributeText, hspaces, hcolor, hframe]

theorem opening_not_mem_attributeText {color : Text} (h : isColorText color = true)
    (a b c d : Nat) : '{' ∉ attributeText a b c d color :=
  not_mem_attributeText h (by decide) (by decide) a b c d

/-- **A text in one line has a background if and only if it ends in a colour attribute.** -/
theorem splitBackground?_eq_some_iff {part front color : Text} (hline : '\n' ∉ part) :
    splitBackground? part = some (front, color) ↔ Colored part front color := by
  have hlast : part.getLast? ≠ some '\n' := fun h => hline (List.mem_of_getLast? h)
  unfold splitBackground? Colored
  rw [Text.beforeFinalNewline_eq_self hlast]
  simp only [Option.bind_eq_bind, Option.bind_eq_some_iff]
  constructor
  · rintro ⟨⟨front', body⟩, hcut, color', hcolor, h⟩
    obtain ⟨rfl, -⟩ := splitAtLastBrace_eq_some_iff.mp hcut
    obtain ⟨hc, a, b, c, d, rfl⟩ := attributeColor?_eq_some_iff.mp hcolor
    split at h
    · cases h
    · cases h
      exact ⟨hc, a, b, c, d, rfl⟩
  · rintro ⟨hc, a, b, c, d, rfl⟩
    have hcut : splitAtLastBrace (front ++ '{' :: attributeText a b c d color) =
        some (front, attributeText a b c d color) :=
      splitAtLastBrace_eq_some_iff.mpr ⟨rfl, opening_not_mem_attributeText hc a b c d⟩
    refine ⟨_, hcut, color, attributeColor?_attributeText hc a b c d, if_neg fun h => ?_⟩
    exact hline (List.mem_append_left _ h)

/-! ## 5. Labels -/

section Label

variable {part : Text} (hline : '\n' ∉ part) (allowNote : Bool)

include hline

/-- The label in front of a colour attribute. -/
theorem ofText_colored {front color : Text} (h : Colored part front color) :
    ofText part allowNote =
      readMark allowNote (Text.trim front) (Paint.ofBackground (Text.toLower color)) := by
  rw [ofText, (splitBackground?_eq_some_iff hline).mpr h]

/-- The label of a text that ends in no colour attribute. -/
theorem ofText_plain (h : ∀ front color, ¬ Colored part front color) :
    ofText part allowNote = readMark allowNote (Text.trim part) Paint.none := by
  have hnone : splitBackground? part = none := by
    refine Option.eq_none_iff_forall_ne_some.mpr fun q hq => ?_
    exact h q.1 q.2 ((splitBackground?_eq_some_iff hline).mp hq)
  rw [ofText, hnone]

end Label

end Yuml.LabelParts
