import Mathlib
import Yuml.Proofs.Brightness
import Yuml.Proofs.Lettering

/-!
# Colour suffixes: what is taken from the end of a text, and what is left

The text between two brackets is read from its last opening brace. This file says by a grammar which
ends of a text are a colour attribute (`SpelledColor`, `EndsInColor`), and compares the reading with
it:

* `isColorText_iff`: what is taken for a colour is what the grammar spells;
* `colored_iff`: an attribute at the end of a text begins at the last brace, however the text in front
  of it is cut, so there is one way to find it at most;
* `ofText_exact`: a background is found exactly where the grammar has one, and the label, the colours
  and the mark of a note are those of the text in front of it.
-/

namespace Yuml.LabelParts

/-! ## 1. Colours as they are spelled -/

/-- A colour as it is written: letters and then decimal digits, or `#` and six hexadecimal digits. -/
inductive SpelledColor : Text → Prop where
  | name (letters digits : Text) (hne : letters ≠ []) (hl : ∀ c ∈ letters, c.isAlpha = true)
      (hd : ∀ c ∈ digits, Text.isDecimalDigit c = true) : SpelledColor (letters ++ digits)
  | hex (digits : Text) (hlength : digits.length = 6)
      (hd : ∀ c ∈ digits, ∃ v, Color.SpellsDigit v c) : SpelledColor ('#' :: digits)

theorem isAlpha_iff {c : Char} :
    c.isAlpha = true ↔ (65 ≤ c.toNat ∧ c.toNat ≤ 90) ∨ (97 ≤ c.toNat ∧ c.toNat ≤ 122) := by
  simp [Char.isAlpha, Char.isUpper, Char.isLower, UInt32.le_iff_toNat_le, ← Char.toNat_val]

theorem isAsciiLetter_eq (c : Char) : isAsciiLetter c = c.isAlpha := by
  rw [Bool.eq_iff_iff, isAlpha_iff]
  simp [isAsciiLetter, Char.le_def, UInt32.le_iff_toNat_le, ← Char.toNat_val, or_comm]

/-- No decimal digit is an ASCII letter: every range of digits ends before them or begins
    behind them. -/
theorem isAlpha_of_isDecimalDigit {c : Char} (h : Text.isDecimalDigit c = true) :
    c.isAlpha = false := by
  have hranges : ∀ r ∈ Text.decimalDigitRanges, r.2 < 65 ∨ 122 < r.1 := by decide
  refine Bool.eq_false_iff.mpr fun halpha => ?_
  have hcode : 65 ≤ c.toNat ∧ c.toNat ≤ 122 := by
    have hletter := isAlpha_iff.mp halpha
    omega
  have hno := Text.any_range_eq_false hranges hcode.1 hcode.2
  rw [Text.isDecimalDigit, hno] at h
  cases h

/-- **What is taken for a colour is what is spelled as one.** -/
theorem isColorText_iff {s : Text} : isColorText s = true ↔ SpelledColor s := by
  constructor
  · intro h
    unfold isColorText at h
    split at h
    · rename_i r
      obtain ⟨hlength, hhex⟩ := Bool.and_eq_true_iff.mp h
      refine .hex r (eq_of_beq hlength) fun c hc => ?_
      obtain ⟨v, hv⟩ := Option.isSome_iff_exists.mp (List.all_eq_true.mp hhex c hc)
      exact ⟨v, Color.hexValue?_eq_some_iff.mp hv⟩
    · obtain ⟨hne, hdigits⟩ := Bool.and_eq_true_iff.mp h
      have hletters : ∀ c ∈ s.takeWhile isAsciiLetter, c.isAlpha = true := fun c hc =>
        isAsciiLetter_eq c ▸ List.mem_takeWhile_imp hc
      have hspelled := SpelledColor.name (s.takeWhile isAsciiLetter) (s.dropWhile isAsciiLetter)
        (by simpa using hne) hletters (List.all_eq_true.mp hdigits)
      rwa [List.takeWhile_append_dropWhile] at hspelled
  · intro h
    cases h with
    | name letters digits hne hl hd =>
      have hletter : ∀ c ∈ letters, isAsciiLetter c = true := fun c hc =>
        isAsciiLetter_eq c ▸ hl c hc
      have hdigit : ∀ c ∈ digits, ¬ isAsciiLetter c = true := fun c hc => by
        rw [isAsciiLetter_eq, isAlpha_of_isDecimalDigit (hd c hc)]
        exact Bool.false_ne_true
      have htake : (letters ++ digits).takeWhile isAsciiLetter = letters := by
        rw [List.takeWhile_append_of_pos hletter, List.takeWhile_eq_nil_iff.mpr, List.append_nil]
        exact fun hlength => hdigit _ (List.getElem_mem hlength)
      have hdrop : (letters ++ digits).dropWhile isAsciiLetter = digits := by
        rw [List.dropWhile_append_of_pos hletter, List.dropWhile_eq_self_iff]
        exact fun hlength => hdigit _ (List.getElem_mem hlength)
      unfold isColorText
      split
      · rename_i r hsharp
        obtain ⟨c, letters, rfl⟩ := List.exists_cons_of_ne_nil hne
        obtain ⟨rfl, -⟩ := List.cons.inj hsharp
        exact absurd (hl '#' List.mem_cons_self) (by decide)
      · rw [htake, hdrop, List.all_eq_true.mpr hd, List.isEmpty_eq_false_iff.mpr hne]
        rfl
    | hex digits hlength hd =>
      have hall : digits.all (fun c => (Color.hexValue? c).isSome) = true := by
        refine List.all_eq_true.mpr fun c hc => ?_
        obtain ⟨v, hv⟩ := hd c hc
        rw [Color.hexValue?_eq_some_iff.mpr hv]
        rfl
      simp [isColorText, hlength, hall]

/-! ## 2. The end of a text -/

/-- A text that from its LAST opening brace on is a colour attribute. -/
def EndsInColor (part front color : Text) : Prop :=
  SpelledColor color ∧ ∃ body, part = front ++ '{' :: body ∧ '{' ∉ body ∧
    ∃ a b c d, body = attributeText a b c d color

/-- **An attribute at the end of a text begins at the last brace.** Neither the colour nor the rest
    of an attribute holds a brace, so it does not matter how much of the text is tried as its front. -/
theorem colored_iff {part front color : Text} :
    Colored part front color ↔ EndsInColor part front color := by
  constructor
  · rintro ⟨hcolor, a, b, c, d, rfl⟩
    exact ⟨isColorText_iff.mp hcolor, _, rfl, opening_not_mem_attributeText hcolor a b c d,
      a, b, c, d, rfl⟩
  · rintro ⟨hcolor, -, rfl, -, a, b, c, d, rfl⟩
    exact ⟨isColorText_iff.mpr hcolor, a, b, c, d, rfl⟩

/-! ## 3. What is left -/

/-- The parts of a text, once its label and its paint are known: the label is that of a note where
    notes are allowed and it begins with the mark, and the text of a note is the rest, trimmed. -/
structure TakenFrom (allowNote : Bool) (label : Text) (paint : Paint) (parts : LabelParts) :
    Prop where
  paint : parts.paint = paint
  isNote : parts.isNote = true ↔ allowNote = true ∧ noteMark <+: label
  note : ∀ rest, parts.isNote = true → label = noteMark ++ rest → parts.text = Text.trim rest
  plain : parts.isNote = false → parts.text = label

theorem readMark_takenFrom (allowNote : Bool) (label : Text) (paint : Paint) :
    TakenFrom allowNote label paint (readMark allowNote label paint) := by
  by_cases h : allowNote = true ∧ noteMark <+: label
  · obtain ⟨rfl, rest, rfl⟩ := h
    rw [readMark_noteMark]
    refine ⟨rfl, iff_of_true rfl ⟨rfl, List.prefix_append noteMark rest⟩, fun r _ hr => ?_, nofun⟩
    rw [List.append_cancel_left hr]
  · have hread : readMark allowNote label paint = ⟨label, paint, false⟩ := by
      cases allowNote with
      | false => rfl
      | true => exact readMark_of_not_prefix (fun hmark => h ⟨rfl, hmark⟩) paint
    rw [hread]
    exact ⟨rfl, iff_of_false nofun h, nofun, fun _ => rfl⟩

/-- Without a mark, the parts are the label and its paint. -/
theorem TakenFrom.eq_of_unmarked {allowNote : Bool} {label : Text} {paint : Paint}
    {parts : LabelParts} (h : TakenFrom allowNote label paint parts) (hmark : ¬ noteMark <+: label) :
    parts = ⟨label, paint, false⟩ := by
  have hplain : parts.isNote = false := Bool.eq_false_iff.mpr fun hn => hmark (h.isNote.mp hn).2
  obtain ⟨text, paint, isNote⟩ := parts
  obtain rfl : isNote = false := hplain
  obtain rfl := h.paint
  obtain rfl : text = label := h.plain rfl
  rfl

/-- The paint of a colour is decided by the colour as it is written. -/
theorem ofBackground_toLower (color : Text) :
    Paint.ofBackground (Text.toLower color) = ⟨some (Text.toLower color), Color.fontColor color⟩ := by
  rw [Paint.ofBackground, Color.fontColor_toLower]

/-- **A background is found exactly at the end that the grammar describes.** The text in front of it
    is the label, and otherwise all of the text is. Whatever a label ends in, another attribute
    behind it is the one that is read, and the label comes back whole. -/
theorem ofText_exact (allowNote : Bool) :
    (∀ part, '\n' ∉ part →
      ((ofText part allowNote).paint.background.isSome ↔
        ∃ front color, EndsInColor part front color) ∧
      (∀ front color, EndsInColor part front color →
        TakenFrom allowNote (Text.trim front) ⟨some (Text.toLower color), Color.fontColor color⟩
          (ofText part allowNote)) ∧
      ((∀ front color, ¬ EndsInColor part front color) →
        TakenFrom allowNote (Text.trim part) ⟨none, none⟩ (ofText part allowNote))) ∧
    ∀ label, '\n' ∉ label → ¬ noteMark <+: Text.trim label →
      ∀ a b c d color, SpelledColor color →
        ofText (label ++ '{' :: attributeText a b c d color) allowNote =
          ⟨Text.trim label, ⟨some (Text.toLower color), Color.fontColor color⟩, false⟩ := by
  have hcolored : ∀ part front color, '\n' ∉ part → EndsInColor part front color →
      TakenFrom allowNote (Text.trim front) ⟨some (Text.toLower color), Color.fontColor color⟩
        (ofText part allowNote) := by
    intro part front color hline h
    rw [ofText_colored hline allowNote (colored_iff.mpr h), ofBackground_toLower]
    exact readMark_takenFrom allowNote _ _
  have hplain : ∀ part, '\n' ∉ part → (∀ front color, ¬ EndsInColor part front color) →
      TakenFrom allowNote (Text.trim part) ⟨none, none⟩ (ofText part allowNote) := by
    intro part hline h
    rw [ofText_plain hline allowNote fun front color hc => h front color (colored_iff.mp hc)]
    exact readMark_takenFrom allowNote _ _
  refine ⟨fun part hline => ⟨⟨fun hfound => ?_, ?_⟩,
    fun front color => hcolored part front color hline, hplain part hline⟩, ?_⟩
  · by_contra hnot
    have hnone := (hplain part hline fun front color h => hnot ⟨front, color, h⟩).paint
    rw [hnone] at hfound
    cases hfound
  · rintro ⟨front, color, h⟩
    rw [(hcolored part front color hline h).paint]
    rfl
  · intro label hline hmark a b c d color hcolor
    have hends : EndsInColor (label ++ '{' :: attributeText a b c d color) label color :=
      colored_iff.mp ⟨isColorText_iff.mpr hcolor, a, b, c, d, rfl⟩
    have hattribute : '\n' ∉ attributeText a b c d color :=
      not_mem_attributeText (isColorText_iff.mpr hcolor) (by decide) (by decide) a b c d
    have hwhole : '\n' ∉ label ++ '{' :: attributeText a b c d color := by
      simp [hline, hattribute]
    exact (hcolored _ label color hwhole hends).eq_of_unmarked hmark

/-- A label that ends in an attribute keeps it when another one is appended, and an attribute that
    anything stands behind is no background. -/
theorem ofText_exact_nested :
    ofText " a \x7bbg:red\x7d\x7b bg:  #40fF7a \x7d".toList true =
      ⟨"a \x7bbg:red\x7d".toList, ⟨some "#40ff7a".toList, some "black".toList⟩, false⟩ ∧
    (¬ ∃ front color, EndsInColor "a \x7bbg:red\x7d;".toList front color) ∧
    TakenFrom true "a \x7bbg:red\x7d;".toList ⟨none, none⟩ (ofText "a \x7bbg:red\x7d;".toList true) := by
  obtain ⟨hread, hback⟩ := ofText_exact true
  have hdigits : ∀ c ∈ "40fF7a".toList, ∃ v, Color.SpellsDigit v c := fun c hc => by
    have hvalues : "40fF7a".toList.all (fun c => (Color.hexValue? c).isSome) = true := by decide
    obtain ⟨v, hv⟩ := Option.isSome_iff_exists.mp (List.all_eq_true.mp hvalues c hc)
    exact ⟨v, Color.hexValue?_eq_some_iff.mp hv⟩
  have hnested := hback " a \x7bbg:red\x7d".toList (by decide) (by decide) 1 0 2 1 "#40fF7a".toList
    (.hex "40fF7a".toList rfl hdigits)
  have hforced : Color.fontColor "#40fF7a".toList = some "black".toList := by decide
  rw [hforced] at hnested
  obtain ⟨hfound, -, hplain⟩ := hread "a \x7bbg:red\x7d;".toList (by decide)
  have hnone : ¬ ∃ front color, EndsInColor "a \x7bbg:red\x7d;".toList front color := fun h => by
    have hsome := hfound.mpr h
    revert hsome
    decide
  exact ⟨hnested, hnone, hplain fun front color h => hnone ⟨front, color, h⟩⟩

end Yuml.LabelParts
