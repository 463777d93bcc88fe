import Yuml.Proofs.Background
import Yuml.Proofs.Reading
import Yuml.Proofs.Segments

/-!
# Lettering: how the label of a node is written between its delimiters

A label FITS a bracket (`Label.Fits`) if it is trimmed, stands in one line, and holds neither the closer
of the bracket nor a last backslash unprotected. `Lettered label paint inner` says how such a label is
written with its colours: alone, where it has none, and then it must not look like a coloured one; or
with its background behind it.

`Lettered.legible` says that the scan of a line takes what is written so as one segment, and
`Lettered.box` and `Lettered.note` that the label and the colours are read back, with the mark of a note
and without.
-/

namespace Yuml

/-! ## 1. Labels -/

/-- A label that can stand between the delimiters of a bracket. -/
structure Label.Fits (b : Bracket) (label : Text) : Prop where
  trimmed : Text.trim label = label
  oneLine : '\n' ∉ label
  unclosed : b.closer ∉ Text.exposed label
  paired : '\\' ∉ Text.exposed label

/-- The background behind a label. -/
def backgroundText (color : Text) : Text := '{' :: ("bg:".toList ++ (color ++ ['}']))

/-- How a label is written with its colours. -/
inductive Lettered (label : Text) : Paint → Text → Prop where
  /-- Without colours the label must not end in an attribute. -/
  | plain (h : ∀ front color, ¬ LabelParts.Colored label front color) :
      Lettered label Paint.none label
  /-- A background is written behind the label, in small letters. -/
  | colored (color : Text) (hc : LabelParts.isColorText color = true)
      (hl : Text.toLower color = color) :
      Lettered label (Paint.ofBackground color) (label ++ backgroundText color)

theorem colored_backgroundText (label : Text) {color : Text}
    (h : LabelParts.isColorText color = true) :
    LabelParts.Colored (label ++ backgroundText color) label color :=
  ⟨h, 0, 0, 0, 0, rfl⟩

theorem not_mem_backgroundText {color : Text} (h : LabelParts.isColorText color = true) {c : Char}
    (hmark : c ∉ "{bg:}".toList) (hc : LabelParts.isColorChar c = false) :
    c ∉ backgroundText color := by
  have hcolor := LabelParts.not_mem_of_isColorText h hc
  simp only [backgroundText, String.reduceToList, List.mem_cons, List.mem_append,
    List.not_mem_nil] at hmark ⊢
  tauto

/-- No closer stands in a background. -/
theorem closer_not_mem_backgroundText {color : Text} (h : LabelParts.isColorText color = true)
    (b : Bracket) : b.closer ∉ backgroundText color := by
  cases b <;> exact not_mem_backgroundText h (by decide) (by decide)

theorem Label.Fits.trim_trimEnd {b : Bracket} {label : Text} (h : Label.Fits b label) :
    Text.trim (Text.trimEnd label) = label := by
  rw [Text.trimEnd_of_trim h.trimmed, h.trimmed]

/-- A label that fits its bracket stands there as one segment. -/
theorem Label.Fits.legible {b : Bracket} {label : Text} (h : Label.Fits b label)
    {openers : List Char} (hb : b.opener ∈ openers) :
    (Segment.enclosed b label).Legible openers := .enclosed b label hb h.unclosed h.paired

/-! ## 2. What is written -/

namespace Lettered

variable {label inner : Text} {paint : Paint}

/-- A label without braces is written as it is. -/
theorem of_not_mem (h : '{' ∉ label) : Lettered label Paint.none label := by
  refine .plain fun front color hcolored => h ?_
  obtain ⟨-, a, b, c, d, rfl⟩ := hcolored
  exact List.mem_append_right _ List.mem_cons_self

/-- A text in front of a label changes nothing about its colours. -/
theorem append (h : Lettered label paint inner) {front : Text} (hfront : '{' ∉ front) :
    Lettered (front ++ label) paint (front ++ inner) := by
  cases h with
  | plain h =>
    refine .plain fun before color hcolored => ?_
    obtain ⟨hc, a, b, c, d, hsplit⟩ := hcolored
    rcases List.append_eq_append_iff.mp hsplit with ⟨rest, rfl, hlabel⟩ | ⟨rest, rfl, hrest⟩
    · exact h rest color ⟨hc, a, b, c, d, hlabel⟩
    · cases rest with
      | nil => exact h [] color ⟨hc, a, b, c, d, hrest.symm⟩
      | cons e rest =>
        obtain ⟨rfl, -⟩ := List.cons.inj hrest
        exact hfront (List.mem_append_right _ List.mem_cons_self)
  | colored color hc hl =>
    rw [← List.append_assoc]
    exact .colored color hc hl

/-- What no label and no background exposes, nothing that is written exposes. -/
theorem not_mem_exposed (h : Lettered label paint inner) (hpaired : '\\' ∉ Text.exposed label)
    {c : Char} (hlabel : c ∉ Text.exposed label)
    (hback : ∀ color, LabelParts.isColorText color = true → c ∉ backgroundText color) :
    c ∉ Text.exposed inner := by
  cases h with
  | plain => exact hlabel
  | colored color hc hl =>
    rw [Text.exposed_append hpaired]
    intro hmem
    rcases List.mem_append.mp hmem with hmem | hmem
    · exact hlabel hmem
    · exact hback color hc (Text.mem_of_mem_exposed hmem)

/-- **What is written between the delimiters of a bracket is one segment.** -/
theorem legible (h : Lettered label paint inner) {b : Bracket} {openers : List Char}
    (hb : b.opener ∈ openers) (hc : b.closer ∉ Text.exposed label)
    (he : '\\' ∉ Text.exposed label) : (Segment.enclosed b inner).Legible openers := by
  refine .enclosed b inner hb ?_ ?_
  · exact h.not_mem_exposed he hc fun color hcolor => closer_not_mem_backgroundText hcolor b
  · exact h.not_mem_exposed he he fun color hcolor =>
      not_mem_backgroundText hcolor (by decide) (by decide)

theorem oneLine (h : Lettered label paint inner) (hlabel : '\n' ∉ label) : '\n' ∉ inner := by
  cases h with
  | plain => exact hlabel
  | colored color hc hl =>
    intro hmem
    rcases List.mem_append.mp hmem with hmem | hmem
    · exact hlabel hmem
    · exact not_mem_backgroundText hc (by decide) (by decide) hmem

/-- What is written behind a trimmed label is trimmed at its end. -/
theorem trimEnd (h : Lettered label paint inner) (hlabel : Text.trimEnd label = label) :
    Text.trimEnd inner = inner := by
  cases h with
  | plain => exact hlabel
  | colored color hc hl =>
    refine Text.trimEnd_eq_self fun c hc => ?_
    have hlast : label ++ backgroundText color = (label ++ '{' :: ("bg:".toList ++ color)) ++ ['}'] := by
      simp [backgroundText]
    rw [hlast, List.getLast?_concat] at hc
    obtain rfl := Option.some.inj hc
    decide

/-- **The colours are read back**, and what is left is the label. -/
theorem ofText (h : Lettered label paint inner) (hlabel : '\n' ∉ label) (allowNote : Bool) :
    LabelParts.ofText inner allowNote =
      LabelParts.readMark allowNote (Text.trim label) paint := by
  have hinner := h.oneLine hlabel
  cases h with
  | plain h => exact LabelParts.ofText_plain hinner allowNote h
  | colored color hc hl =>
    rw [LabelParts.ofText_colored hinner allowNote (colored_backgroundText label hc), hl]

end Lettered

/-! ## 3. Boxes and notes -/

/-- How a note begins where it is written. -/
def notePrefix : Text := "note: ".toList

/-- A note is one segment, too. -/
theorem Lettered.legible_note {label inner : Text} {paint : Paint} (h : Lettered label paint inner)
    {b : Bracket} (hf : Label.Fits b label) {openers : List Char} (hb : b.opener ∈ openers) :
    (Segment.enclosed b (notePrefix ++ inner)).Legible openers := by
  have hpaired : '\\' ∉ Text.exposed notePrefix := by decide
  have hclosed : b.closer ∉ Text.exposed notePrefix := by cases b <;> decide
  have hprefixed : Lettered (notePrefix ++ label) paint (notePrefix ++ inner) :=
    h.append (by decide)
  refine hprefixed.legible hb ?_ ?_
  · rw [Text.exposed_append hpaired, List.mem_append]
    exact fun hmem => hmem.elim hclosed hf.unclosed
  · rw [Text.exposed_append hpaired, List.mem_append]
    exact fun hmem => hmem.elim hpaired hf.paired

namespace LabelParts

theorem readMark_of_not_prefix {label : Text} (h : ¬ noteMark <+: label) (paint : Paint) :
    readMark true label paint = ⟨label, paint, false⟩ := by
  refine if_neg fun e => h ?_
  rw [Bool.true_and] at e
  exact List.isPrefixOf_iff_prefix.mp e

theorem readMark_noteMark (rest : Text) (paint : Paint) :
    readMark true (noteMark ++ rest) paint = ⟨Text.trim rest, paint, true⟩ := by
  have hstarts : Text.startsWith noteMark (noteMark ++ rest) = true :=
    List.isPrefixOf_iff_prefix.mpr (List.prefix_append noteMark rest)
  rw [readMark, hstarts, List.drop_left]
  rfl

end LabelParts

/-- A trimmed label behind the prefix of a note is what is left of it. -/
theorem readMark_notePrefix {label : Text} (h : Text.trim label = label) (paint : Paint) :
    LabelParts.readMark true (Text.trim (notePrefix ++ label)) paint = ⟨label, paint, true⟩ := by
  by_cases hne : label = []
  · subst hne
    exact LabelParts.readMark_noteMark [] paint
  · have hlast : ∀ c ∈ (notePrefix ++ label).getLast?, Text.isBlank c = false := by
      rw [List.getLast?_append_of_ne_nil _ hne, ← h]
      exact fun c hc => Text.getLast?_trim hc
    have htrim : Text.trim (notePrefix ++ label) = notePrefix ++ label :=
      Text.trim_eq_self (fun c hc => Option.some.inj hc ▸ (by decide)) hlast
    have hspace : Text.trim (' ' :: label) = Text.trim label := rfl
    rw [htrim]
    refine (LabelParts.readMark_noteMark (' ' :: label) paint).trans ?_
    rw [hspace, h]

namespace Lettered

variable {b : Bracket} {label inner : Text} {paint : Paint}

/-- **A box is read back**, if its label does not begin with the mark of a note. -/
theorem box (h : Lettered label paint inner) (hf : Label.Fits b label)
    (hn : ¬ LabelParts.noteMark <+: label) :
    LabelParts.ofText (Text.trimEnd inner) true = ⟨label, paint, false⟩ := by
  rw [h.trimEnd (Text.trimEnd_of_trim hf.trimmed), h.ofText hf.oneLine, hf.trimmed]
  exact LabelParts.readMark_of_not_prefix hn paint

/-- **A note is read back.** -/
theorem note (h : Lettered label paint inner) (hf : Label.Fits b label) :
    LabelParts.ofText (Text.trimEnd (notePrefix ++ inner)) true = ⟨label, paint, true⟩ := by
  have hline : '\n' ∉ notePrefix ++ label := fun hmem => by
    rcases List.mem_append.mp hmem with hmem | hmem
    · revert hmem
      decide
    · exact hf.oneLine hmem
  by_cases hinner : inner = []
  · -- Nothing stands behind the prefix, and its space goes with the closer.
    cases h with
    | plain h =>
      subst hinner
      rfl
    | colored color hc hl => exact absurd (List.append_eq_nil_iff.mp hinner).2 (List.cons_ne_nil _ _)
  · have hkept : Text.trimEnd (notePrefix ++ inner) = notePrefix ++ inner :=
      Text.trimEnd_append (h.trimEnd (Text.trimEnd_of_trim hf.trimmed)) hinner notePrefix
    have hprefixed : Lettered (notePrefix ++ label) paint (notePrefix ++ inner) :=
      h.append (by decide)
    rw [hkept, hprefixed.ofText hline]
    exact readMark_notePrefix hf.trimmed paint

end Lettered

end Yuml
