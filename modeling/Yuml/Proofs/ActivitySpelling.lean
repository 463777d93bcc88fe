import Yuml.Proofs.Lettering

/-!
# Spelling of the activity grammar

`ActivitySpelling d e t` says how the elements of an activity are written: the two tags, boxes and
notes between round brackets, decisions and bars between theirs, and arrows as words. It also says which
labels can be written at all: one that a bracket would cut, or that would be read as something else, has
no spelling.

`ofLine_activitySpelling` is the round trip: whatever elements are written one after the other are read
back, these and no others, if no two arrows stand side by side.
-/

namespace Yuml

/-! ## 1. How activities are written -/

/-- A label that an arrow can carry in front of its mark. -/
structure ArrowLabel (label : Text) : Prop where
  nonempty : label ≠ []
  trimmed : Text.trim label = label
  free : ∀ c ∈ label, c ∉ "(<|\\".toList

/-- An element of the activity grammar as it is written. -/
inductive ActivitySpelling (d : Direction) : Element → Text → Prop where
  | start : ActivitySpelling d (.node (.start startLabel)) "(start)".toList
  | stop : ActivitySpelling d (.node (.stop endLabel)) "(end)".toList
  | box (label inner : Text) (paint : Paint) (hf : Label.Fits .paren label)
      (hw : Lettered label paint inner) (hstart : label ≠ startLabel) (hend : label ≠ endLabel)
      (hnote : ¬ LabelParts.noteMark <+: label) :
      ActivitySpelling d (.node (.activity label paint)) ('(' :: (inner ++ [')']))
  | note (label inner : Text) (paint : Paint) (hf : Label.Fits .paren label)
      (hw : Lettered label paint inner) :
      ActivitySpelling d (.node (.note label paint)) ('(' :: ("note: ".toList ++ inner ++ [')']))
  | decision (label : Text) (hf : Label.Fits .angle label) :
      ActivitySpelling d (.node (.decision label)) ('<' :: (label ++ ['>']))
  | bar (label : Text) (hf : Label.Fits .pipe label) :
      ActivitySpelling d (.node (.bar label 0)) ('|' :: (label ++ ['|']))
  | flow (label : Option Text) (hl : ∀ l ∈ label, ArrowLabel l) :
      ActivitySpelling d (.edge (.arrow label true d) none) (label.getD [] ++ "->".toList)
  | line : ActivitySpelling d (.edge (.arrow none false d) none) "-".toList

/-! ## 2. What is read -/

theorem ofRound_box {inner label : Text} {paint : Paint}
    (h : LabelParts.ofText inner true = ⟨label, paint, false⟩) (hstart : label ≠ startLabel)
    (hend : label ≠ endLabel) : Node.ofRound inner = .activity label paint := by
  rw [Node.ofRound, h]
  simp only [if_neg hstart, if_neg hend, Bool.false_eq_true, if_false]

theorem ofRound_note {inner label : Text} {paint : Paint}
    (h : LabelParts.ofText inner true = ⟨label, paint, true⟩) :
    Node.ofRound inner = .note label paint := by
  rw [Node.ofRound, h]
  rfl

/-- An arrow with its label is trimmed. -/
theorem ArrowLabel.trim_flow {label : Text} (h : ArrowLabel label) :
    Text.trim (label ++ arrowMark) = label ++ arrowMark := by
  refine Text.trim_eq_self
    (Text.forall_head?_append (fun c hc => ?_) (Text.forall_of_optionAll (by decide)))
    (Text.forall_getLast?_append (fun c hc => ?_) (Text.forall_of_optionAll (by decide)))
  · rw [← h.trimmed] at hc
    exact Text.head?_trim hc
  · rw [← h.trimmed] at hc
    exact Text.getLast?_trim hc

/-- **An arrow is read back.** -/
theorem spells_flow {label : Option Text} (h : ∀ l ∈ label, ArrowLabel l) (d : Direction) :
    (Segment.word (label.getD [] ++ arrowMark)).Spells .activity d
      (.edge (.arrow label true d) none) := by
  cases label with
  | none =>
    exact Segment.spells_word (by decide) (by decide) (Text.forall_of_all (by decide)) (by decide) rfl
  | some label =>
    have hl : ArrowLabel label := h label rfl
    have hmark : ∀ c ∈ arrowMark, c ∉ "(<|\\".toList := Text.forall_of_all (by decide)
    have hopeners : Grammar.activity.openers ⊆ "(<|\\".toList := by decide
    have hfree : ∀ c ∈ label ++ arrowMark, c ∉ "(<|\\".toList := fun c hc => by
      rcases List.mem_append.mp hc with hc | hc
      · exact hl.free c hc
      · exact hmark c hc
    have hread := ofText_flow label
      (fun c hc ho => hl.free c (List.mem_of_head? hc) (hopeners ho)) d
    rw [hl.trimmed, someIfNonempty, if_neg fun e => hl.nonempty (List.isEmpty_iff.mp e)] at hread
    exact Segment.spells_word hl.trim_flow (List.append_ne_nil_of_right_ne_nil _ (by decide))
      (fun c hc ho => hfree c hc (hopeners ho)) (fun h => hfree _ h (by decide)) hread

/-- **Every element is read back from the segment it is written as.** -/
theorem ActivitySpelling.spells {d : Direction} {e : Element} {t : Text}
    (h : ActivitySpelling d e t) : ∃ p : Segment, p.text = t ∧ p.Spells .activity d e := by
  cases h with
  | start =>
    exact ⟨.enclosed .paren startLabel, rfl,
      Segment.spells_enclosed (by decide) (.enclosed _ _ (by decide) (by decide) (by decide)) rfl⟩
  | stop =>
    exact ⟨.enclosed .paren endLabel, rfl,
      Segment.spells_enclosed (by decide) (.enclosed _ _ (by decide) (by decide) (by decide)) rfl⟩
  | box label inner paint hf hw hstart hend hnote =>
    exact ⟨.enclosed .paren inner, rfl, Segment.spells_enclosed (by decide)
      (hw.legible (by decide) hf.unclosed hf.paired) (ofRound_box (hw.box hf hnote) hstart hend)⟩
  | note label inner paint hf hw =>
    exact ⟨.enclosed .paren (notePrefix ++ inner), rfl, Segment.spells_enclosed (by decide)
      (hw.legible_note hf (by decide)) (ofRound_note (hw.note hf))⟩
  | decision label hf =>
    refine ⟨.enclosed .angle label, rfl,
      Segment.spells_enclosed (by decide) (hf.legible (by decide)) ?_⟩
    exact congrArg Node.decision hf.trim_trimEnd
  | bar label hf =>
    refine ⟨.enclosed .pipe label, rfl,
      Segment.spells_enclosed (by decide) (hf.legible (by decide)) ?_⟩
    exact congrArg (Node.bar · 0) hf.trim_trimEnd
  | flow label hl => exact ⟨.word (label.getD [] ++ arrowMark), rfl, spells_flow hl d⟩
  | line =>
    exact ⟨.word "-".toList, rfl,
      Segment.spells_word (by decide) (by decide) (Text.forall_of_all (by decide)) (by decide) rfl⟩

/-- **Reading undoes the spelling of activities**, for every direction and every row of elements in which
    no two arrows stand side by side. -/
theorem ofLine_activitySpelling {d : Direction} {es : List Element} {texts : List Text}
    (h : List.Forall₂ (ActivitySpelling d) es texts) (hchain : es.IsChain Element.Apart) :
    Element.ofLine texts.flatten .activity d = .ok es :=
  ofLine_spelled (h.imp fun _ _ ht => ht.spells) hchain

/-- A line with every kind of element: its labels hold protected closers, delimiters of other brackets, an
    arrow mark and a background that is none. -/
theorem ofLine_activitySpelling_everyKind :
    Element.ofLine ("(start)->(a \\) <b>->\x7bbg:red\x7d c\x7bbg:green\x7d)yes, no-><d \\> (>-" ++
        "(note: start)|[e]|->(end)").toList .activity .leftToRight =
      .ok [.node (.start startLabel), .edge (.arrow none true .leftToRight) none,
        .node (.activity "a \\) <b>->\x7bbg:red\x7d c".toList (Paint.ofBackground "green".toList)),
        .edge (.arrow (some "yes, no".toList) true .leftToRight) none,
        .node (.decision "d \\> (".toList), .edge (.arrow none false .leftToRight) none,
        .node (.note "start".toList Paint.none), .node (.bar "[e]".toList 0),
        .edge (.arrow none true .leftToRight) none, .node (.stop endLabel)] := by
  have h : List.Forall₂ (ActivitySpelling .leftToRight) _ _ :=
    .cons .start <| .cons (.flow none (by simp)) <|
      .cons (.box "a \\) <b>->\x7bbg:red\x7d c".toList _ _ ⟨by decide, by decide, by decide, by decide⟩
        (.colored "green".toList (by decide) (by decide)) (by decide) (by decide) (by decide)) <|
      .cons (.flow (some "yes, no".toList) fun l hl => by
        obtain rfl := Option.some.inj hl
        exact ⟨by decide, by decide, Text.forall_of_all (by decide)⟩) <|
      .cons (.decision "d \\> (".toList ⟨by decide, by decide, by decide, by decide⟩) <|
      .cons .line <|
      .cons (.note "start".toList _ _ ⟨by decide, by decide, by decide, by decide⟩
        (.of_not_mem (by decide))) <|
      .cons (.bar "[e]".toList ⟨by decide, by decide, by decide, by decide⟩) <|
      .cons (.flow none (by simp)) <| .cons .stop .nil
  exact ofLine_activitySpelling h (by decide)

end Yuml
