import Yuml.Proofs.Lettering
import Mathlib.Data.List.Find

/-!
# Spelling of the class grammar

`ClassSpelling e t` says how the elements of the class grammar are written: classes and notes between
square brackets, inheritance as its mark, and a connection as two sides with a line between them. Each
side has a decoration, in any of the ways in which its kind is written (`ConnectorKind.Marked`), and a
label: on the left the decoration stands in front of the label, on the right behind it.

Decorations are parts of one another, and they are searched from the front or from the back of a side. A
label whose outer character is no part of a decoration hides nothing and adds nothing
(`Connector.ofFront_append`, `Connector.ofBack_append`). From there `ofLine_classSpelling` is the round
trip: whatever elements are written one after the other are read back.
-/

namespace Yuml

/-! ## 1. Decorations -/

namespace Text

/-- What a text begins with does not depend on more text behind it, if that begins otherwise. -/
theorem startsWith_append {part front rest : Text} (h : ∀ c ∈ rest.head?, c ∉ part) :
    startsWith part (front ++ rest) = startsWith part front := by
  rw [startsWith, startsWith, Bool.eq_iff_iff, List.isPrefixOf_iff_prefix,
    List.isPrefixOf_iff_prefix]
  constructor
  · intro hp
    rcases List.prefix_or_prefix_of_prefix hp (List.prefix_append front rest) with hpart | hfront
    · exact hpart
    · obtain ⟨more, rfl⟩ := hfront
      cases more with
      | nil =>
        rw [List.append_nil]
      | cons c more =>
        -- The part would go on into the rest, whose first character is none of its own.
        obtain ⟨tail, htail⟩ := (List.prefix_append_right_inj front).mp hp
        refine absurd (List.mem_append_right front List.mem_cons_self) (h c ?_)
        rw [← htail]
        rfl
  · exact fun hp => hp.trans (List.prefix_append front rest)

theorem endsWith_eq_startsWith (part s : Text) :
    endsWith part s = startsWith part.reverse s.reverse := rfl

/-- What a text ends with does not depend on more text in front of it, if that ends otherwise. -/
theorem endsWith_append {part back rest : Text} (h : ∀ c ∈ rest.getLast?, c ∉ part) :
    endsWith part (rest ++ back) = endsWith part back := by
  rw [endsWith_eq_startsWith, endsWith_eq_startsWith, List.reverse_append]
  refine startsWith_append fun c hc hmem => ?_
  rw [List.head?_reverse] at hc
  exact h c hc (List.mem_reverse.mp hmem)

end Text

/-- The characters that decorations are made of. -/
def markerChars : Text := "<>+^".toList

/-- How a decoration is written: as one of the markers of its kind, and not at all for none. -/
inductive ConnectorKind.Marked : ConnectorKind → Text → Prop where
  | marker (kind : ConnectorKind) (m : Text) (h : (m, kind) ∈ Connector.markers) : Marked kind m
  | none : Marked .none []

namespace Connector

theorem mem_markerChars {m : Text × ConnectorKind} (h : m ∈ markers) {c : Char} (hc : c ∈ m.1) :
    c ∈ markerChars := by
  have hall : ∀ m ∈ markers, (m.1.all fun c => decide (c ∈ markerChars)) = true := by decide
  exact Text.forall_of_all (hall m h) c hc

/-- Every marker is found where it stands alone, whatever markers are parts of it. -/
theorem find?_startsWith {m : Text × ConnectorKind} (h : m ∈ markers) :
    (markers.find? fun n => Text.startsWith n.1 m.1) = some m := by
  revert m
  decide

theorem find?_endsWith {m : Text × ConnectorKind} (h : m ∈ markers) :
    (markers.find? fun n => Text.endsWith n.1 m.1) = some m := by
  revert m
  decide

section Sides

variable {kind : ConnectorKind} {marker label : Text}

/-- **A decoration in front of its label is read back.** -/
theorem ofFront_append (h : kind.Marked marker) (ht : Text.trim label = label)
    (hhead : ∀ c ∈ label.head?, c ∉ markerChars) : ofFront (marker ++ label) = ⟨kind, label⟩ := by
  have hfind : (markers.find? fun m => Text.startsWith m.1 (marker ++ label)) =
      markers.find? fun m => Text.startsWith m.1 marker :=
    List.find?_congr fun m hm => Text.startsWith_append fun c hc hmem =>
      hhead c hc (mem_markerChars hm hmem)
  rw [ofFront, hfind]
  cases h with
  | marker kind marker hm =>
    rw [find?_startsWith hm]
    dsimp only
    rw [List.drop_left, ht]
  | none => exact congrArg (Connector.mk .none) ht

/-- **A decoration behind its label is read back**; where there is none, none must stand in front. -/
theorem ofBack_append (h : kind.Marked marker) (ht : Text.trim label = label)
    (hlast : ∀ c ∈ label.getLast?, c ∉ markerChars)
    (hhead : kind = .none → ∀ c ∈ label.head?, c ∉ markerChars) :
    ofBack (label ++ marker) = ⟨kind, label⟩ := by
  have hfind : (markers.find? fun m => Text.endsWith m.1 (label ++ marker)) =
      markers.find? fun m => Text.endsWith m.1 marker :=
    List.find?_congr fun m hm => Text.endsWith_append fun c hc hmem =>
      hlast c hc (mem_markerChars hm hmem)
  rw [ofBack, hfind]
  cases h with
  | marker kind marker hm =>
    rw [find?_endsWith hm]
    dsimp only
    rw [List.length_append, Nat.add_sub_cancel, List.take_left, ht]
  | none =>
    show ofFront (label ++ []) = _
    rw [List.append_nil]
    exact ofFront_append .none ht (hhead rfl)

end Sides

end Connector

/-! ## 2. How classes are written -/

/-- A label that one side of a connection can carry. -/
structure SideLabel (label : Text) : Prop where
  trimmed : Text.trim label = label
  free : ∀ c ∈ label, c ∉ "-[\\".toList

/-- An element of the class grammar as it is written. -/
inductive ClassSpelling : Element → Text → Prop where
  | box (label inner : Text) (paint : Paint) (hf : Label.Fits .square label)
      (hw : Lettered label paint inner) (hnote : ¬ LabelParts.noteMark <+: label) :
      ClassSpelling (.node (.classBox label paint)) ('[' :: (inner ++ [']']))
  | note (label inner : Text) (paint : Paint) (hf : Label.Fits .square label)
      (hw : Lettered label paint inner) :
      ClassSpelling (.node (.note label paint)) ('[' :: ("note: ".toList ++ inner ++ [']']))
  | inheritance : ClassSpelling (.edge (.inheritance []) none) "^".toList
  | connection (left right : Connector) (dashed : Bool) (front back : Text)
      (hfront : left.kind.Marked front) (hback : right.kind.Marked back)
      (hleft : SideLabel left.label) (hright : SideLabel right.label)
      (hleftHead : ∀ c ∈ left.label.head?, c ∉ "<>+^".toList)
      (hrightLast : ∀ c ∈ right.label.getLast?, c ∉ "<>+^".toList)
      (hrightHead : right.kind = .none → ∀ c ∈ right.label.head?, c ∉ "<>+^".toList) :
      ClassSpelling (.edge (.connection left right dashed) none)
        (front ++ left.label ++
          ((if dashed then "-.-".toList else "-".toList) ++ (right.label ++ back)))

/-! ## 3. What is read -/

theorem ofSquare_box {inner label : Text} {paint : Paint}
    (h : LabelParts.ofText inner true = ⟨label, paint, false⟩) :
    Node.ofSquare inner = .classBox label paint := by
  rw [Node.ofSquare, h]
  rfl

theorem ofSquare_note {inner label : Text} {paint : Paint}
    (h : LabelParts.ofText inner true = ⟨label, paint, true⟩) :
    Node.ofSquare inner = .note label paint := by
  rw [Node.ofSquare, h]
  rfl

theorem ConnectorKind.Marked.mem_markerChars {kind : ConnectorKind} {marker : Text}
    (h : kind.Marked marker) {c : Char} (hc : c ∈ marker) : c ∈ markerChars := by
  cases h with
  | marker kind marker hm => exact Connector.mem_markerChars hm hc
  | none => exact absurd hc List.not_mem_nil

/-- The characters of a side: those of decorations, and those of its label. -/
theorem not_mem_side {kind : ConnectorKind} {marker label : Text} (h : kind.Marked marker)
    (hl : SideLabel label) {c : Char} (hc : c ∈ "-[\\".toList) : c ∉ marker ∧ c ∉ label := by
  have hmark : ∀ c ∈ "-[\\".toList, c ∉ markerChars := Text.forall_of_all (by decide)
  exact ⟨fun hm => hmark c hc (h.mem_markerChars hm), fun hm => hl.free c hm hc⟩

theorem ConnectorKind.Marked.isBlank {kind : ConnectorKind} {marker : Text}
    (h : kind.Marked marker) {c : Char} (hc : c ∈ marker) : Text.isBlank c = false := by
  have hblank : ∀ c ∈ markerChars, Text.isBlank c = false :=
    Text.forall_of_all (by decide)
  exact hblank c (h.mem_markerChars hc)

/-- The text of a connection is trimmed: it begins and ends with a decoration, a label or the line. -/
theorem trim_connection {left right : Connector} {front back : Text}
    (hfront : left.kind.Marked front) (hback : right.kind.Marked back)
    (hleft : SideLabel left.label) (hright : SideLabel right.label) (dashed : Bool) :
    Text.trim (front ++ left.label ++ (connectionLine dashed ++ (right.label ++ back))) =
      front ++ left.label ++ (connectionLine dashed ++ (right.label ++ back)) := by
  have hline : ∀ c ∈ connectionLine dashed, Text.isBlank c = false := by
    cases dashed <;> exact Text.forall_of_all (by decide)
  have hlabelHead : ∀ {label : Text}, SideLabel label → ∀ c ∈ label.head?, Text.isBlank c = false :=
    fun hl c hc => Text.head?_trim (hl.trimmed.symm ▸ hc)
  have hlabelLast : ∀ {label : Text}, SideLabel label →
      ∀ c ∈ label.getLast?, Text.isBlank c = false :=
    fun hl c hc => Text.getLast?_trim (hl.trimmed.symm ▸ hc)
  refine Text.trim_eq_self ?_ ?_
  · refine Text.forall_head?_append (Text.forall_head?_append ?_ (hlabelHead hleft)) ?_
    · exact fun c hc => hfront.isBlank (List.mem_of_head? hc)
    · refine Text.forall_head?_append (fun c hc => hline c (List.mem_of_head? hc)) ?_
      refine Text.forall_head?_append (hlabelHead hright) fun c hc => ?_
      exact hback.isBlank (List.mem_of_head? hc)
  · refine Text.forall_getLast?_append (Text.forall_getLast?_append ?_ (hlabelLast hleft)) ?_
    · exact fun c hc => hfront.isBlank (List.mem_of_getLast? hc)
    · refine Text.forall_getLast?_append (fun c hc => hline c (List.mem_of_getLast? hc)) ?_
      refine Text.forall_getLast?_append (hlabelLast hright) fun c hc => ?_
      exact hback.isBlank (List.mem_of_getLast? hc)

/-- **A connection is read back.** -/
theorem spells_connection {left right : Connector} {front back : Text}
    (hfront : left.kind.Marked front) (hback : right.kind.Marked back)
    (hleft : SideLabel left.label) (hright : SideLabel right.label)
    (hleftHead : ∀ c ∈ left.label.head?, c ∉ markerChars)
    (hrightLast : ∀ c ∈ right.label.getLast?, c ∉ markerChars)
    (hrightHead : right.kind = .none → ∀ c ∈ right.label.head?, c ∉ markerChars)
    (dashed : Bool) (d : Direction) :
    (Segment.word (front ++ left.label ++ (connectionLine dashed ++ (right.label ++ back)))).Spells
      .classes d (.edge (.connection left right dashed) none) := by
  have hl : ∀ {c : Char}, c ∈ "-[\\".toList → c ∉ front ++ left.label := fun hc hmem => by
    obtain ⟨hmark, hlabel⟩ := not_mem_side hfront hleft hc
    exact (List.mem_append.mp hmem).elim hmark hlabel
  have hr : ∀ {c : Char}, c ∈ "-[\\".toList → c ∉ right.label ++ back := fun hc hmem => by
    obtain ⟨hmark, hlabel⟩ := not_mem_side hback hright hc
    exact (List.mem_append.mp hmem).elim hlabel hmark
  have hline : ∀ c ∈ connectionLine dashed, c ∉ "[\\".toList := by
    cases dashed <;> exact Text.forall_of_all (by decide)
  have hfree : ∀ {c : Char}, c ∈ "[\\".toList →
      c ∉ front ++ left.label ++ (connectionLine dashed ++ (right.label ++ back)) := by
    intro c hc hmem
    have hside : c ∈ "-[\\".toList := List.mem_cons_of_mem '-' hc
    rcases List.mem_append.mp hmem with hmem | hmem
    · exact hl hside hmem
    · rcases List.mem_append.mp hmem with hmem | hmem
      · exact hline c hmem hc
      · exact hr hside hmem
  have hread := ofText_connection (hl (by decide)) (hr (by decide))
    (fun e => hl (by decide) (List.mem_of_head? e)) dashed d
  rw [Connector.ofFront_append hfront hleft.trimmed hleftHead,
    Connector.ofBack_append hback hright.trimmed hrightLast hrightHead] at hread
  refine Segment.spells_word (trim_connection hfront hback hleft hright dashed) ?_
    (fun c hc ho => ?_) (hfree (by decide)) hread
  · refine List.append_ne_nil_of_right_ne_nil _ (List.append_ne_nil_of_left_ne_nil ?_ _)
    cases dashed <;> exact List.cons_ne_nil _ _
  · exact hfree (by rw [List.mem_singleton.mp ho]; decide) hc

/-- **Every element is read back from the segment it is written as.** -/
theorem ClassSpelling.spells {e : Element} {t : Text} (h : ClassSpelling e t) (d : Direction) :
    ∃ p : Segment, p.text = t ∧ p.Spells .classes d e := by
  cases h with
  | box label inner paint hf hw hnote =>
    exact ⟨.enclosed .square inner, rfl, Segment.spells_enclosed (by decide)
      (hw.legible (by decide) hf.unclosed hf.paired) (ofSquare_box (hw.box hf hnote))⟩
  | note label inner paint hf hw =>
    exact ⟨.enclosed .square (notePrefix ++ inner), rfl, Segment.spells_enclosed (by decide)
      (hw.legible_note hf (by decide)) (ofSquare_note (hw.note hf))⟩
  | inheritance =>
    exact ⟨.word "^".toList, rfl,
      Segment.spells_word (by decide) (by decide) (Text.forall_of_all (by decide)) (by decide) rfl⟩
  | connection left right dashed front back hfront hback hleft hright hleftHead hrightLast hrightHead =>
    exact ⟨.word (front ++ left.label ++ (connectionLine dashed ++ (right.label ++ back))), rfl,
      spells_connection hfront hback hleft hright hleftHead hrightLast hrightHead dashed d⟩

/-- **Reading undoes the spelling of classes**, for every row of elements in which no two edges stand
    side by side. -/
theorem ofLine_classSpelling {es : List Element} {texts : List Text}
    (h : List.Forall₂ ClassSpelling es texts) (hchain : es.IsChain Element.Apart) (d : Direction) :
    Element.ofLine texts.flatten .classes d = .ok es :=
  ofLine_spelled (h.imp fun _ _ ht => ht.spells d) hchain

/-- A line with every kind of element: a decoration in one of its two spellings, one that begins like
    another, and one behind a label that begins like a decoration. -/
theorem ofLine_classSpelling_everyKind :
    Element.ofLine ("[A|+ x (int)]<>1-0..*>[B \\] <b>\x7bbg:red\x7d]^[note: c->d]+-.->uses it++" ++
        "[E]-[F]").toList .classes .topDown =
      .ok [.node (.classBox "A|+ x (int)".toList Paint.none),
        .edge (.connection ⟨.aggregation, "1".toList⟩ ⟨.directional, "0..*".toList⟩ false) none,
        .node (.classBox "B \\] <b>".toList (Paint.ofBackground "red".toList)),
        .edge (.inheritance []) none, .node (.note "c->d".toList Paint.none),
        .edge (.connection ⟨.aggregation, []⟩ ⟨.composition, ">uses it".toList⟩ true) none,
        .node (.classBox "E".toList Paint.none),
        .edge (.connection ⟨.none, []⟩ ⟨.none, []⟩ false) none,
        .node (.classBox "F".toList Paint.none)] := by
  have hbox : ∀ label : Text, Label.Fits .square label → '{' ∉ label →
      ¬ LabelParts.noteMark <+: label →
        ClassSpelling (.node (.classBox label Paint.none)) ('[' :: (label ++ [']'])) :=
    fun label hf hbrace hnote => .box label label Paint.none hf (.of_not_mem hbrace) hnote
  have hassociation : ClassSpelling (.edge (.connection ⟨.aggregation, "1".toList⟩
      ⟨.directional, "0..*".toList⟩ false) none) "<>1-0..*>".toList :=
    .connection _ _ false "<>".toList ">".toList (.marker _ _ (by decide)) (.marker _ _ (by decide))
      ⟨by decide, Text.forall_of_all (by decide)⟩ ⟨by decide, Text.forall_of_all (by decide)⟩
      (Text.forall_of_optionAll (by decide)) (Text.forall_of_optionAll (by decide))
      (fun h => by cases h)
  have huse : ClassSpelling (.edge (.connection ⟨.aggregation, []⟩
      ⟨.composition, ">uses it".toList⟩ true) none) "+-.->uses it++".toList :=
    .connection _ _ true "+".toList "++".toList (.marker _ _ (by decide)) (.marker _ _ (by decide))
      ⟨by decide, Text.forall_of_all (by decide)⟩ ⟨by decide, Text.forall_of_all (by decide)⟩
      (Text.forall_of_optionAll (by decide)) (Text.forall_of_optionAll (by decide))
      (fun h => by cases h)
  have hplain : ClassSpelling (.edge (.connection ⟨.none, []⟩ ⟨.none, []⟩ false) none) "-".toList :=
    .connection _ _ false [] [] .none .none
      ⟨by decide, Text.forall_of_all (by decide)⟩ ⟨by decide, Text.forall_of_all (by decide)⟩
      (Text.forall_of_optionAll (by decide)) (Text.forall_of_optionAll (by decide))
      (fun _ => Text.forall_of_optionAll (by decide))
  have h : List.Forall₂ ClassSpelling _ _ :=
    .cons (hbox "A|+ x (int)".toList ⟨by decide, by decide, by decide, by decide⟩ (by decide)
      (by decide)) <|
      .cons hassociation <|
      .cons (.box "B \\] <b>".toList _ _ ⟨by decide, by decide, by decide, by decide⟩
        (.colored "red".toList (by decide) (by decide)) (by decide)) <|
      .cons .inheritance <|
      .cons (.note "c->d".toList _ _ ⟨by decide, by decide, by decide, by decide⟩
        (.of_not_mem (by decide))) <|
      .cons huse <|
      .cons (hbox "E".toList ⟨by decide, by decide, by decide, by decide⟩ (by decide) (by decide)) <|
      .cons hplain <|
      .cons (hbox "F".toList ⟨by decide, by decide, by decide, by decide⟩ (by decide) (by decide))
        .nil
  exact ofLine_classSpelling h (by decide) .topDown

end Yuml
