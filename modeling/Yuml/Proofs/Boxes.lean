import Mathlib
import Yuml.Proofs.Escaping
import Yuml.Proofs.Written

/-!
# Boxes: how the fields of a label are written

The box of an activity or a class is a record, but it is never written as one: a label of one field is
written in a plain rectangle, a label of several fields as a TABLE with one row for each field.
`Statement.WritesBox` says so of a statement, whatever the label is, and of a table that

* its cells, read in one pass (`readCell`), are the fields with line feeds for semicolons;
* a cell has no angle brackets but those of its line breaks (`ShowsField`), so the bracket that closes the
  label is found where it was written (`Tabulates.closes`).

On its way into a cell a field is escaped for a plain attribute, taken out of the joined label, unescaped
and escaped for the cell. The first and the third step cancel, whatever backslashes the field has
(`unescape_escape`).
-/

namespace Yuml

/-! ## 1. Escaping and unescaping -/

/-- A text with line feeds for its semicolons. -/
def Label.lined (s : Text) : Text := s.map fun c => if c = ';' then '\n' else c

theorem unescape_protected {d : Char} (h : Label.isProtected d = true) (r : Text) :
    Label.unescape ('\\' :: d :: r) = d :: Label.unescape r := by
  rw [Label.unescape_eq_unguard, Label.unguard_guarded h, ← Label.unescape_eq_unguard]

/-- A character stays, unless it is the backslash of a character that is escaped. -/
theorem unescape_cons {c : Char} {r : Text}
    (h : c = '\\' → ∀ d ∈ r.head?, Label.isProtected d = false) :
    Label.unescape (c :: r) = c :: Label.unescape r := by
  rw [Label.unescape_eq_unguard, Label.unguard_cons h, ← Label.unescape_eq_unguard]

/-- **Unescaping takes back what escaping has done**, but for the semicolons, which have become line
    feeds. A backslash of the text itself is no escape: what stands behind it has one of its own. -/
theorem unescape_escape (s : Text) : Label.unescape (Label.escape s) = Label.lined s := by
  induction s with
  | nil => rfl
  | cons c s ih =>
    have hcons : Label.escape (c :: s) = Label.escapeChar c ++ Label.escape s := List.flatMap_cons
    have hhead : ∀ d ∈ (Label.escape s).head?, Label.isProtected d = false :=
      fun d hd => isProtected_of_head?_escape hd
    rw [hcons, Label.lined, List.map_cons, ← Label.lined, ← ih, Label.escapeChar]
    by_cases hp : Label.isProtected c = true
    · have hc : c ≠ ';' := fun e => by rw [e] at hp; cases hp
      rw [if_pos hp, if_neg hc, List.cons_append, List.singleton_append, unescape_protected hp]
    · rw [if_neg hp]
      by_cases hc : c = ';'
      · rw [if_pos hc, if_pos hc, List.singleton_append, unescape_cons fun _ => hhead]
      · rw [if_neg hc, if_neg hc, List.singleton_append, unescape_cons fun _ => hhead]

theorem escape_joinWith (fields : List Text) :
    Label.escape (Text.joinWith ['|'] fields) = Text.joinWith ['|'] (fields.map Label.escape) := by
  induction fields with
  | nil => rfl
  | cons f fields ih =>
    cases fields with
    | nil => rfl
    | cons f' fields =>
      rw [Text.joinWith, List.map_cons, List.map_cons, Text.joinWith, ← List.map_cons, ← ih]
      simp only [Label.escape, List.flatMap_append]
      rfl

/-- The fields of a label are found again when the label has been escaped. -/
theorem splitAt_escape_joinWith {fields : List Text} (hne : fields ≠ []) (h : ∀ f ∈ fields, '|' ∉ f) :
    Text.splitAt '|' (Label.escape (Text.joinWith ['|'] fields)) = fields.map Label.escape := by
  rw [escape_joinWith]
  refine Text.splitAt_joinWith (fun e => hne (List.map_eq_nil_iff.mp e)) fun p hp => ?_
  obtain ⟨f, hf, rfl⟩ := List.mem_map.mp hp
  exact fun hbar => h f hf (bar_mem_escape_iff.mp hbar)

/-! ## 2. Cells -/

/-- The text that a cell shows, read in one pass: a line break is a line feed, and three entities stand
    for their characters. A cell with any other angle bracket or ampersand is not read. -/
def readCell : Text → Option Text
  | [] => some []
  | '<' :: 'B' :: 'R' :: '/' :: '>' :: r => (readCell r).map ('\n' :: ·)
  | '&' :: 'a' :: 'm' :: 'p' :: ';' :: r => (readCell r).map ('&' :: ·)
  | '&' :: 'l' :: 't' :: ';' :: r => (readCell r).map ('<' :: ·)
  | '&' :: 'g' :: 't' :: ';' :: r => (readCell r).map ('>' :: ·)
  | c :: r => if c = '<' ∨ c = '>' ∨ c = '&' then none else (readCell r).map (c :: ·)

/-- A cell shows a text: it is read as this, and its only angle brackets are those of the line breaks. -/
structure ShowsField (text cell : Text) : Prop where
  read : readCell cell = some text
  opening : cell.count '<' = text.count '\n'
  closing : cell.count '>' = text.count '\n'

/-- An angle bracket that belongs to no line break is not read. -/
example : readCell "a<b>".toList = none := by decide

/-- The five ways in which a character is written in a cell. -/
theorem escapeCellChar_cases {P : Char → Text → Prop} (hbreak : P '\n' "<BR/>".toList)
    (hamp : P '&' "&amp;".toList) (hlt : P '<' "&lt;".toList) (hgt : P '>' "&gt;".toList)
    (hother : ∀ c, c ∉ "\n&<>".toList → P c [c]) (c : Char) : P c (Label.escapeCellChar c) := by
  unfold Label.escapeCellChar
  split
  · subst c
    exact hbreak
  · split
    · subst c
      exact hamp
    · split
      · subst c
        exact hlt
      · split
        · subst c
          exact hgt
        · exact hother c (by simp [*])

theorem readCell_cons {c : Char} (h : c ∉ "\n&<>".toList) (r : Text) :
    readCell (c :: r) = (readCell r).map (c :: ·) := by
  have hne : c ≠ '<' ∧ c ≠ '>' ∧ c ≠ '&' := by
    simp only [String.reduceToList, List.mem_cons, not_or] at h
    exact ⟨h.2.2.1, h.2.2.2.1, h.2.1⟩
  rw [readCell, if_neg]
  · rintro (e | e | e)
    · exact hne.1 e
    · exact hne.2.1 e
    · exact hne.2.2 e
  · exact fun _ e => absurd e hne.1
  · exact fun _ e => absurd e hne.2.2
  · exact fun _ e => absurd e hne.2.2
  · exact fun _ e => absurd e hne.2.2

theorem readCell_escapeCellChar (c : Char) (r : Text) :
    readCell (Label.escapeCellChar c ++ r) = (readCell r).map (c :: ·) :=
  escapeCellChar_cases (P := fun c w => readCell (w ++ r) = (readCell r).map (c :: ·)) rfl rfl rfl rfl
    (fun _ hc => readCell_cons hc r) c

theorem readCell_escapeCell (s : Text) : readCell (Label.escapeCell s) = some s := by
  induction s with
  | nil => rfl
  | cons c s ih =>
    have hcons : Label.escapeCell (c :: s) = Label.escapeCellChar c ++ Label.escapeCell s :=
      List.flatMap_cons
    rw [hcons, readCell_escapeCellChar, ih]
    rfl

theorem count_escapeCellChar {b : Char} (hb : b = '<' ∨ b = '>') (c : Char) :
    (Label.escapeCellChar c).count b = [c].count '\n' := by
  have hother : ∀ c, c ∉ "\n&<>".toList → [c].count b = [c].count '\n' := by
    intro c hc
    have hne : c ≠ b := by
      rintro rfl
      rcases hb with rfl | rfl <;> exact hc (by decide)
    have hnl : c ≠ '\n' := fun e => hc (e ▸ by decide)
    rw [List.count_singleton, List.count_singleton, beq_false_of_ne hne, beq_false_of_ne hnl]
  rcases hb with rfl | rfl
  · exact escapeCellChar_cases (P := fun c w => w.count '<' = [c].count '\n') rfl rfl rfl rfl hother c
  · exact escapeCellChar_cases (P := fun c w => w.count '>' = [c].count '\n') rfl rfl rfl rfl hother c

/-- An angle bracket in a cell belongs to a line break. -/
theorem count_escapeCell {b : Char} (hb : b = '<' ∨ b = '>') (s : Text) :
    (Label.escapeCell s).count b = s.count '\n' := by
  induction s with
  | nil => rfl
  | cons c s ih =>
    have hcons : Label.escapeCell (c :: s) = Label.escapeCellChar c ++ Label.escapeCell s :=
      List.flatMap_cons
    rw [hcons, List.count_append, count_escapeCellChar hb, ih, ← List.count_append,
      List.singleton_append]

theorem showsField_escapeCell (s : Text) : ShowsField s (Label.escapeCell s) where
  read := readCell_escapeCell s
  opening := count_escapeCell (.inl rfl) s
  closing := count_escapeCell (.inr rfl) s

/-! ## 3. Angle brackets -/

/-- What stands behind the angle bracket that closes a text, when some more have to be closed before. -/
def behindAngle : Nat → Text → Option Text
  | _, [] => none
  | depth, '<' :: r => behindAngle (depth + 1) r
  | 0, '>' :: r => some r
  | depth + 1, '>' :: r => behindAngle depth r
  | depth, _ :: r => behindAngle depth r

/-- Whether reading a text leaves as many angle brackets open as there were, and closes none of these. -/
def Balanced (s : Text) : Prop :=
  ∀ depth rest, behindAngle depth (s ++ rest) = behindAngle depth rest

/-- A text without angle brackets. -/
def Unbracketed (s : Text) : Prop := '<' ∉ s ∧ '>' ∉ s

instance (s : Text) : Decidable (Unbracketed s) := inferInstanceAs (Decidable (_ ∧ _))

namespace Balanced

variable {s t : Text}

theorem nil : Balanced [] := fun _ _ => rfl

theorem append (hs : Balanced s) (ht : Balanced t) : Balanced (s ++ t) := fun depth rest => by
  rw [List.append_assoc, hs, ht]

theorem flatMap {α : Type} {f : α → Text} (h : ∀ a, Balanced (f a)) (l : List α) :
    Balanced (l.flatMap f) := by
  induction l with
  | nil => exact nil
  | cons a l ih =>
    rw [List.flatMap_cons]
    exact (h a).append ih

theorem of_unbracketed (h : Unbracketed s) : Balanced s := by
  induction s with
  | nil => exact nil
  | cons c s ih =>
    obtain ⟨hlt, hlts⟩ := List.ne_and_not_mem_of_not_mem_cons h.1
    obtain ⟨hgt, hgts⟩ := List.ne_and_not_mem_of_not_mem_cons h.2
    intro depth rest
    rw [List.cons_append, behindAngle, ih ⟨hlts, hgts⟩]
    · exact fun e => hlt e.symm
    · exact fun _ e => hgt e.symm
    · exact fun _ _ e => hgt e.symm

/-- The closing bracket of a balanced text is found where it stands. -/
theorem behindAngle_eq (h : Balanced s) (depth : Nat) (rest : Text) :
    behindAngle (depth + 1) (s ++ '>' :: rest) = behindAngle depth rest := by
  rw [h]
  rfl

theorem bracketed (h : Balanced s) : Balanced ('<' :: (s ++ ['>'])) := fun depth rest => by
  rw [List.cons_append, List.append_assoc, behindAngle]
  exact h.behindAngle_eq depth rest

theorem escapeCell (s : Text) : Balanced (Label.escapeCell s) := by
  refine flatMap (fun c => ?_) s
  refine escapeCellChar_cases (P := fun _ w => Balanced w) ?_ (of_unbracketed (by decide))
    (of_unbracketed (by decide)) (of_unbracketed (by decide))
    (fun c hc => of_unbracketed ⟨fun h => hc ?_, fun h => hc ?_⟩) c
  · exact bracketed (s := "BR/".toList) (of_unbracketed (by decide))
  · exact List.mem_singleton.mp h ▸ by decide
  · exact List.mem_singleton.mp h ▸ by decide

end Balanced

/-! ## 4. Tables -/

/-- A row of a table with one cell. -/
def cellRow (cell : Text) : Text := "<TR><TD>".toList ++ cell ++ "</TD></TR>".toList

/-- A text is a table that shows some texts, each in the only cell of its row. -/
structure Tabulates (shown : List Text) (table : Text) : Prop where
  /-- The rows are those of the texts, in their order. -/
  rows : ∃ head cells, Unbracketed head ∧ List.Forall₂ ShowsField shown cells ∧
    table = "<TABLE".toList ++ head ++ '>' :: (cells.flatMap cellRow ++ "</TABLE>".toList)
  /-- The bracket that closes a label behind the table is the one that is written there. -/
  closes : ∀ rest, behindAngle 0 (table ++ '>' :: rest) = some rest

theorem Unbracketed.append {s t : Text} (hs : Unbracketed s) (ht : Unbracketed t) :
    Unbracketed (s ++ t) :=
  ⟨fun h => (List.mem_append.mp h).elim hs.1 ht.1, fun h => (List.mem_append.mp h).elim hs.2 ht.2⟩

theorem Balanced.tag {s : Text} (h : Unbracketed s) : Balanced ('<' :: (s ++ ['>'])) :=
  (Balanced.of_unbracketed h).bracketed

theorem Balanced.cellRow {cell : Text} (h : Balanced cell) : Balanced (cellRow cell) := by
  have hopen : Balanced "<TR><TD>".toList :=
    (tag (s := "TR".toList) (by decide)).append (tag (s := "TD".toList) (by decide))
  have hclose : Balanced "</TD></TR>".toList :=
    (tag (s := "/TD".toList) (by decide)).append (tag (s := "/TR".toList) (by decide))
  exact (hopen.append h).append hclose

/-- Rows whose cells show some texts make a table. -/
theorem tabulates_cells {head : Text} (h : Unbracketed head) (shown : List Text) :
    Tabulates shown ("<TABLE".toList ++ head ++
      '>' :: ((shown.map Label.escapeCell).flatMap cellRow ++ "</TABLE>".toList)) where
  rows := ⟨head, _, h, List.forall₂_map_right_iff.mpr
    (List.forall₂_same.mpr fun s _ => showsField_escapeCell s), rfl⟩
  closes rest := by
    have hrows : Balanced ((shown.map Label.escapeCell).flatMap cellRow) := by
      rw [List.flatMap_map]
      exact Balanced.flatMap (fun s => (Balanced.escapeCell s).cellRow) shown
    have hopen : Balanced ('<' :: (("TABLE".toList ++ head) ++ ['>'])) :=
      .tag (Unbracketed.append (by decide) h)
    have hclose : Balanced "</TABLE>".toList := .tag (s := "/TABLE".toList) (by decide)
    have htable : "<TABLE".toList ++ head ++
        '>' :: ((shown.map Label.escapeCell).flatMap cellRow ++ "</TABLE>".toList) =
      '<' :: (("TABLE".toList ++ head) ++ ['>']) ++
        ((shown.map Label.escapeCell).flatMap cellRow ++ "</TABLE>".toList) := by simp
    rw [htable, hopen.append (hrows.append hclose)]
    rfl

namespace Attributes

/-- What stands between the name of a table and its first row. -/
def tableOptions (a : Attributes) : Text :=
  " BORDER=\"0\" CELLBORDER=\"1\" CELLSPACING=\"0\" CELLPADDING=\"9\" ".toList ++
    tableColor "BGCOLOR" a.fillcolor ++ tableColor "COLOR" a.fontcolor

theorem unbracketed_tableColor {name : String} (hname : Unbracketed name.toList) {color : Option Text}
    (h : ∀ c ∈ color, Unbracketed c) : Unbracketed (tableColor name color) := by
  match color with
  | none => exact (by decide : Unbracketed [])
  | some [] => exact (by decide : Unbracketed [])
  | some (c :: r) =>
    have hcolor : tableColor name (some (c :: r)) =
        name.toList ++ ("=\"".toList ++ ((c :: r) ++ "\" ".toList)) := rfl
    rw [hcolor]
    exact hname.append (Unbracketed.append (by decide) ((h _ rfl).append (by decide)))

theorem table_eq (a : Attributes) : a.table = "[fontsize=10,label=<".toList ++
    ("<TABLE".toList ++ a.tableOptions ++
      '>' :: ((Text.splitAt '|' a.labelText).flatMap tableRow ++ "</TABLE>".toList)) ++
    ">]".toList := by
  unfold table tableOptions
  simp only [String.reduceToList, List.append_assoc, List.cons_append, List.nil_append]

/-- **A record as a table** shows the fields from which its label was escaped. -/
theorem tabulates_table {a : Attributes}
    (hcolors : (∀ c ∈ a.fillcolor, Unbracketed c) ∧ ∀ c ∈ a.fontcolor, Unbracketed c)
    {fields : List Text}
    (hfields : Text.splitAt '|' a.labelText = fields.map Label.escape) :
    ∃ table, Tabulates (fields.map Label.lined) table ∧
      a.table = "[fontsize=10,label=<".toList ++ table ++ ">]".toList := by
  have hborders : Unbracketed
      " BORDER=\"0\" CELLBORDER=\"1\" CELLSPACING=\"0\" CELLPADDING=\"9\" ".toList := by decide
  have hoptions : Unbracketed a.tableOptions :=
    (hborders.append (unbracketed_tableColor (by decide) hcolors.1)).append
      (unbracketed_tableColor (by decide) hcolors.2)
  refine ⟨_, tabulates_cells hoptions (fields.map Label.lined), ?_⟩
  have hrow (f : Text) : tableRow (Label.escape f) = cellRow (Label.escapeCell (Label.lined f)) :=
    congrArg (fun s => cellRow (Label.escapeCell s)) (unescape_escape f)
  have hrows : (fields.map Label.escape).flatMap tableRow =
      ((fields.map Label.lined).map Label.escapeCell).flatMap cellRow := by
    rw [List.flatMap_map, List.flatMap_map, List.flatMap_map]
    exact List.flatMap_congr fun f _ => hrow f
  rw [table_eq, hfields, hrows]

/-! ## 5. Records -/

section Record

variable {a : Attributes} {text label : Text}

/-- A record that shows a label is written as a table if the label has several fields. -/
theorem render_of_mem (hs : a.shape = .record) (hl : a.label = some text) (h : Shows text label)
    (hbar : '|' ∈ label) : a.render = a.table := by
  have htext : a.labelText = text := by rw [labelText, hl]; rfl
  have hmem : text.contains '|' = true := List.contains_iff_mem.mpr (h.bar.mpr hbar)
  rw [render, if_pos]
  rw [htext, hs, isPortLabel_of_head? h.head, hmem]
  rfl

/-- A record that shows a label of a single field is written as a rectangle. -/
theorem render_of_not_mem (hs : a.shape = .record) (hl : a.label = some text) (h : Shows text label)
    (hbar : '|' ∉ label) : a.render = { a with shape := .rectangle }.plain := by
  have htext : a.labelText = text := by rw [labelText, hl]; rfl
  have hmem : text.contains '|' = false :=
    Bool.eq_false_iff.mpr fun e => hbar (h.bar.mp (List.contains_iff_mem.mp e))
  have hlone : a.isLoneRecord = true := by
    rw [isLoneRecord, htext, hs, isPortLabel_of_head? h.head, hmem]
    rfl
  rw [render, if_neg, settled, if_pos hlone]
  rw [htext, hmem, Bool.and_false]
  exact Bool.false_ne_true

end Record

end Attributes

/-! ## 6. Colours -/

/-- Colours that a box may have: a background as labels spell it, or in small letters, and the colour
    that a background forces on the text. -/
structure Paint.Accepted (p : Paint) : Prop where
  background : ∀ c ∈ p.background, ∃ color, LabelParts.isColorText color = true ∧
    (c = color ∨ c = Text.toLower color)
  fontColor : ∀ c ∈ p.fontColor, ∃ background, c ∈ Color.fontColor background

theorem Paint.Spelled.accepted {p : Paint} (h : p.Spelled) : p.Accepted := by
  cases h with
  | none =>
    exact ⟨fun c h => absurd h (Option.not_mem_none c), fun c h => absurd h (Option.not_mem_none c)⟩
  | background color h =>
    exact ⟨fun c hc => ⟨color, h, .inr (Option.some.inj hc).symm⟩, fun c hc => ⟨_, hc⟩⟩

theorem Paint.Accepted.unbracketed {p : Paint} (h : p.Accepted) :
    (∀ c ∈ p.background, Unbracketed c) ∧ ∀ c ∈ p.fontColor, Unbracketed c := by
  constructor
  · intro c hc
    obtain ⟨color, hcolor, rfl | rfl⟩ := h.background c hc
    · exact ⟨LabelParts.not_mem_of_isColorText hcolor (by decide),
        LabelParts.not_mem_of_isColorText hcolor (by decide)⟩
    · exact ⟨Text.not_mem_toLower (by decide) (LabelParts.not_mem_of_isColorText hcolor (by decide)),
        Text.not_mem_toLower (by decide) (LabelParts.not_mem_of_isColorText hcolor (by decide))⟩
  · intro c hc
    obtain ⟨background, hc⟩ := h.fontColor c hc
    rcases eq_of_mem_fontColor hc with rfl | rfl <;> decide

/-! ## 7. Boxes -/

/-- The box of a grammar. -/
def Node.box : Grammar → Text → Paint → Node
  | .activity => .activity
  | .classes => .classBox

namespace Grammar

/-- A field as the boxes of a grammar break it: those of classes at the width of a box. -/
def broken : Grammar → Text → Text
  | .activity, field => field
  | .classes, field => Label.wrap Label.boxWidth field

/-- A label as the boxes of a grammar write it. -/
def boxText : Grammar → Text → Text
  | .activity, label => Label.escape label
  | .classes, label => Label.format Label.boxWidth true label

theorem shows_boxText (g : Grammar) (label : Text) : Shows (g.boxText label) label := by
  cases g with
  | activity => exact shows_escape label
  | classes => exact shows_format Label.boxWidth true label

theorem boxText_eq (g : Grammar) (label : Text) :
    g.boxText label = Label.escape (Text.joinWith ['|'] ((Text.splitAt '|' label).map g.broken)) := by
  cases g with
  | activity =>
    have hbroken : broken .activity = id := rfl
    rw [hbroken, List.map_id, Text.joinWith_splitAt]
    rfl
  | classes => rfl

theorem not_mem_broken (g : Grammar) {field : Text} (h : '|' ∉ field) : '|' ∉ g.broken field := by
  cases g with
  | activity => exact h
  | classes => exact fun hbar => h (bar_mem_wrap_iff.mp hbar)

/-- The fields of a box are found again in what is written of it. -/
theorem splitAt_boxText (g : Grammar) (label : Text) :
    Text.splitAt '|' (g.boxText label) = ((Text.splitAt '|' label).map g.broken).map Label.escape := by
  rw [boxText_eq]
  refine splitAt_escape_joinWith (fun e => Text.splitAt_ne_nil '|' label (List.map_eq_nil_iff.mp e)) ?_
  intro f hf
  obtain ⟨field, hfield, rfl⟩ := List.mem_map.mp hf
  exact g.not_mem_broken (Text.not_mem_of_mem_splitAt hfield)

theorem boxText_of_not_mem (g : Grammar) {label : Text} (h : '|' ∉ label) :
    g.boxText label = Label.escape (g.broken label) := by
  rw [boxText_eq, Text.splitAt_of_not_mem h]
  rfl

end Grammar

/-- The attributes of a box, up to its colours. -/
theorem nodeAttributes_box (g : Grammar) (d : Direction) (label : Text) (paint : Paint) :
    ∃ a : Attributes, (Element.node (Node.box g label paint)).nodeAttributes g d =
        .ok (a.painted paint) ∧
      a.shape = .record ∧ a.label = some (g.boxText label) ∧ a.fillcolor = none ∧
        a.fontcolor = none := by
  cases g <;> exact ⟨_, rfl, rfl, rfl, rfl, rfl⟩

/-- What the statement of a box is, by its label. -/
structure Statement.WritesBox (s : Statement) (g : Grammar) (name label : Text) : Prop where
  /-- A label of one field is written in a plain rectangle. -/
  rectangle : '|' ∉ label → ∃ a : Attributes, a.shape = .rectangle ∧
    a.label = some (Label.escape (g.broken label)) ∧
      s.render = "    ".toList ++ name ++ ' ' :: a.plain
  /-- A label of several fields is written as a table, and this shows the fields. -/
  table : '|' ∈ label → ∃ table,
    Tabulates ((Text.splitAt '|' label).map fun field => Label.lined (g.broken field)) table ∧
      s.render =
        "    ".toList ++ name ++ ' ' :: ("[fontsize=10,label=<".toList ++ table ++ ">]".toList)
  /-- No label is written as a record. -/
  notRecord : ¬ "    ".toList ++ name ++ " [shape=\"record\"".toList <+: s.render

theorem not_record_plain {a : Attributes} (h : a.shape = .rectangle) :
    ¬ " [shape=\"record\"".toList <+: ' ' :: a.plain := by
  obtain ⟨rest, hrest⟩ := plain_eq_append a
  have hshape : Attributes.textItem "shape" a.shape.name = "shape=\"rectangle\" , ".toList := by
    rw [h]
    decide
  rw [hrest, hshape]
  rintro ⟨t, ht⟩
  simp at ht

theorem not_record_table (table : Text) : ¬ " [shape=\"record\"".toList <+:
    ' ' :: ("[fontsize=10,label=<".toList ++ table ++ ">]".toList) := by
  rintro ⟨t, ht⟩
  simp at ht

section Box

variable {a : Attributes} {g : Grammar} {label : Text}

/-- A record with the label of a box, in colours without angle brackets, is written as a box. -/
theorem Statement.writesBox (name : Text) (hs : a.shape = .record)
    (hl : a.label = some (g.boxText label))
    (hcolors : (∀ c ∈ a.fillcolor, Unbracketed c) ∧ ∀ c ∈ a.fontcolor, Unbracketed c) :
    (Statement.mk name a none false).WritesBox g name label := by
  have hshows := g.shows_boxText label
  have hrender : (Statement.mk name a none false).render =
      "    ".toList ++ name ++ ' ' :: a.render := by
    rw [List.append_assoc]
    rfl
  by_cases hbar : '|' ∈ label
  · have hfields : Text.splitAt '|' a.labelText =
        ((Text.splitAt '|' label).map g.broken).map Label.escape := by
      rw [Attributes.labelText, hl]
      exact g.splitAt_boxText label
    obtain ⟨table, htable, hwritten⟩ := Attributes.tabulates_table hcolors hfields
    rw [List.map_map] at htable
    rw [Attributes.render_of_mem hs hl hshows hbar, hwritten] at hrender
    refine ⟨fun h => absurd hbar h, fun _ => ⟨table, htable, hrender⟩, ?_⟩
    rw [hrender, List.prefix_append_right_inj]
    exact not_record_table table
  · have hrectangle : ({ a with shape := .rectangle } : Attributes).shape = .rectangle := rfl
    rw [Attributes.render_of_not_mem hs hl hshows hbar] at hrender
    refine ⟨fun _ => ⟨_, hrectangle, ?_, hrender⟩, fun h => absurd h hbar, ?_⟩
    · rw [← g.boxText_of_not_mem hbar]
      exact hl
    · rw [hrender, List.prefix_append_right_inj]
      exact not_record_plain hrectangle

end Box

/-- **A box is written as its label says**, whatever the label is: as a plain rectangle if it has one
    field, as a table that shows its fields if it has several, and never as a record. -/
theorem ofIdentity_writesBox {g : Grammar} {i : Identity} {label : Text} {paint : Paint}
    (hi : i.owner.element = .node (Node.box g label paint)) (hp : paint.Accepted) (d : Direction)
    (l : Ledger) :
    ∃ s, Statement.ofIdentity g d l i = .ok s ∧ s.WritesBox g i.uid label := by
  obtain ⟨a, ha, hs, hl, hfill, hfont⟩ := nodeAttributes_box g d label paint
  have hcurrent : l.current i.owner = .node (Node.box g label paint) := by
    rw [Ledger.current, hi]
    cases g <;> rfl
  have hnone : ∀ c ∈ (none : Option Text), Unbracketed c := fun c h => absurd h (Option.not_mem_none c)
  have hcolors := Attributes.painted_colors ⟨hfill.symm ▸ hnone, hfont.symm ▸ hnone⟩ hp.unbracketed
  refine ⟨⟨i.uid, a.painted paint, none, false⟩, ?_, Statement.writesBox i.uid ?_ ?_ hcolors⟩
  · rw [Statement.ofIdentity, hcurrent, ha]
    rfl
  · rw [Attributes.painted_shape, hs]
  · rw [Attributes.painted_label, hl]

/-- A class whose fields look like ports, hold what both ways of escaping change, and are too long for a
    line. -/
theorem ofIdentity_writesBox_ports :
    let label := "<f1>|\\{a;b} & \\\\<c>|a field of more than twenty".toList
    let paint := Paint.ofBackground "red".toList
    let i : Identity := ⟨1, Label.key label, 0, .node (Node.box .classes label paint)⟩
    (i.owner.element = .node (Node.box .classes label paint) ∧ paint.Accepted) ∧
      ∃ s, Statement.ofIdentity .classes .topDown Ledger.empty i = .ok s ∧
        s.WritesBox .classes i.uid label := by
  intro label paint i
  have hpaint : paint.Accepted := (Paint.Spelled.background "red".toList (by decide)).accepted
  exact ⟨⟨rfl, hpaint⟩, ofIdentity_writesBox rfl hpaint .topDown Ledger.empty⟩

end Yuml
