import Yuml.Proofs.Quoting

/-!
# Parts: the quoted values of a drawing

A drawing is a row of PARTS: attributes with a quoted value, and everything between them. The
drawing program reads a value back if the quote that it finds to close the value is the one that was
written behind it (`Closes`), and that is so for a row of parts if and only if all of its values are
sealed (`closes_iff`).

The parts of an attribute list are given for both of its forms, the plain list and the table. A list
is TIDY if all that may be set in it beside the labels is clean (`Attributes.Tidy`): then its parts
are what is written of it (`written_parts`), and its labels alone decide what is read back
(`Tidy.sealed_iff`).
-/

namespace Yuml

open Attributes (quoteValue textItem textItem?)

/-! ## 1. Parts -/

/-- A part of a drawing: an attribute with a quoted value, or what stands between two of them. -/
inductive Part where
  | plain (text : Text)
  | quoted (name : String) (value : Text)

/-- A part as it is written. -/
def Part.text : Part → Text
  | .plain t => t
  | .quoted name value => name.toList ++ '=' :: '"' :: (quoteValue value ++ ['"'])

/-- The value of a part that is quoted. -/
def Part.value? : Part → Option Text
  | .plain _ => none
  | .quoted _ value => some value

/-- The text of some parts. -/
def written (ps : List Part) : Text := ps.flatMap Part.text

/-- The quoted values of some parts. -/
def values (ps : List Part) : List Text := ps.filterMap Part.value?

/-- Whether every quoted value is closed by the quote that was written behind it. -/
def Closes : List Part → Prop
  | [] => True
  | .plain _ :: ps => Closes ps
  | .quoted _ value :: ps =>
    readQuoted false (quoteValue value ++ '"' :: written ps) = some (quoteValue value, written ps) ∧
      Closes ps

instance decidableCloses : (ps : List Part) → Decidable (Closes ps)
  | [] => isTrue trivial
  | .plain _ :: ps => decidableCloses ps
  | .quoted _ _ :: ps => @instDecidableAnd _ _ _ (decidableCloses ps)

theorem written_append (ps qs : List Part) : written (ps ++ qs) = written ps ++ written qs :=
  List.flatMap_append

theorem written_plain (t : Text) : written [.plain t] = t := List.append_nil t

theorem values_append (ps qs : List Part) : values (ps ++ qs) = values ps ++ values qs :=
  List.filterMap_append

/-- **Parts are read back if and only if their values are sealed.** -/
theorem closes_iff (ps : List Part) : Closes ps ↔ ∀ value ∈ values ps, Sealed value := by
  induction ps with
  | nil => exact ⟨fun _ _ h => absurd h List.not_mem_nil, fun _ => trivial⟩
  | cons p ps ih =>
    cases p with
    | plain t => exact ih
    | quoted name value =>
      show _ ∧ _ ↔ ∀ v ∈ value :: values ps, Sealed v
      rw [List.forall_mem_cons, readQuoted_quoteValue_iff, ih]

/-! ## 2. Clean values -/

theorem clean_joinWith {sep : Text} {ps : List Text} (hsep : Clean sep) (h : ∀ p ∈ ps, Clean p) :
    Clean (Text.joinWith sep ps) := by
  constructor
  · intro hm
    rcases Text.mem_joinWith hm with hm | ⟨p, hp, hm⟩
    · exact hsep.1 hm
    · exact (h p hp).1 hm
  · intro hm
    rcases Text.mem_joinWith hm with hm | ⟨p, hp, hm⟩
    · exact hsep.2 hm
    · exact (h p hp).2 hm

theorem Shape.clean_name (s : Shape) : Clean s.name := by cases s <;> decide

theorem ArrowHead.clean_name (h : ArrowHead) : Clean h.name := by cases h <;> decide

/-! ## 3. Attribute lists -/

namespace Attributes

/-- An attribute with a text value. -/
def textParts (name : String) (value : Text) : List Part := [.quoted name value, .plain separator]

/-- An attribute with a text value, if it is set. -/
def textParts? (name : String) (value : Option Text) : List Part :=
  (value.map (textParts name)).getD []

/-- The attributes with a number, and the end of the list. -/
def numbers (a : Attributes) : Text :=
  intItem? "labeldistance" a.labeldistance ++
  (floatItem? "height" a.height ++
  (floatItem? "width" a.width ++
  (intItem? "fontsize" a.fontsize ++
  (intItem? "penwidth" a.penwidth ++ [']']))))

/-- The names of the styles. -/
def styleText (a : Attributes) : Text := Text.joinWith [','] (a.style.map Style.name)

/-- The parts of a plain list. -/
def plainParts (a : Attributes) : List Part :=
  .plain ['['] :: (textParts "shape" a.shape.name ++ (textParts? "margin" a.margin ++
    (textParts "label" a.labelText ++ (textParts "style" a.styleText ++
    (textParts? "fillcolor" a.fillcolor ++ (textParts? "fontcolor" a.fontcolor ++
    (textParts? "dir" a.dir ++ (textParts "arrowtail" (a.arrowtail.getD .none).name ++
    (textParts "arrowhead" (a.arrowhead.getD .none).name ++ (textParts? "taillabel" a.taillabel ++
    (textParts? "headlabel" a.headlabel ++ [.plain a.numbers])))))))))))

theorem written_textParts (name : String) (value : Text) :
    written (textParts name value) = textItem name value := by
  simp [written, textParts, Part.text, textItem]

theorem written_textParts? (name : String) (value : Option Text) :
    written (textParts? name value) = textItem? name value := by
  cases value with
  | none => rfl
  | some value => exact written_textParts name value

theorem written_plainParts (a : Attributes) : written a.plainParts = a.plain := by
  have hcons (ps : List Part) : written (.plain ['['] :: ps) = '[' :: written ps := rfl
  rw [plainParts, hcons, plain, items]
  simp only [written_append, written_textParts, written_textParts?, written_plain, numbers,
    styleText, List.append_assoc]

theorem values_textParts (name : String) (value : Text) : values (textParts name value) = [value] :=
  rfl

theorem values_textParts? (name : String) (value : Option Text) :
    values (textParts? name value) = value.toList := by
  cases value <;> rfl

theorem values_plainParts (a : Attributes) :
    values a.plainParts = a.shape.name :: (a.margin.toList ++ a.labelText :: a.styleText ::
      (a.fillcolor.toList ++ (a.fontcolor.toList ++ (a.dir.toList ++
      (a.arrowtail.getD .none).name :: (a.arrowhead.getD .none).name ::
      (a.taillabel.toList ++ a.headlabel.toList))))) := by
  have hcons (ps : List Part) : values (.plain ['['] :: ps) = values ps := rfl
  have hnumbers : values [.plain a.numbers] = [] := rfl
  rw [plainParts, hcons]
  simp only [values_append, values_textParts, values_textParts?, hnumbers, List.append_nil,
    List.singleton_append]

/-- A colour of a table, if it is set to something. -/
def colorParts (name : String) (color : Option Text) : List Part :=
  match color with
  | none | some [] => []
  | some c => [.quoted name c, .plain [' ']]

/-- The parts of a table up to its colours. -/
def tableHead : List Part :=
  [.plain "[fontsize=10,label=<<TABLE ".toList, .quoted "BORDER" ['0'], .plain [' '],
    .quoted "CELLBORDER" ['1'], .plain [' '], .quoted "CELLSPACING" ['0'], .plain [' '],
    .quoted "CELLPADDING" ['9'], .plain [' ']]

/-- The parts of a table. -/
def tableParts (a : Attributes) : List Part :=
  tableHead ++ (colorParts "BGCOLOR" a.fillcolor ++ (colorParts "COLOR" a.fontcolor ++
  [.plain ('>' :: ((Text.splitAt '|' a.labelText).flatMap tableRow ++ "</TABLE>>]".toList))]))

/-- Whether the list is written as a table. -/
def isTable (a : Attributes) : Bool :=
  a.shape == .record && !isPortLabel a.labelText && a.labelText.contains '|'

/-- The parts of a list as it is written. -/
def parts (a : Attributes) : List Part := if a.isTable then a.tableParts else a.settled.plainParts

/-- The labels that the list shows between quotes. -/
def shownLabels (a : Attributes) : List Text :=
  if a.isTable then [] else a.labelText :: (a.taillabel.toList ++ a.headlabel.toList)

/-- Whether all that may be set beside the labels is clean. -/
structure Tidy (a : Attributes) : Prop where
  margin : ∀ v ∈ a.margin, Clean v
  fillcolor : ∀ v ∈ a.fillcolor, Clean v
  fontcolor : ∀ v ∈ a.fontcolor, Clean v
  dir : ∀ v ∈ a.dir, Clean v

theorem written_colorParts (name : String) {color : Option Text} (h : ∀ c ∈ color, Clean c) :
    written (colorParts name color) = tableColor name color := by
  match color with
  | none => rfl
  | some [] => rfl
  | some (c :: r) =>
    have hq := quoteValue_eq_self (h _ rfl).1
    simp [written, colorParts, tableColor, Part.text, hq]

theorem mem_of_mem_values_colorParts {name : String} {color : Option Text} {c : Text}
    (h : c ∈ values (colorParts name color)) : c ∈ color := by
  match color with
  | none => exact absurd h List.not_mem_nil
  | some [] => exact absurd h List.not_mem_nil
  | some (a :: r) => exact congrArg some (List.mem_singleton.mp h).symm

theorem written_tableHead : written tableHead = "[fontsize=10,label=<".toList ++
    "<TABLE BORDER=\"0\" CELLBORDER=\"1\" CELLSPACING=\"0\" CELLPADDING=\"9\" ".toList := by
  decide

theorem sealed_of_mem_tableHead : ∀ v ∈ values tableHead, Sealed v := by decide

theorem Tidy.written_tableParts {a : Attributes} (h : a.Tidy) : written a.tableParts = a.table := by
  have hrows (t : Text) : written [.plain ('>' :: t)] = ['>'] ++ t := List.append_nil _
  have hsplit : written a.tableParts = written tableHead ++ (tableColor "BGCOLOR" a.fillcolor ++
      (tableColor "COLOR" a.fontcolor ++ (['>'] ++
        ((Text.splitAt '|' a.labelText).flatMap tableRow ++ "</TABLE>>]".toList)))) := by
    rw [← written_colorParts "BGCOLOR" h.fillcolor, ← written_colorParts "COLOR" h.fontcolor,
      ← hrows, ← written_append, ← written_append, ← written_append]
    rfl
  rw [hsplit, written_tableHead]
  unfold table
  simp only [List.append_assoc]

theorem Tidy.written_parts {a : Attributes} (h : a.Tidy) : written a.parts = a.render := by
  unfold parts render isTable
  split
  · exact h.written_tableParts
  · exact written_plainParts a.settled

theorem clean_styleText (a : Attributes) : Clean a.styleText := by
  refine clean_joinWith (by decide) fun p hp => ?_
  obtain ⟨s, -, rfl⟩ := List.mem_map.mp hp
  cases s <;> decide

/-- Writing a list once changes its shape at most. -/
theorem exists_settled_eq (a : Attributes) : ∃ shape, a.settled = { a with shape := shape } := by
  unfold settled
  split
  · exact ⟨_, rfl⟩
  · exact ⟨a.shape, rfl⟩

/-- **The values of a tidy list are sealed if and only if the labels that it shows are.** -/
theorem Tidy.sealed_iff {a : Attributes} (h : a.Tidy) :
    (∀ v ∈ values a.parts, Sealed v) ↔ ∀ label ∈ a.shownLabels, Sealed label := by
  unfold parts shownLabels
  split
  · refine ⟨fun _ _ hm => absurd hm List.not_mem_nil, fun _ => ?_⟩
    rw [tableParts, values_append, values_append, values_append]
    refine List.forall_mem_append.mpr ⟨sealed_of_mem_tableHead, ?_⟩
    refine List.forall_mem_append.mpr ⟨fun v hv => ?_, ?_⟩
    · exact (h.fillcolor v (mem_of_mem_values_colorParts hv)).sealed
    refine List.forall_mem_append.mpr ⟨fun v hv => ?_, ?_⟩
    · exact (h.fontcolor v (mem_of_mem_values_colorParts hv)).sealed
    · exact fun _ hm => absurd hm List.not_mem_nil
  · obtain ⟨shape, hs⟩ := exists_settled_eq a
    have hset {o : Option Text} (ho : ∀ v ∈ o, Clean v) : ∀ v ∈ o.toList, Sealed v :=
      fun v hv => (ho v (Option.mem_toList.mp hv)).sealed
    have hstyle := (clean_styleText { a with shape := shape }).sealed
    rw [hs, values_plainParts]
    simp only [List.forall_mem_cons, List.forall_mem_append]
    constructor
    · rintro ⟨-, -, hlabel, -, -, -, -, -, -, htail, hhead⟩
      exact ⟨hlabel, htail, hhead⟩
    · rintro ⟨hlabel, htail, hhead⟩
      exact ⟨(Shape.clean_name shape).sealed, hset h.margin, hlabel, hstyle, hset h.fillcolor,
        hset h.fontcolor, hset h.dir, (ArrowHead.clean_name _).sealed,
        (ArrowHead.clean_name _).sealed, htail, hhead⟩

end Attributes

end Yuml
