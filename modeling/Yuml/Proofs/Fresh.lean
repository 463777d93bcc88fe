import Yuml.Proofs.Production

/-!
# Fresh elements: what the reading of a document can produce

`Element.Fresh g d e` says what an element looks like that has just been read from a document of
grammar `g` and direction `d`: it belongs to the grammar, no edge enters a bar yet, no edge has a
relation, and an arrow has the direction of the document. `Paint.Spelled` says the same of colours:
there are none, or the background is a colour as labels spell it, in small letters.

Whatever is read is fresh (`ofLines_fresh`), so a fault that no fresh element can cause is never
reached.
-/

namespace Yuml

/-! ## 1. Colours -/

/-- Colours as a label spells them. -/
inductive Paint.Spelled : Paint → Prop where
  | none : Spelled Paint.none
  | background (color : Text) (h : LabelParts.isColorText color = true) :
      Spelled (Paint.ofBackground (Text.toLower color))

namespace LabelParts

theorem attributeColor?_isColorText {s color : Text} (h : attributeColor? s = some color) :
    isColorText color = true := by
  unfold attributeColor? at h
  simp only [Option.bind_eq_bind, Option.bind_eq_some_iff, Option.ite_none_right_eq_some,
    Bool.and_eq_true, Option.some.injEq] at h
  obtain ⟨_, _, _, _, ⟨hc, _⟩, rfl⟩ := h
  exact hc

theorem splitBackground?_isColorText {part front color : Text}
    (h : splitBackground? part = some (front, color)) : isColorText color = true := by
  unfold splitBackground? at h
  simp only [Option.bind_eq_bind, Option.bind_eq_some_iff] at h
  obtain ⟨_, _, c, hc, h⟩ := h
  split at h
  · cases h
  · cases h
    exact attributeColor?_isColorText hc

theorem readMark_paint (allowNote : Bool) (label : Text) (paint : Paint) :
    (readMark allowNote label paint).paint = paint := by
  unfold readMark
  split <;> rfl

theorem ofText_spelled (part : Text) (allowNote : Bool) :
    (ofText part allowNote).paint.Spelled := by
  unfold ofText
  split
  · rename_i front color h
    rw [readMark_paint]
    exact .background color (splitBackground?_isColorText h)
  · rw [readMark_paint]
    exact .none

end LabelParts

/-! ## 2. Elements -/

/-- An element as it has just been read. -/
inductive Element.Fresh : Grammar → Direction → Element → Prop where
  | start (d : Direction) : Fresh .activity d (.node (.start startLabel))
  | stop (d : Direction) : Fresh .activity d (.node (.stop endLabel))
  | activity (d : Direction) (label : Text) (paint : Paint) (h : paint.Spelled) :
      Fresh .activity d (.node (.activity label paint))
  | decision (d : Direction) (label : Text) : Fresh .activity d (.node (.decision label))
  | bar (d : Direction) (label : Text) : Fresh .activity d (.node (.bar label 0))
  | note (g : Grammar) (d : Direction) (label : Text) (paint : Paint) (h : paint.Spelled) :
      Fresh g d (.node (.note label paint))
  | classBox (d : Direction) (label : Text) (paint : Paint) (h : paint.Spelled) :
      Fresh .classes d (.node (.classBox label paint))
  | arrow (d : Direction) (label : Option Text) (directed : Bool) :
      Fresh .activity d (.edge (.arrow label directed d) none)
  | connection (d : Direction) (left right : Connector) (dashed : Bool) :
      Fresh .classes d (.edge (.connection left right dashed) none)
  | inheritance (d : Direction) : Fresh .classes d (.edge (.inheritance []) none)

/-- Whether an element belongs to a grammar. -/
def Element.belongsTo : Element → Grammar → Bool
  | .node (.note _ _), _ => true
  | .node (.classBox _ _), g => g == .classes
  | .node _, g => g == .activity
  | .edge (.arrow _ _ _) _, g => g == .activity
  | .edge _ _, g => g == .classes

theorem Element.Fresh.belongsTo {g : Grammar} {d : Direction} {e : Element} (h : e.Fresh g d) :
    e.belongsTo g = true := by
  cases h <;> rfl

theorem ofRound_fresh (d : Direction) (inner : Text) :
    (Element.node (Node.ofRound inner)).Fresh .activity d := by
  have hp := LabelParts.ofText_spelled inner true
  unfold Node.ofRound
  dsimp only
  split
  · exact .note _ d _ _ hp
  · split
    · exact .start d
    · split
      · exact .stop d
      · exact .activity d _ _ hp

theorem ofActivityText_fresh {t : Text} {d : Direction} {e : Element}
    (h : Element.ofActivityText t d = .ok e) : e.Fresh .activity d := by
  unfold Element.ofActivityText at h
  split at h
  · cases h
    exact ofRound_fresh d _
  · split at h
    · cases h
      exact .decision d _
    · split at h
      · cases h
        exact .bar d _
      · split at h
        · cases h
          exact .arrow d _ true
        · split at h
          · cases h
            exact .arrow d none false
          · cases h

theorem ofSquare_fresh (d : Direction) (inner : Text) :
    (Element.node (Node.ofSquare inner)).Fresh .classes d := by
  have hp := LabelParts.ofText_spelled inner true
  unfold Node.ofSquare
  dsimp only
  split
  · exact .note _ d _ _ hp
  · exact .classBox d _ _ hp

theorem ofClassText_fresh {t : Text} (d : Direction) {e : Element}
    (h : Element.ofClassText t = .ok e) : e.Fresh .classes d := by
  unfold Element.ofClassText at h
  split at h
  · cases h
    exact ofSquare_fresh d _
  · split at h
    · cases h
      exact .inheritance d
    · split at h
      · dsimp only at h
        split at h
        · cases h
          exact .connection d _ _ _
        · cases h
      · cases h

theorem ofText_fresh {g : Grammar} {d : Direction} {t : Text} {e : Element}
    (h : Element.ofText g d t = .ok e) : e.Fresh g d := by
  cases g with
  | activity => exact ofActivityText_fresh h
  | classes => exact ofClassText_fresh d h

theorem ofLine_fresh {g : Grammar} {d : Direction} {line : Text} {elements : List Element}
    (h : Element.ofLine line g d = .ok elements) : ∀ e ∈ elements, e.Fresh g d := by
  obtain ⟨tokens, -, h⟩ := bind_eq_ok_iff.mp h
  exact forall_of_mapM_eq_ok h fun _ _ _ he => ofText_fresh he

/-- **Whatever is read from lines is fresh.** -/
theorem ofLines_fresh {g : Grammar} {d : Direction} {lines : List Text} {elements : List Element}
    (h : Element.ofLines lines g d = .ok elements) : ∀ e ∈ elements, e.Fresh g d := by
  obtain ⟨rows, hrows, rfl⟩ := map_eq_ok_iff.mp h
  have hall := forall_of_mapM_eq_ok hrows fun _ _ _ hr => ofLine_fresh hr
  intro e he
  obtain ⟨row, hrow, he⟩ := List.mem_flatten.mp he
  exact hall row hrow e he

end Yuml
