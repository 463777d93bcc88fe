import Yuml.Element
import Yuml.Number.Binary64

/-!
# Attribute lists

A node or an edge of the chart is written with a list of attributes. Four are always written (shape,
label, style and the two arrow ends), the others only where they are set; the order is fixed. A text
value stands in double quotes; a quote inside it that has no backslash in front gets one.

A RECORD is written in one of three ways (`render`): with ports only it stays a record, with several
fields it becomes a table, and with a single field it becomes a plain rectangle, for good
(`settled`).
-/

namespace Yuml

/-! ## 1. Attributes -/

/-- The shapes of nodes, and the one that stands for an edge. -/
inductive Shape where
  | note
  | record
  | rectangle
  | circle
  | doubleCircle
  | diamond
  | edge
  deriving DecidableEq, Repr

namespace Shape

/-- The name of a shape. -/
def name : Shape → Text
  | .note => "note".toList
  | .record => "record".toList
  | .rectangle => "rectangle".toList
  | .circle => "circle".toList
  | .doubleCircle => "doublecircle".toList
  | .diamond => "diamond".toList
  | .edge => "edge".toList

/-- The shape of a name. -/
def ofName? (s : Text) : Option Shape :=
  [note, record, rectangle, circle, doubleCircle, diamond, edge].find? (·.name == s)

end Shape

/-- The styles of nodes and edges. -/
inductive Style where
  | invisible
  | rounded
  | filled
  | solid
  | dashed
  deriving DecidableEq, Repr

namespace Style

/-- The name of a style. -/
def name : Style → Text
  | .invisible => "invis".toList
  | .rounded => "rounded".toList
  | .filled => "filled".toList
  | .solid => "solid".toList
  | .dashed => "dashed".toList

/-- The style of a name. -/
def ofName? (s : Text) : Option Style :=
  [invisible, rounded, filled, solid, dashed].find? (·.name == s)

end Style

/-- The attributes of a node or an edge. -/
structure Attributes where
  shape : Shape
  label : Option Text := none
  style : List Style := []
  margin : Option Text := none
  fillcolor : Option Text := none
  fontcolor : Option Text := none
  dir : Option Text := none
  arrowtail : Option ArrowHead := none
  arrowhead : Option ArrowHead := none
  taillabel : Option Text := none
  headlabel : Option Text := none
  labeldistance : Option Int := none
  height : Option Binary64 := none
  width : Option Binary64 := none
  fontsize : Option Int := none
  penwidth : Option Int := none
  deriving DecidableEq, Repr

/-! ## 2. The plain list -/

namespace Attributes

/-- A text value with a backslash in front of every quote that has none. `guarded` says that the
    character before was a backslash. -/
def quoteFrom : Bool → Text → Text
  | _, [] => []
  | guarded, c :: r =>
    (if c = '"' && !guarded then ['\\', c] else [c]) ++ quoteFrom (c == '\\') r

/-- A text value as it stands between its quotes. -/
def quoteValue (value : Text) : Text := quoteFrom false value

/-- What stands behind every attribute. -/
def separator : Text := " , ".toList

/-- An attribute with a text value. -/
def textItem (name : String) (value : Text) : Text :=
  name.toList ++ '=' :: '"' :: (quoteValue value ++ '"' :: separator)

/-- An attribute with a number. -/
def numberItem (name : String) (value : Text) : Text :=
  name.toList ++ '=' :: (value ++ separator)

/-- An attribute with a text value, if it is set. -/
def textItem? (name : String) (value : Option Text) : Text :=
  (value.map (textItem name)).getD []

/-- An attribute with a whole number, if it is set. -/
def intItem? (name : String) (value : Option Int) : Text :=
  (value.map fun n => numberItem name (Text.ofInt n)).getD []

/-- An attribute with a binary number, if it is set. -/
def floatItem? (name : String) (value : Option Binary64) : Text :=
  (value.map fun x => numberItem name x.general).getD []

/-- The label; none counts as an empty one. -/
def labelText (a : Attributes) : Text := a.label.getD []

/-- The list of attributes as it stands between the brackets. -/
def items (a : Attributes) : Text :=
  textItem "shape" a.shape.name ++
  textItem? "margin" a.margin ++
  textItem "label" a.labelText ++
  textItem "style" (Text.joinWith [','] (a.style.map Style.name)) ++
  textItem? "fillcolor" a.fillcolor ++
  textItem? "fontcolor" a.fontcolor ++
  textItem? "dir" a.dir ++
  textItem "arrowtail" (a.arrowtail.getD .none).name ++
  textItem "arrowhead" (a.arrowhead.getD .none).name ++
  textItem? "taillabel" a.taillabel ++
  textItem? "headlabel" a.headlabel ++
  intItem? "labeldistance" a.labeldistance ++
  floatItem? "height" a.height ++
  floatItem? "width" a.width ++
  intItem? "fontsize" a.fontsize ++
  intItem? "penwidth" a.penwidth

/-- The plain list of attributes. -/
def plain (a : Attributes) : Text := '[' :: (a.items ++ [']'])

/-! ## 3. Records -/

/-- Whether the field of a record is a port: angle brackets around at least one character, none of
    them an angle bracket. -/
def isPortField : Text → Bool
  | '<' :: r =>
    r.getLast? == some '>' && 2 ≤ r.length && r.dropLast.all fun c => c != '<' && c != '>'
  | _ => false

/-- Whether the label is made of ports only. One line feed may stand behind the last. -/
def isPortLabel (label : Text) : Bool :=
  (Text.splitAt '|' (Text.beforeFinalNewline label)).all isPortField

/-- A colour of a table, if it is set to something. -/
def tableColor (name : String) (color : Option Text) : Text :=
  match color with
  | none | some [] => []
  | some c => name.toList ++ '=' :: '"' :: (c ++ "\" ".toList)

/-- A row of a table: one field of the label. -/
def tableRow (field : Text) : Text :=
  "<TR><TD>".toList ++ Label.escapeCell (Label.unescape field) ++ "</TD></TR>".toList

/-- The record as a table with one row for every field of its label. -/
def table (a : Attributes) : Text :=
  "[fontsize=10,label=<".toList ++
  "<TABLE BORDER=\"0\" CELLBORDER=\"1\" CELLSPACING=\"0\" CELLPADDING=\"9\" ".toList ++
  tableColor "BGCOLOR" a.fillcolor ++ tableColor "COLOR" a.fontcolor ++ ['>'] ++
  (Text.splitAt '|' a.labelText).flatMap tableRow ++
  "</TABLE>>]".toList

/-- Whether the list is a record with a single field that is no port: it cannot stay a record. -/
def isLoneRecord (a : Attributes) : Bool :=
  a.shape == .record && !isPortLabel a.labelText && !a.labelText.contains '|'

/-- The attributes after they have been written once: a record with a single field has become a
    rectangle. -/
def settled (a : Attributes) : Attributes :=
  if a.isLoneRecord then { a with shape := .rectangle } else a

/-- The list as it is written. -/
def render (a : Attributes) : Text :=
  if a.shape == .record && !isPortLabel a.labelText && a.labelText.contains '|' then a.table
  else a.settled.plain

end Attributes

end Yuml
