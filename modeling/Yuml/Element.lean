import Yuml.Label
import Yuml.Label.Paint
import Yuml.Options

/-!
# Elements: what an expression line is made of

A line is a row of NODES, each of which declares or mentions a node of the chart, and EDGES, each of
which connects its two neighbours. Both grammars share the notes. An edge that has been resolved
carries a `Relation`: the numbers of the nodes it connects, the port it enters, and how it is drawn.
-/

namespace Yuml

/-! ## 1. Nodes -/

/-- A node as it is written. -/
inductive Node where
  /-- Where an activity begins. -/
  | start (label : Text)
  /-- Where an activity ends. -/
  | stop (label : Text)
  /-- A step of an activity. -/
  | activity (label : Text) (paint : Paint)
  /-- A branch of an activity. -/
  | decision (label : Text)
  /-- A bar at which activities fork and join; `fanin` edges enter it so far. -/
  | bar (label : Text) (fanin : Int)
  /-- A note, in either grammar. -/
  | note (label : Text) (paint : Paint)
  /-- A class with its fields. -/
  | classBox (label : Text) (paint : Paint)
  deriving DecidableEq, Repr

namespace Node

/-- The label of a node. -/
def label : Node → Text
  | .start l | .stop l | .activity l _ | .decision l | .bar l _ | .note l _ | .classBox l _ => l

/-- Whether the node is a note. -/
def isNote : Node → Bool
  | .note _ _ => true
  | _ => false

/-- Whether the node is a bar. -/
def isBar : Node → Bool
  | .bar _ _ => true
  | _ => false

/-- The name of a kind of node. -/
def kindName : Node → String
  | .start _ => "StartTag"
  | .stop _ => "EndTag"
  | .activity _ _ => "ActivityBox"
  | .decision _ => "Decision"
  | .bar _ _ => "ParallelBar"
  | .note _ _ => "Note"
  | .classBox _ _ => "ClassBox"

end Node

/-- The tag at which an activity begins, as the grammar writes it. -/
def startLabel : Text := "start".toList

/-- The tag at which an activity ends, as the grammar writes it. -/
def endLabel : Text := "end".toList

/-! ## 2. Edges -/

/-- How the drawing program ends an edge. -/
inductive ArrowHead where
  | none
  | vee
  | odiamond
  | diamond
  | empty
  deriving DecidableEq, Repr

namespace ArrowHead

/-- The name of an arrow head. -/
def name : ArrowHead → Text
  | .none => "none".toList
  | .vee => "vee".toList
  | .odiamond => "odiamond".toList
  | .diamond => "diamond".toList
  | .empty => "empty".toList

/-- The arrow head of a name. -/
def ofName? (s : Text) : Option ArrowHead :=
  [none, vee, odiamond, diamond, empty].find? (·.name == s)

end ArrowHead

/-- What decorates one end of a class connection. -/
inductive ConnectorKind where
  | directional
  | aggregation
  | composition
  | dependency
  | none
  deriving DecidableEq, Repr

namespace ConnectorKind

/-- The name of a decoration. -/
def name : ConnectorKind → Text
  | .directional => "directional".toList
  | .aggregation => "aggregation".toList
  | .composition => "composition".toList
  | .dependency => "dependency".toList
  | .none => "none".toList

/-- The decoration of a name. -/
def ofName? (s : Text) : Option ConnectorKind :=
  [directional, aggregation, composition, dependency, none].find? (·.name == s)

/-- The arrow head that draws a decoration. -/
def arrow : ConnectorKind → Option ArrowHead
  | .directional => some .vee
  | .aggregation => some .odiamond
  | .composition => some .diamond
  | .dependency => some .empty
  | .none => Option.none

end ConnectorKind

/-- One end of a class connection: its decoration and its label. -/
structure Connector where
  kind : ConnectorKind
  label : Text
  deriving DecidableEq, Repr

/-- An edge as it is written. -/
inductive Edge where
  /-- The flow of an activity. -/
  | arrow (label : Option Text) (directed : Bool) (direction : Direction)
  /-- An association between two classes. -/
  | connection (left right : Connector) (dashed : Bool)
  /-- Inheritance between two classes. -/
  | inheritance (label : Text)
  deriving DecidableEq, Repr

namespace Edge

/-- Whether the edge is written as a dashed one. -/
def isDashed : Edge → Bool
  | .connection _ _ dashed => dashed
  | _ => false

/-- The label by which an edge is looked up among the nodes. A connection has none of its own. -/
def label : Edge → Option Text
  | .arrow l _ _ => l
  | .connection _ _ _ => some []
  | .inheritance l => some l

end Edge

/-- What an edge connects and how it is drawn. -/
structure Relation where
  source : Int
  target : Int
  port : Option Int
  dashed : Bool
  touchesNote : Bool
  deriving DecidableEq, Repr

/-! ## 3. Elements -/

/-- A node, or an edge with the relation it carries. -/
inductive Element where
  | node (n : Node)
  | edge (e : Edge) (relation : Option Relation)
  deriving DecidableEq, Repr

namespace Element

/-- Whether the element is an edge. -/
def isEdge : Element → Bool
  | .node _ => false
  | .edge _ _ => true

/-- Whether the element is a note. -/
def isNote : Element → Bool
  | .node n => n.isNote
  | .edge _ _ => false

/-- Whether the element is an edge that is written as a dashed one. -/
def isDashed : Element → Bool
  | .node _ => false
  | .edge e _ => e.isDashed

/-- The label of an element; an arrow may have none. -/
def label : Element → Option Text
  | .node n => some n.label
  | .edge e _ => e.label

/-- The key that an element is identified by. -/
def key (e : Element) : Text := Label.key (e.label.getD [])

end Element

end Yuml
