import Yuml.Attributes
import Yuml.Fault
import Yuml.Relation

/-!
# Drawings: the statements of a chart

A chart is written as a row of STATEMENTS, one for every node and then one for every edge. This file
says with which attributes each kind of node and edge is drawn, how a statement is written, and what
stands around the statements of a whole chart.
-/

namespace Yuml

/-! ## 1. Nodes -/

/-- The margin of a node whose label is shown. -/
def boxMargin : Text := "0.20,0.05".toList

/-- The margin of a node without a label. -/
def tightMargin : Text := "0,0".toList

/-- Three tenths: the size of a tag. -/
def tagSize : Binary64 := .ofDecimal false 3 (-1)

/-- A half: the size of a box, a decision and the long side of a bar. -/
def boxSize : Binary64 := .ofDecimal false 5 (-1)

/-- A twentieth: the short side of a bar. -/
def barThickness : Binary64 := .ofDecimal false 5 (-2)

/-- The colours of a node added to its attributes; an empty colour counts as none. -/
def Attributes.painted (a : Attributes) (paint : Paint) : Attributes :=
  let a := match paint.background with
    | none | some [] => a
    | some c => { a with style := a.style ++ [.filled], fillcolor := some c }
  match paint.fontColor with
  | none | some [] => a
  | some c => { a with fontcolor := some c }

@[simp] theorem Attributes.painted_shape (a : Attributes) (p : Paint) :
    (a.painted p).shape = a.shape := by
  unfold Attributes.painted
  split <;> split <;> rfl

@[simp] theorem Attributes.painted_label (a : Attributes) (p : Paint) :
    (a.painted p).label = a.label := by
  unfold Attributes.painted
  split <;> split <;> rfl

@[simp] theorem Attributes.painted_margin (a : Attributes) (p : Paint) :
    (a.painted p).margin = a.margin := by
  unfold Attributes.painted
  split <;> split <;> rfl

@[simp] theorem Attributes.painted_dir (a : Attributes) (p : Paint) : (a.painted p).dir = a.dir := by
  unfold Attributes.painted
  split <;> split <;> rfl

/-- The label of a bar with some edges entering it: one port for each. -/
def portLabel (fanin : Int) : Text :=
  Text.joinWith ['|'] ((List.range fanin.toNat).map fun n =>
    "<f".toList ++ Text.ofNat (n + 1) ++ ['>'])

/-- The attributes of a bar; it lies across the direction of the chart. -/
def barAttributes (fanin : Int) (direction : Direction) : Attributes :=
  { shape := .record, margin := some tightMargin, label := some (portLabel fanin),
    style := [.filled],
    height := some (if direction.isVertical then barThickness else boxSize),
    width := some (if direction.isVertical then boxSize else barThickness),
    fontsize := some 1, penwidth := some 4 }

/-- The attributes of a box or a note in an activity. -/
def stepAttributes (shape : Shape) (label : Text) (paint : Paint) : Attributes :=
  Attributes.painted
    { shape := shape, margin := some boxMargin, label := some (Label.escape label),
      style := [.rounded], height := some boxSize, fontsize := some 10 } paint

/-- The attributes of a class or a note among classes. -/
def classAttributes (shape : Shape) (label : Text) (paint : Paint) : Attributes :=
  Attributes.painted
    { shape := shape, margin := some boxMargin,
      label := some (Label.format Label.boxWidth true label),
      height := some boxSize, fontsize := some 10 } paint

/-- The attributes of a node of an activity. -/
def Node.activityAttributes (n : Node) (direction : Direction) : Except Fault Attributes :=
  match n with
  | .start _ =>
    .ok { shape := .circle, margin := some tightMargin, height := some tagSize,
          width := some tagSize }
  | .stop _ =>
    .ok { shape := .doubleCircle, margin := some tightMargin, height := some tagSize,
          width := some tagSize }
  | .decision _ =>
    .ok { shape := .diamond, margin := some tightMargin, height := some boxSize,
          width := some boxSize, fontsize := some 0 }
  | .bar _ fanin => .ok (barAttributes fanin direction)
  | .activity label paint => .ok (stepAttributes .record label paint)
  | .note label paint => .ok (stepAttributes .note label paint)
  | .classBox _ _ => .error (.notANode .activity n.kindName)

/-- The attributes of a node among classes. -/
def Node.classAttributes (n : Node) : Except Fault Attributes :=
  match n with
  | .classBox label paint => .ok (Yuml.classAttributes .record label paint)
  | .note label paint => .ok (Yuml.classAttributes .note label paint)
  | n => .error (.notANode .classes n.kindName)

/-- The name of a kind of edge. -/
def Edge.kindName : Edge → String
  | .arrow _ _ _ => "Arrow"
  | .connection _ _ _ => "Connection"
  | .inheritance _ => "Inheritance"

/-- The attributes of an element as a node of a chart. -/
def Element.nodeAttributes (e : Element) (grammar : Grammar) (direction : Direction) :
    Except Fault Attributes :=
  match e, grammar with
  | .node n, .activity => n.activityAttributes direction
  | .node n, .classes => n.classAttributes
  | .edge e _, grammar => .error (.notANode grammar e.kindName)

/-! ## 2. Edges -/

/-- The attributes of an edge. -/
def Edge.attributes (e : Edge) (relation : Relation) : Attributes :=
  let style := [if relation.dashed then Style.dashed else Style.solid]
  match e with
  | .arrow label directed _ =>
    { shape := .edge, label := label, style := style, dir := some "both".toList,
      arrowhead := if directed then some .vee else none,
      labeldistance := some 1, fontsize := some 10 }
  | .connection left right _ =>
    { shape := .edge, style := style, dir := some "both".toList,
      arrowtail := left.kind.arrow, arrowhead := right.kind.arrow,
      taillabel := some left.label, headlabel := some right.label,
      labeldistance := some 2, fontsize := some 10 }
  | .inheritance _ =>
    { shape := .edge, style := style, dir := some "both".toList, arrowtail := some .empty,
      labeldistance := some 2, fontsize := some 10 }

/-- The attributes of an element as an edge of a chart. -/
def Element.edgeAttributes (e : Element) (relation : Relation) : Except Fault Attributes :=
  match e with
  | .edge e _ => .ok (e.attributes relation)
  | .node n => .error (.notAnEdge n.kindName)

/-- The direction that decides where an edge enters a bar: an arrow has one of its own. -/
def Element.entryDirection (e : Element) (direction : Direction) : Direction :=
  match e with
  | .edge (.arrow _ _ own) _ => own
  | _ => direction

/-- Where an edge ends: the name of the node, with port and compass point where it enters a bar. -/
def Element.target (e : Element) (relation : Relation) (direction : Direction) : Text :=
  match relation.port with
  | none => nodeName relation.target
  | some port =>
    nodeName relation.target ++ ":f".toList ++ Text.ofInt port ++
      ':' :: (e.entryDirection direction).headPort

/-! ## 3. Statements -/

/-- A node or an edge of the drawing; an edge has a target. -/
structure Statement where
  uid : Text
  attributes : Attributes
  target : Option Text
  sameRank : Bool
  deriving DecidableEq, Repr

namespace Statement

/-- Whether the statement draws an edge. -/
def isEdge (s : Statement) : Bool := s.target.isSome

/-- The statement with its attributes as they are after it has been written once. -/
def settled (s : Statement) : Statement := { s with attributes := s.attributes.settled }

/-- The line of a statement. -/
def render (s : Statement) : Text :=
  match s.target with
  | none => "    ".toList ++ s.uid ++ ' ' :: s.attributes.render
  | some target =>
    let edge := s.uid ++ " -> ".toList ++ target ++ ' ' :: s.attributes.render
    if s.sameRank then "    \x7b rank=same; ".toList ++ edge ++ ";\x7d".toList
    else "    ".toList ++ edge

/-- The statement of a node. -/
def ofIdentity (grammar : Grammar) (direction : Direction) (ledger : Ledger) (i : Identity) :
    Except Fault Statement :=
  ((ledger.current i.owner).nodeAttributes grammar direction).map fun a => ⟨i.uid, a, none, false⟩

/-- The statement of an edge. Among classes an edge that touches a note keeps both ends on one
    rank. -/
def ofEdge (grammar : Grammar) (direction : Direction) (edge : Placed × Relation) :
    Except Fault Statement :=
  (edge.1.element.edgeAttributes edge.2).map fun a =>
    ⟨nodeName edge.2.source, a, some (edge.1.element.target edge.2 direction),
     grammar == .classes && edge.2.touchesNote⟩

/-- The statements of a chart: its nodes in the order of their numbers, then its edges in order. -/
def ofChart (grammar : Grammar) (direction : Direction) (table : IdentityTable) (ledger : Ledger)
    (edges : List (Placed × Relation)) : Except Fault (List Statement) := do
  let nodes ← table.mapM (ofIdentity grammar direction ledger)
  let edges ← edges.mapM (ofEdge grammar direction)
  return nodes ++ edges

end Statement

/-! ## 4. The whole chart -/

/-- How far the ranks of a chart stand apart: a half for activities, seven tenths for classes. -/
def Grammar.ranksep : Grammar → Binary64
  | .activity => .ofDecimal false 5 (-1)
  | .classes => .ofDecimal false 7 (-1)

/-- The colours of lines and text in a theme. -/
def themeColors (dark : Bool) : Text :=
  if dark then "color=white, fontcolor=white".toList else "color=black, fontcolor=black".toList

/-- The lines in front of the statements. -/
def headerLines (grammar : Grammar) (direction : Direction) (dark : Bool) : List Text :=
  ["digraph G \x7b".toList,
   "  graph [ bgcolor=transparent, fontname=Helvetica ]".toList,
   "  node [ shape=none, margin=0, ".toList ++ themeColors dark ++ ", fontname=Helvetica ]".toList,
   "  edge [ ".toList ++ themeColors dark ++ ", fontname=Helvetica ]".toList,
   "    ranksep = ".toList ++ grammar.ranksep.general,
   "    rankdir = ".toList ++ direction.rankdir]

/-- The chart as the drawing program reads it. -/
def renderChart (grammar : Grammar) (direction : Direction) (statements : List Statement)
    (dark : Bool) : Text :=
  Text.joinWith ['\n']
    (headerLines grammar direction dark ++ statements.map Statement.render ++ ["\x7d".toList]) ++
    ['\n']

end Yuml
