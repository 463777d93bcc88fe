import Yuml.Diagram

/-!
# Sessions: compiling by hand, step by step

A session does what compiling a document does, one step at a time and in any order, and may repeat
any of them: read a line, make the table, resolve the edges, make the statements, write the chart.
Each step works on what the steps before have left; the ledger lives as long as the session, so bars
go on counting when edges are resolved again. A step that fails leaves the session as it was.
-/

namespace Yuml

/-- What the steps of a session have left so far. -/
structure Session where
  grammar : Grammar
  direction : Direction
  elements : List Placed
  table : IdentityTable
  edges : List (Placed × Relation)
  ledger : Ledger
  statements : List Statement
  deriving DecidableEq, Repr

namespace Session

/-- A session before its first step. -/
def start (grammar : Grammar) (direction : Direction) : Session :=
  ⟨grammar, direction, [], [], [], Ledger.empty, []⟩

/-- Read a line: its elements are added to those of the session. -/
def addLine (s : Session) (line : Text) : Except Fault (List Element × Session) :=
  (Element.ofLine line s.grammar s.direction).map fun elements =>
    (elements, { s with elements := s.elements ++ Placed.row s.elements.length elements })

/-- What is reported when a line is read. -/
def lineEvents (s : Session) (line : Text) : List Event :=
  Element.lineEvents s.grammar s.direction [line]

/-- Make the table of the elements read so far. -/
def identify (s : Session) : Session := { s with table := IdentityTable.ofElements s.elements }

/-- What is reported when the table is made. -/
def identifyEvents (s : Session) : List Event := IdentityTable.events s.elements

/-- Resolve the edges read so far against the table. -/
def relate (s : Session) : Resolution × Session :=
  let r := resolve s.elements s.table s.ledger
  (r, { s with edges := r.edges, ledger := r.ledger })

/-- Make the statements of the table and the edges resolved last. -/
def draw (s : Session) : Except Fault Session :=
  (Statement.ofChart s.grammar s.direction s.table s.ledger s.edges).map fun statements =>
    { s with statements := statements }

/-- The chart of the statements made last. -/
def render (s : Session) (dark : Bool) : Text := renderChart s.grammar s.direction s.statements dark

end Session

end Yuml
