import Yuml.Directive
import Yuml.Drawing
import Yuml.Element.Reading
import Yuml.Text.Lines

/-!
# Diagrams: from a document to a chart

A document is a header of comments and a body of expression lines, in any order. It compiles in this
order: the directives of all comments, then the whole body, then the identities of its nodes, the
relations of its edges and the statements that draw both. A document without a body, or of a type
that has no grammar, compiles to nothing.
-/

namespace Yuml

/-! ## 1. Header and body -/

/-- The lines of a document, trimmed. -/
def documentLines (text : Text) : List Text := (Text.splitLines text).map Text.trim

/-- The lines of a document that are neither blank nor comments. -/
def bodyLines (text : Text) : List Text :=
  (documentLines text).filter fun line => !line.isEmpty && !Directive.isComment line

/-- The options that the header of a document sets. -/
def documentOptions (text : Text) (dark : Bool) : Except Fault Options :=
  Options.ofLines (documentLines text) dark

/-! ## 2. Charts -/

/-- What a document draws: its elements, the nodes and the edges among them, and the statements. -/
structure Chart where
  grammar : Grammar
  elements : List Placed
  table : IdentityTable
  resolution : Resolution
  statements : List Statement
  deriving DecidableEq, Repr

/-- The chart of a row of elements. -/
def Chart.ofElements (grammar : Grammar) (direction : Direction) (elements : List Element) :
    Except Fault Chart := do
  let row := Placed.row 0 elements
  let table := IdentityTable.ofElements row
  let resolution := resolve row table Ledger.empty
  let statements ← Statement.ofChart grammar direction table resolution.ledger resolution.edges
  return ⟨grammar, row, table, resolution, statements⟩

/-- What is reported while a chart is made. -/
def Chart.events (c : Chart) : List Event :=
  IdentityTable.events c.elements ++ c.resolution.events ++
    [.documentCompiled c.grammar c.elements.length c.table.length c.resolution.edges.length
      c.resolution.dropped]

/-! ## 3. Documents -/

/-- A document that has compiled; it may draw nothing. -/
structure Diagram where
  options : Options
  chart : Option Chart
  deriving DecidableEq, Repr

namespace Diagram

/-- The statements of a document. -/
def statements (d : Diagram) : List Statement := (d.chart.map (·.statements)).getD []

/-- The statements that draw nodes. -/
def nodes (d : Diagram) : List Statement := d.statements.filter fun s => !s.isEdge

/-- The statements that draw edges. -/
def edges (d : Diagram) : List Statement := d.statements.filter (·.isEdge)

/-- How many edges are not drawn. -/
def dropped (d : Diagram) : Nat := (d.chart.map (·.resolution.dropped)).getD 0

/-- The chart as the drawing program reads it; nothing where nothing is drawn. -/
def render (d : Diagram) : Text :=
  match d.chart with
  | none => []
  | some c => renderChart c.grammar d.options.direction c.statements d.options.dark

/-- The diagram after it has been rendered once. -/
def settled (d : Diagram) : Diagram :=
  { d with chart := d.chart.map fun c =>
      { c with statements := c.statements.map Statement.settled } }

/-- Compile a document. -/
def compile (text : Text) (dark : Bool) : Except Fault Diagram := do
  let options ← documentOptions text dark
  if (bodyLines text).isEmpty then return ⟨options, none⟩
  match options.chartType with
  | none => throw .missingType
  | some type =>
    match type.grammar? with
    | none => return ⟨options, none⟩
    | some grammar =>
      let elements ← Element.ofLines (bodyLines text) grammar options.direction
      let chart ← Chart.ofElements grammar options.direction elements
      return ⟨options, some chart⟩

/-- What is reported while the body of a document with some options is compiled. -/
def bodyEvents (body : List Text) (options : Options) : List Event :=
  if body.isEmpty then [.documentEmpty]
  else match options.chartType with
    | none => []
    | some type =>
      match type.grammar? with
      | none => [.unsupportedChartType type]
      | some grammar =>
        Element.lineEvents grammar options.direction body ++
          match (Element.ofLines body grammar options.direction).bind
              (Chart.ofElements grammar options.direction) with
          | .ok chart => chart.events
          | .error _ => []

/-- What is reported while a document is compiled, up to the first fault. -/
def compileEvents (text : Text) (dark : Bool) : List Event :=
  Directive.eventsOf (Directive.ofLines (documentLines text)) (Options.default dark) ++
    match documentOptions text dark with
    | .ok options => bodyEvents (bodyLines text) options
    | .error _ => []

end Diagram

/-- The chart of a document as the drawing program reads it. -/
def compileText (text : Text) (dark : Bool) : Except Fault Text :=
  (Diagram.compile text dark).map Diagram.render

end Yuml
