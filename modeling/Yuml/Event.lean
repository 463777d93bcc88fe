import Yuml.Options
import Yuml.Number.Binary64

/-!
# Events

What happens while a document is read, drawn and rendered is reported as events. An event is a
value; the functions that report events return them in the order in which they happen.
-/

namespace Yuml

/-- How serious an event is. -/
inductive Level where
  | debug
  | info
  | warning
  | error
  | critical
  deriving DecidableEq, Repr

/-- The name of a level. -/
def Level.name : Level → Text
  | .debug => "debug".toList
  | .info => "info".toList
  | .warning => "warning".toList
  | .error => "error".toList
  | .critical => "critical".toList

/-- Why an edge is not drawn. -/
inductive DropReason where
  | adjacentEdge
  | unknownEndpoint
  deriving DecidableEq, Repr

/-- The name of a reason. -/
def DropReason.name : DropReason → Text
  | .adjacentEdge => "adjacent_edge".toList
  | .unknownEndpoint => "unknown_endpoint".toList

/-- The value of a field of an event. -/
inductive EventValue where
  | text (s : Text)
  | number (n : Int)
  deriving DecidableEq, Repr

/-- Something that happened. -/
inductive Event where
  | documentEmpty
  | unsupportedChartType (type : ChartType)
  | directiveIgnored (key value : Text)
  | lineParsed (grammar : Grammar) (elements : Nat)
  | labelReused (label : Text)
  | edgeDropped (index : Nat) (reason : DropReason)
  | documentCompiled (grammar : Grammar) (elements nodes edges dropped : Nat)
  | renderTimeout (binary : Text) (timeout : Binary64)
  | renderFailed (binary : Text) (code : Int) (stderr : Text)
  | renderComplete (format : Text) (size : Nat)
  | renderWritten (path format : Text) (size : Nat)
  | configFound (path : Text)
  | configLoaded (path : Text)
  | configLoadFailed (path : Text)
  | configUsingDefaults
  | configSaved (path : Text)
  deriving DecidableEq, Repr

namespace Event

/-- The name of an event. -/
def name : Event → Text
  | .documentEmpty => "document_empty".toList
  | .unsupportedChartType _ => "unsupported_chart_type".toList
  | .directiveIgnored _ _ => "directive_ignored".toList
  | .lineParsed _ _ => "line_parsed".toList
  | .labelReused _ => "label_reused".toList
  | .edgeDropped _ _ => "edge_dropped".toList
  | .documentCompiled _ _ _ _ _ => "document_compiled".toList
  | .renderTimeout _ _ => "render_timeout".toList
  | .renderFailed _ _ _ => "render_failed".toList
  | .renderComplete _ _ => "render_complete".toList
  | .renderWritten _ _ _ => "render_written".toList
  | .configFound _ => "config_found".toList
  | .configLoaded _ => "config_loaded".toList
  | .configLoadFailed _ => "config_load_failed".toList
  | .configUsingDefaults => "config_using_defaults".toList
  | .configSaved _ => "config_saved".toList

/-- How serious an event is. -/
def level : Event → Level
  | .unsupportedChartType _ => .warning
  | .renderTimeout _ _ | .renderFailed _ _ _ | .configLoadFailed _ => .error
  | .renderWritten _ _ _ | .configSaved _ => .info
  | _ => .debug

/-- The fields of an event, by name. -/
def fields : Event → List (String × EventValue)
  | .documentEmpty | .configUsingDefaults => []
  | .unsupportedChartType type => [("chart_type", .text type.name)]
  | .directiveIgnored key value => [("key", .text key), ("value", .text value)]
  | .lineParsed grammar elements =>
    [("grammar", .text grammar.name), ("elements", .number elements)]
  | .labelReused label => [("label", .text label)]
  | .edgeDropped index reason => [("index", .number index), ("reason", .text reason.name)]
  | .documentCompiled grammar elements nodes edges dropped =>
    [("grammar", .text grammar.name), ("elements", .number elements), ("nodes", .number nodes),
     ("edges", .number edges), ("dropped", .number dropped)]
  | .renderTimeout binary timeout => [("binary", .text binary), ("timeout", .text timeout.general)]
  | .renderFailed binary code stderr =>
    [("binary", .text binary), ("returncode", .number code), ("stderr", .text stderr)]
  | .renderComplete format size => [("format", .text format), ("size", .number size)]
  | .renderWritten path format size =>
    [("path", .text path), ("format", .text format), ("size", .number size)]
  | .configFound path | .configLoaded path | .configLoadFailed path | .configSaved path =>
    [("path", .text path)]

end Event

end Yuml
