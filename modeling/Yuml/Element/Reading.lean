import Yuml.Element
import Yuml.Event
import Yuml.Fault

/-!
# Reading elements from the tokens of a line

Each grammar says which element a token stands for; a token that stands for none is a fault. The
kind of a token does not matter here, only its text: an opener that was never closed shows in the
text, which then does not end with the closer.

* In the activity grammar `(…)` is a box, a note or one of the two tags, `<…>` a decision, `|…|` a
  bar, `…->` a directed arrow with a label at will, and `-` an arrow without a direction.
* In the class grammar `[…]` is a class or a note, `^` inheritance, and a text with one `-` or one
  `-.-` in it a connection; each side of it may carry a decoration and a label.

A comma between two expressions is passed over.
-/

namespace Yuml

/-! ## 1. Activities -/

/-- The node that the text between round brackets stands for. -/
def Node.ofRound (inner : Text) : Node :=
  let parts := LabelParts.ofText inner true
  if parts.isNote then .note parts.text parts.paint
  else if parts.text = startLabel then .start startLabel
  else if parts.text = endLabel then .stop endLabel
  else .activity parts.text parts.paint

/-- What a directed arrow ends in. -/
def arrowMark : Text := "->".toList

/-- The text before the arrow mark at the end, if it ends in one. -/
def beforeArrow? (text : Text) : Option Text :=
  let s := Text.beforeFinalNewline text
  if Text.endsWith arrowMark s then some (s.take (s.length - arrowMark.length)) else none

/-- A label that is there only if it is not empty. -/
def someIfNonempty (s : Text) : Option Text := if s.isEmpty then none else some s

/-- The element of the activity grammar that a text stands for. -/
def Element.ofActivityText (text : Text) (direction : Direction) : Except Fault Element :=
  if Text.isEnclosed '(' ')' text then .ok (.node (Node.ofRound (Text.inside text)))
  else if Text.isEnclosed '<' '>' text then
    .ok (.node (.decision (Text.trim (Text.inside text))))
  else if Text.isEnclosed '|' '|' text then .ok (.node (.bar (Text.trim (Text.inside text)) 0))
  else match beforeArrow? text with
    | some label =>
      .ok (.edge (.arrow (someIfNonempty (Text.trim label)) true direction) none)
    | none =>
      if text = ['-'] then .ok (.edge (.arrow none false direction) none)
      else .error (.expression text invalidExpression)

/-! ## 2. Connectors -/

/-- The decorations as they are written, in the order in which they are tried: a longer one before
    any that it contains. -/
def Connector.markers : List (Text × ConnectorKind) :=
  [("<>".toList, .aggregation), ("++".toList, .composition), ("+".toList, .aggregation),
   ("<".toList, .directional), (">".toList, .directional), ("^".toList, .dependency)]

/-- The connector whose decoration is in front of its label. -/
def Connector.ofFront (side : Text) : Connector :=
  match markers.find? fun m => Text.startsWith m.1 side with
  | some (marker, kind) => ⟨kind, Text.trim (side.drop marker.length)⟩
  | none => ⟨.none, Text.trim side⟩

/-- The connector whose decoration is behind its label; without one there it may be in front. -/
def Connector.ofBack (side : Text) : Connector :=
  match markers.find? fun m => Text.endsWith m.1 side with
  | some (marker, kind) => ⟨kind, Text.trim (side.take (side.length - marker.length))⟩
  | none => ofFront side

/-- The connector that one side of a connection spells. -/
def Connector.ofSide (side : Text) (fromEnd : Bool) : Connector :=
  if fromEnd then ofBack side else ofFront side

/-! ## 3. Classes -/

/-- The node that the text between square brackets stands for. -/
def Node.ofSquare (inner : Text) : Node :=
  let parts := LabelParts.ofText inner true
  if parts.isNote then .note parts.text parts.paint else .classBox parts.text parts.paint

/-- The line of a dashed connection. -/
def dashedLine : Text := "-.-".toList

/-- The element of the class grammar that a text stands for. -/
def Element.ofClassText (text : Text) : Except Fault Element :=
  if Text.isEnclosed '[' ']' text then .ok (.node (Node.ofSquare (Text.inside text)))
  else if text = ['^'] then .ok (.edge (.inheritance []) none)
  else if '-' ∈ text then
    let dashed := Text.occursIn dashedLine text
    match if dashed then Text.splitOnText dashedLine text else Text.splitAt '-' text with
    | [left, right] =>
      .ok (.edge (.connection (Connector.ofFront left) (Connector.ofBack right) dashed) none)
    | _ => .error (.expression text notOneConnector)
  else .error (.expression text invalidExpression)

/-! ## 4. Lines -/

/-- The element of a grammar that a text stands for. -/
def Element.ofText (grammar : Grammar) (direction : Direction) (text : Text) :
    Except Fault Element :=
  match grammar with
  | .activity => ofActivityText text direction
  | .classes => ofClassText text

/-- What stands between two expressions of a line. -/
def separator : Text := [',']

/-- The tokens of a line in a grammar, without the commas between expressions. -/
def lineTokens (line : Text) (grammar : Grammar) : Except Fault (List Token) :=
  match tokenize line grammar.openers defaultEscape with
  | .error opener => .error (.noCloser opener)
  | .ok tokens => .ok (tokens.filter fun t => t.text != separator)

/-- The elements of an expression line. -/
def Element.ofLine (line : Text) (grammar : Grammar) (direction : Direction) :
    Except Fault (List Element) := do
  (← lineTokens line grammar).mapM fun t => ofText grammar direction t.text

/-- The elements of all lines, in order. -/
def Element.ofLines (lines : List Text) (grammar : Grammar) (direction : Direction) :
    Except Fault (List Element) :=
  (lines.mapM fun line => ofLine line grammar direction).map List.flatten

/-- What is reported when lines are read: each line with its count of elements, up to the first
    that is refused. -/
def Element.lineEvents (grammar : Grammar) (direction : Direction) : List Text → List Event
  | [] => []
  | line :: lines =>
    match ofLine line grammar direction with
    | .error _ => []
    | .ok elements =>
      .lineParsed grammar elements.length :: lineEvents grammar direction lines

end Yuml
