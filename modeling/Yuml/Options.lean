import Yuml.Token

/-!
# Options of a document

What the header of a document decides: which chart it draws, in which direction, whether a picture
is to be generated, and the theme. Each value has the name it is written with in the header
(`name`) and is found again by that name (`ofName?`).
-/

namespace Yuml

/-! ## 1. Direction -/

/-- The direction in which a chart grows. -/
inductive Direction where
  | topDown
  | leftToRight
  | rightToLeft
  deriving DecidableEq, Repr, Inhabited

namespace Direction

/-- The name of a direction in a header. -/
def name : Direction → Text
  | .topDown => "topDown".toList
  | .leftToRight => "leftToRight".toList
  | .rightToLeft => "rightToLeft".toList

/-- The direction of a name. -/
def ofName? (s : Text) : Option Direction :=
  [topDown, leftToRight, rightToLeft].find? (·.name == s)

/-- How the drawing program names the direction. -/
def rankdir : Direction → Text
  | .topDown => "TB".toList
  | .leftToRight => "LR".toList
  | .rightToLeft => "RL".toList

/-- The compass point at which edges enter a bar. -/
def headPort : Direction → Text
  | .topDown => "n".toList
  | .leftToRight => "w".toList
  | .rightToLeft => "e".toList

/-- Whether the chart grows downwards. -/
def isVertical : Direction → Bool
  | .topDown => true
  | _ => false

end Direction

/-! ## 2. Grammar -/

/-- The two grammars of expression lines. -/
inductive Grammar where
  | activity
  | classes
  deriving DecidableEq, Repr, Inhabited

namespace Grammar

/-- The name of a grammar. -/
def name : Grammar → Text
  | .activity => "activity".toList
  | .classes => "class".toList

/-- The grammar of a name. -/
def ofName? (s : Text) : Option Grammar := [activity, classes].find? (·.name == s)

/-- The brackets that enclose the nodes of a grammar. -/
def brackets : Grammar → List Bracket
  | .activity => [.paren, .angle, .pipe]
  | .classes => [.square]

/-- The characters that open a bracket of a grammar. -/
def openers (g : Grammar) : List Char := g.brackets.map Bracket.opener

end Grammar

/-! ## 3. Chart type -/

/-- The types of chart that a header may ask for. -/
inductive ChartType where
  | classes
  | usecase
  | activity
  | state
  | deployment
  | package
  | sequence
  deriving DecidableEq, Repr

namespace ChartType

/-- Every type of chart. -/
def all : List ChartType := [classes, usecase, activity, state, deployment, package, sequence]

/-- The name of a type in a header. -/
def name : ChartType → Text
  | .classes => "class".toList
  | .usecase => "usecase".toList
  | .activity => "activity".toList
  | .state => "state".toList
  | .deployment => "deployment".toList
  | .package => "package".toList
  | .sequence => "sequence".toList

/-- The type of a name. -/
def ofName? (s : Text) : Option ChartType := all.find? (·.name == s)

/-- The grammar of a type; most types have none and are not drawn. -/
def grammar? : ChartType → Option Grammar
  | .activity => some .activity
  | .classes => some .classes
  | _ => none

end ChartType

/-! ## 4. Options -/

/-- What the header of a document and the caller decide. -/
structure Options where
  chartType : Option ChartType
  direction : Direction
  generate : Bool
  dark : Bool
  deriving DecidableEq, Repr

/-- The options of a document without a header. -/
def Options.default (dark : Bool) : Options := ⟨none, .topDown, false, dark⟩

end Yuml
