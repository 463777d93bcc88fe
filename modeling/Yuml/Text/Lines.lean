import Yuml.Text.Basic

/-!
# Lines of a text

A text is read line by line. Eleven line ends are known: line feed, carriage return, the pair of
both (ONE line end, not two), vertical tab, form feed, the separators U+001C to U+001E, U+0085,
U+2028 and U+2029. A line end closes a line; what stands behind the last one is a line of its own
only where it is not empty (`splitLines`).

A file read in text mode knows only line feed, carriage return and the pair of both, and turns each
into one line feed (`universalNewlines`).
-/

namespace Yuml.Text

/-- The characters that end a line. -/
def lineEnds : List Char :=
  ['\n', '\r', '\x0b', '\x0c', '\x1c', '\x1d', '\x1e', '\x85', '\u2028', '\u2029']

/-- Whether the character ends a line. -/
def isLineEnd (c : Char) : Bool := lineEnds.contains c

/-- Put the character in front of the first line. -/
def consToFirst (c : Char) : List Text → List Text
  | [] => [[c]]
  | l :: ls => (c :: l) :: ls

/-- The lines of a text. `afterReturn` says that the character before was a carriage return, so
    that a line feed here belongs to the same line end. -/
def splitLinesFrom : Bool → Text → List Text
  | _, [] => []
  | afterReturn, c :: r =>
    if afterReturn && c == '\n' then splitLinesFrom false r
    else if isLineEnd c then [] :: splitLinesFrom (c == '\r') r
    else consToFirst c (splitLinesFrom false r)

/-- The lines of a text, without their line ends. -/
def splitLines (s : Text) : List Text := splitLinesFrom false s

/-- Every carriage return, with the line feed that may follow it, as one line feed. -/
def newlinesFrom : Bool → Text → Text
  | _, [] => []
  | afterReturn, c :: r =>
    if afterReturn && c == '\n' then newlinesFrom false r
    else if c == '\r' then '\n' :: newlinesFrom true r
    else c :: newlinesFrom false r

/-- A text as it is read from a file in text mode. -/
def universalNewlines (s : Text) : Text := newlinesFrom false s

end Yuml.Text
