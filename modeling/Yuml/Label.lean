import Yuml.Text.Basic

/-!
# Labels

A label is the text of a node: fields separated by `|`. The first field, trimmed, is the KEY by
which later mentions of the node find it (`key`). A label is written out in two ways that are never
mixed:

* in a plain attribute braces and angle brackets get a backslash and `;` becomes a line feed
  (`escape`; `unescape` takes the backslashes away again);
* in a cell of a table `&`, `<`, `>` and line feeds become entities (`escapeCell`).

Fields of class boxes are broken at spaces before either (`wrap`).
-/

namespace Yuml.Label

/-! ## 1. Keys -/

/-- The first field of a label, trimmed: what later mentions of the node are matched by. -/
def key (label : Text) : Text := Text.trim (label.takeWhile (· != '|'))

/-! ## 2. Escaping -/

/-- The characters that a plain attribute protects with a backslash. -/
def isProtected (c : Char) : Bool := c == '{' || c == '}' || c == '<' || c == '>'

/-- How one character of a label is written in a plain attribute. -/
def escapeChar (c : Char) : Text :=
  if isProtected c then ['\\', c] else if c = ';' then ['\n'] else [c]

/-- The label as a plain attribute shows it. -/
def escape (label : Text) : Text := label.flatMap escapeChar

/-- The label without the backslashes in front of braces and angle brackets. -/
def unescape : Text → Text
  | [] => []
  | '\\' :: d :: r => if isProtected d then d :: unescape r else '\\' :: unescape (d :: r)
  | c :: r => c :: unescape r

/-- How one character is written in a table cell. -/
def escapeCellChar (c : Char) : Text :=
  if c = '\n' then "<BR/>".toList
  else if c = '&' then "&amp;".toList
  else if c = '<' then "&lt;".toList
  else if c = '>' then "&gt;".toList
  else [c]

/-- The text of a table cell. -/
def escapeCell (s : Text) : Text := s.flatMap escapeCellChar

/-! ## 3. Wrapping -/

/-- The part before the last space and the part behind it, unless there is no space or it is the
    first character. -/
def splitAtLastSpace (line : Text) : Option (Text × Text) :=
  let tail := (line.reverse.takeWhile (· != ' ')).reverse
  let front := line.take (line.length - tail.length - 1)
  if front.isEmpty then none else some (front, tail)

/-- A line of `width` characters or more is broken at its last space, which becomes a line feed.
    The piece behind that space holds no further space, so nothing in it can be broken again. -/
def wrap (width : Nat) (line : Text) : Text :=
  if line.length < width then line
  else match splitAtLastSpace line with
    | none => line
    | some (front, tail) => front ++ '\n' :: tail

/-- The width at which the fields of a class box are broken. -/
def boxWidth : Nat := 20

/-- The label with its fields broken at a width and escaped for a plain attribute. Without
    `divided` the whole label is one field. -/
def format (width : Nat) (divided : Bool) (label : Text) : Text :=
  let fields := if divided then Text.splitAt '|' label else [label]
  escape (Text.joinWith ['|'] (fields.map (wrap width)))

end Yuml.Label
