import Yuml.Color
import Yuml.Text.WordChar

/-!
# Paint: the background written into a label

The text between the brackets of a node may end in `{bg:colour}`, and it may begin with `note:`.
Neither belongs to the label. The text is read from its LAST opening brace: from there to the end it
must be a brace, `bg`, a colon, a colour and a closing brace, with spaces at will between them, and
no line feed may stand before it. The colour is a name (ASCII letters, then decimal digits) or `#`
and six hexadecimal digits; its brightness decides the colour of the text on it.
-/

namespace Yuml

/-- The colours of a node: its background and the colour forced on its text. -/
structure Paint where
  background : Option Text
  fontColor : Option Text
  deriving DecidableEq, Repr

/-- No colours of its own. -/
def Paint.none : Paint := ⟨.none, .none⟩

/-- The paint of a background: its brightness decides the colour of the text. -/
def Paint.ofBackground (background : Text) : Paint := ⟨some background, Color.fontColor background⟩

/-- The text between the brackets of a node, taken apart. -/
structure LabelParts where
  text : Text
  paint : Paint
  isNote : Bool
  deriving DecidableEq, Repr

namespace LabelParts

/-! ## 1. The colour at the end -/

/-- A letter of the ASCII alphabet. -/
def isAsciiLetter (c : Char) : Bool := ('a' ≤ c && c ≤ 'z') || ('A' ≤ c && c ≤ 'Z')

/-- Whether the text is written as a colour: letters and then digits, or `#` and six hexadecimal
    digits. The colour need not be known. -/
def isColorText (s : Text) : Bool :=
  match s with
  | '#' :: r => r.length == 6 && r.all fun c => (Color.hexValue? c).isSome
  | s => !(s.takeWhile isAsciiLetter).isEmpty && (s.dropWhile isAsciiLetter).all Text.isDecimalDigit

/-- The text without the spaces it begins with. -/
def dropSpaces (s : Text) : Text := s.dropWhile (· == ' ')

/-- The text behind `part`, if it begins with it. -/
def after? (part s : Text) : Option Text :=
  if Text.startsWith part s then some (s.drop part.length) else none

/-- The colour in `bg : colour }`, which must be all of the text. -/
def attributeColor? (s : Text) : Option Text := do
  let r ← after? "bg".toList (dropSpaces s)
  let r ← after? ":".toList (dropSpaces r)
  let r := dropSpaces r
  let color := r.takeWhile fun c => c != ' ' && c != '}'
  if isColorText color && dropSpaces (r.drop color.length) == ['}'] then some color else none

/-- The text before the last opening brace and the text behind it. -/
def splitAtLastBrace (s : Text) : Option (Text × Text) :=
  match s.reverse.dropWhile (· != '{') with
  | [] => none
  | _ :: front => some (front.reverse, (s.reverse.takeWhile (· != '{')).reverse)

/-- The text before a colour attribute and the colour, if the text ends in one. -/
def splitBackground? (part : Text) : Option (Text × Text) := do
  let (front, body) ← splitAtLastBrace (Text.beforeFinalNewline part)
  let color ← attributeColor? body
  if '\n' ∈ front then none else some (front, color)

/-! ## 2. The mark of a note -/

/-- What a note begins with. -/
def noteMark : Text := "note:".toList

/-- Read the mark of a note, where notes are allowed. -/
def readMark (allowNote : Bool) (label : Text) (paint : Paint) : LabelParts :=
  if allowNote && Text.startsWith noteMark label then
    ⟨Text.trim (label.drop noteMark.length), paint, true⟩
  else ⟨label, paint, false⟩

/-! ## 3. Both -/

/-- The text between the brackets of a node, taken apart: colour first, mark second. -/
def ofText (part : Text) (allowNote : Bool) : LabelParts :=
  match splitBackground? part with
  | some (front, color) =>
    readMark allowNote (Text.trim front) (Paint.ofBackground (Text.toLower color))
  | none => readMark allowNote (Text.trim part) Paint.none

end LabelParts

end Yuml
