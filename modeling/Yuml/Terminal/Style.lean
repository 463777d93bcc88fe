import Yuml.Terminal.ColorName
import Yuml.Text.LetterCase
import Yuml.Text.WordChar

/-!
# Styles

The name of a tag is a style: words that name attributes (`bold`, or `b` for short), attributes
behind `not`, a colour, a colour behind `on`, and an address behind `link`. Of two words about the
same thing the later one counts. Two tags mean the same if their styles do, however they are
written; so a style has one text (`Style.text`), and a tag is known by it (`canonical?`).

A name that is no style is known by itself in small letters.
-/

namespace Yuml.Terminal

/-! ## 1. Attributes -/

/-- The attributes of text on a terminal. -/
inductive Attribute where
  | bold
  | dim
  | italic
  | underline
  | blink
  | blinkFast
  | reverse
  | conceal
  | strike
  | underlineTwice
  | frame
  | encircle
  | overline
  deriving DecidableEq, Repr

namespace Attribute

/-- The attributes in the order in which a style names them. -/
def all : List Attribute :=
  [bold, dim, italic, underline, blink, blinkFast, reverse, conceal, strike, underlineTwice, frame,
   encircle, overline]

/-- The name of an attribute. -/
def name : Attribute → String
  | .bold => "bold"
  | .dim => "dim"
  | .italic => "italic"
  | .underline => "underline"
  | .blink => "blink"
  | .blinkFast => "blink2"
  | .reverse => "reverse"
  | .conceal => "conceal"
  | .strike => "strike"
  | .underlineTwice => "underline2"
  | .frame => "frame"
  | .encircle => "encircle"
  | .overline => "overline"

/-- The short names of attributes. -/
def shortNames : List (String × Attribute) :=
  [("b", bold), ("d", dim), ("i", italic), ("u", underline), ("r", reverse), ("c", conceal),
   ("s", strike), ("uu", underlineTwice), ("o", overline)]

/-- The attribute of a name, a full one or a short one. -/
def ofName? (s : Text) : Option Attribute :=
  (all.find? fun a => a.name.toList == s).or
    ((shortNames.find? fun n => n.1.toList == s).map (·.2))

end Attribute

/-! ## 2. Colours -/

/-- Why the name of a tag is no style. -/
inductive StyleFault where
  /-- A word that names nothing. -/
  | unknown
  /-- A channel of a colour without digits, which spoils the whole markup. -/
  | emptyChannel
  deriving DecidableEq, Repr

/-- The number of some decimal digits of any script. -/
def digitsValue (s : Text) : Nat :=
  s.foldl (fun n c => 10 * n + Text.digitValue c) 0

/-- The text between the brackets of `name(…)`. -/
def inBrackets? (name : String) (s : Text) : Option Text :=
  let front := name.toList ++ ['(']
  if Text.startsWith front s && s.getLast? = some ')' then some (s.drop front.length).dropLast
  else none

/-- Whether three channels of a colour, with commas between them, can be shown. -/
def checkChannels (inside : Text) : Except StyleFault Unit :=
  if inside.isEmpty || !inside.all fun c => Text.isDecimalDigit c || c == ',' then .error .unknown
  else
    let channels := Text.splitAt ',' inside
    if channels.length ≠ 3 then .error .unknown
    else if channels.any (·.isEmpty) then .error .emptyChannel
    else if channels.all fun n => digitsValue n ≤ 255 then .ok () else .error .unknown

/-- A colour in small letters, if it is one: a name, `#` and six hexadecimal digits, `color(…)` with
    a number or `rgb(…)` with three. -/
def colorOf (word : Text) : Except StyleFault Text :=
  let color := Text.lowered word
  let isHexDigit := fun (c : Char) => c.isDigit || ('a' ≤ c && c ≤ 'f')
  if color = "default".toList ∨ colorNames.any fun n => n.toList == color then .ok color
  else if color.head? = some '#' then
    if color.length = 7 ∧ (color.drop 1).all isHexDigit then .ok color else .error .unknown
  else match inBrackets? "color" color, inBrackets? "rgb" color with
    | some n, _ =>
      if 1 ≤ n.length ∧ n.length ≤ 3 ∧ n.all Char.isDigit ∧ digitsValue n ≤ 255 then .ok color
      else .error .unknown
    | none, some channels => (checkChannels channels).map fun _ => color
    | none, none => .error .unknown

/-! ## 3. Styles -/

/-- A style: the attributes that are switched on or off, the last word about each first; the
    colours of the text and of what is behind it, and an address. -/
structure Style where
  attributes : List (Attribute × Bool)
  color : Option Text
  background : Option Text
  link : Option Text
  deriving DecidableEq, Repr

namespace Style

/-- A style that changes nothing. -/
def plain : Style := ⟨[], none, none, none⟩

/-- The style that some words add up to, on top of a style. -/
def ofWords (s : Style) : List Text → Except StyleFault Style
  | [] => .ok s
  | word :: rest =>
    let small := Text.lowered word
    if small = "on".toList then
      match rest with
      | [] => .error .unknown
      | color :: rest => do
        let background ← colorOf color
        ofWords { s with background := some background } rest
    else if small = "not".toList then
      match rest with
      | [] => .error .unknown
      | name :: rest =>
        match Attribute.ofName? name with
        | some a => ofWords { s with attributes := (a, false) :: s.attributes } rest
        | none => .error .unknown
    else if small = "link".toList then
      match rest with
      | [] => .error .unknown
      | address :: rest => ofWords { s with link := some address } rest
    else match Attribute.ofName? small with
      | some a => ofWords { s with attributes := (a, true) :: s.attributes } rest
      | none => do
        let color ← colorOf small
        ofWords { s with color := some color } rest

/-- The words that a style says about an attribute. -/
def attributeWords (s : Style) (a : Attribute) : List Text :=
  match s.attributes.find? (·.1 == a) with
  | none => []
  | some (_, true) => [a.name.toList]
  | some (_, false) => ["not".toList, a.name.toList]

/-- The words of a style, in order. -/
def words (s : Style) : List Text :=
  Attribute.all.flatMap s.attributeWords ++ s.color.toList ++
    (s.background.map fun c => ["on".toList, c]).getD [] ++
    (s.link.map fun a => ["link".toList, a]).getD []

/-- The text of a style. -/
def text (s : Style) : Text :=
  if s.words.isEmpty then "none".toList else Text.joinWith [' '] s.words

end Style

/-- What the name of a tag is known by: the text of its style, or else the name in small letters. It
    fails where a colour has a channel without digits. -/
def canonical? (name : Text) : Option Text :=
  if Text.trim name = "none".toList then some "none".toList
  else match Style.plain.ofWords (Text.words name) with
    | .ok s => some s.text
    | .error .unknown => some (Text.lowered (Text.trim name))
    | .error .emptyChannel => none

end Yuml.Terminal
