import Yuml.Color.Names
import Yuml.Text.LetterCase

/-!
# Colours: channels, brightness and readable text

A colour is written as `#` and six hexadecimal digits or as a name. Its LUMA is the weighted sum of
its channels; the weights are whole ten-thousandths, so a luma is counted in ten-thousandths and
nothing is rounded. Text on a dark colour is forced to white and on a light one to black; in
between the drawing program chooses.
-/

namespace Yuml.Color

/-! ## 1. Channels -/

/-- The value of a hexadecimal digit in either case. -/
def hexValue? (c : Char) : Option Nat :=
  if '0' ≤ c ∧ c ≤ '9' then some (c.toNat - '0'.toNat)
  else if 'a' ≤ c ∧ c ≤ 'f' then some (c.toNat - 'a'.toNat + 10)
  else if 'A' ≤ c ∧ c ≤ 'F' then some (c.toNat - 'A'.toNat + 10)
  else none

/-- The channels that `#` and six hexadecimal digits spell. -/
def ofHex? : Text → Option Rgb
  | ['#', a, b, c, d, e, f] =>
    match hexValue? a, hexValue? b, hexValue? c, hexValue? d, hexValue? e, hexValue? f with
    | some a, some b, some c, some d, some e, some f => some ⟨16 * a + b, 16 * c + d, 16 * e + f⟩
    | _, _, _, _, _, _ => none
  | _ => none

/-- The channels of a colour, if it is known. White space around it and the case of its letters do
    not count. -/
def rgb? (color : Text) : Option Rgb :=
  let s := Text.trim color
  match ofHex? s with
  | some c => some c
  | none => (table.find? fun e => e.1 == Text.toLower s).map (·.2)

/-! ## 2. Brightness -/

/-- The luma of a triple of channels, in ten-thousandths. -/
def weigh (c : Rgb) : Nat := 2126 * c.red + 7152 * c.green + 722 * c.blue

/-- The luma of a colour, in ten-thousandths; 128 for a colour that is not known. -/
def luma (color : Text) : Nat :=
  match rgb? color with
  | some c => weigh c
  | none => 1280000

/-- Below this luma text is white. -/
def darkBelow : Nat := 640000

/-- Above this luma text is black. -/
def lightAbove : Nat := 1920000

/-- The colour forced on text over a background of some luma. -/
def contrast (luma : Nat) : Option Text :=
  if luma < darkBelow then some "white".toList
  else if lightAbove < luma then some "black".toList
  else none

/-- The colour forced on text over a background. -/
def fontColor (background : Text) : Option Text := contrast (luma background)

end Yuml.Color
