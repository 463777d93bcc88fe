import Yuml.Text.Basic
import Yuml.Text.CasePairs
import Yuml.Text.Cased

/-!
# Upper and lower case

Colour names, file suffixes, level names and message patterns are ASCII words that are compared
without regard to case. So a case mapping has to be right only where its result is an ASCII letter:
`toLower` maps the ASCII capitals and the Kelvin sign (U+212A, whose small letter is `k`), `toUpper`
the small ASCII letters, the dotless i (U+0131, capital `I`) and the long s (U+017F, capital `S`).
Every other character is left as it is; none of them has a single ASCII letter as its other case.

Text that is not compared with ASCII words is put in small letters of every script (`lowered`).
-/

namespace Yuml.Text

/-- The small letter of a character, where that is an ASCII letter. -/
def lowerChar (c : Char) : Char :=
  if c = '\u212a' then 'k' else c.toLower

/-- The capital letter of a character, where that is an ASCII letter. -/
def upperChar (c : Char) : Char :=
  if c = '\u0131' then 'I' else if c = '\u017f' then 'S' else c.toUpper

/-- The text in small letters. -/
def toLower (s : Text) : Text := s.map lowerChar

/-- The text in capital letters. -/
def toUpper (s : Text) : Text := s.map upperChar

/-- The capital sigma, whose small letter has a form of its own at the end of a word. -/
def capitalSigma : Char := '\u03a3'

/-- The small letter of a capital, as a text; `inWord` and `wordGoesOn` say whether letters stand
    before it and behind it. -/
def smallForm (inWord wordGoesOn : Bool) (c : Char) : Text :=
  if c = capitalSigma then [if inWord && !wordGoesOn then '\u03c2' else '\u03c3']
  else if c = '\u0130' then ['i', '\u0307']
  else [smallLetter c]

/-- Whether the first character that counts has a case. -/
def beginsCased (s : Text) : Bool := (s.find? fun c => !isCaseIgnorable c).any isCased

/-- The text in small letters of every script; `inWord` says whether a letter stands before it. -/
def loweredFrom : (inWord : Bool) → Text → Text
  | _, [] => []
  | inWord, c :: r =>
    smallForm inWord (beginsCased r) c ++
      loweredFrom (if isCaseIgnorable c then inWord else isCased c) r

/-- The text in small letters of every script. -/
def lowered (s : Text) : Text := loweredFrom false s

end Yuml.Text
