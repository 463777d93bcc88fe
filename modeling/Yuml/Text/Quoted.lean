import Yuml.Text.Printable

/-!
# Quoted texts

A text inside a message stands in quotes, so that its ends and its invisible characters can be
seen. The quote is `'`, unless the text holds `'` and no `"`: then it is `"`. A backslash and the
quote in use get a backslash in front; line feed, carriage return and tab are written `\n`, `\r`
and `\t`; any other character that is not printable is written by its code point in lower-case
hexadecimal, with two, four or eight digits.
-/

namespace Yuml.Text

/-- The hexadecimal digits of a number, with zeros in front up to a width. -/
def hexPadded (width n : Nat) : Text :=
  let digits := Nat.toDigits 16 n
  List.replicate (width - digits.length) '0' ++ digits

/-- How one character is written between quotes. -/
def quoteChar (quote c : Char) : Text :=
  if c = quote ∨ c = '\\' then ['\\', c]
  else if c = '\n' then ['\\', 'n']
  else if c = '\r' then ['\\', 'r']
  else if c = '\t' then ['\\', 't']
  else if isPrintable c then [c]
  else if c.toNat < 0x100 then '\\' :: 'x' :: hexPadded 2 c.toNat
  else if c.toNat < 0x10000 then '\\' :: 'u' :: hexPadded 4 c.toNat
  else '\\' :: 'U' :: hexPadded 8 c.toNat

/-- The quote that a text is written in. -/
def quoteFor (s : Text) : Char :=
  if '\'' ∈ s ∧ '"' ∉ s then '"' else '\''

/-- The text in quotes. -/
def quoted (s : Text) : Text :=
  quoteFor s :: (s.flatMap (quoteChar (quoteFor s)) ++ [quoteFor s])

end Yuml.Text
